import CBindings.Proofs.Native.Arrays
import CBindings.Proofs.Registry.Namespace
import CBindings.Proofs.Registry.Search

/-! Aliases in the search for native types. A type is found through an alias that is bound just as it is found through
what the alias stands for. -/
namespace CBindings.Register

open Outcome

variable {α β : Type} {r s : Registry}

/-- Only the table of classes differs, by further arrays. -/
def MoreArrays (r r' : Registry) : Prop := ∃ c, r.classes.MoreArrays c ∧ r' = { r with classes := c }

theorem MoreArrays.refl (r : Registry) : MoreArrays r r := ⟨r.classes, .refl _, rfl⟩

/-- From `r` and from `s`, whatever arrays were made since, two computations give the same answer, and make at most
further arrays. -/
def Alike (r s : Registry) (x y : Register α) : Prop :=
  ∀ r' s', MoreArrays r r' → MoreArrays s s' →
    (x.run r').1 = (y.run s').1 ∧ MoreArrays r (x.run r').2 ∧ MoreArrays s (y.run s').2

theorem alike_pure (a : α) : Alike r s (pure a) (pure a) := fun _ _ left right => ⟨rfl, left, right⟩

theorem alike_throw (f : RegistrationFault) : Alike r s (throw f : Register α) (throw f) :=
  fun _ _ left right => ⟨rfl, left, right⟩

theorem Alike.bind {x y : Register α} {f g : α → Register β} (first : Alike r s x y)
    (second : ∀ a, Alike r s (f a) (g a)) : Alike r s (x >>= f) (y >>= g) := by
  intro r' s' left right
  obtain ⟨same, left', right'⟩ := first r' s' left right
  rw [run_bind, run_bind]
  generalize x.run r' = ended at same left' ⊢
  generalize y.run s' = ended' at same right' ⊢
  obtain ⟨result, r''⟩ := ended
  obtain ⟨result', s''⟩ := ended'
  cases same
  cases result with
  | ok a => exact second a r'' s'' left' right'
  | error f => exact ⟨rfl, left', right'⟩

theorem Alike.tryCatch {x y : Register α} {f g : RegistrationFault → Register α} (first : Alike r s x y)
    (second : ∀ e, Alike r s (f e) (g e)) : Alike r s (tryCatch x f) (tryCatch y g) := by
  intro r' s' left right
  obtain ⟨same, left', right'⟩ := first r' s' left right
  rw [run_tryCatch, run_tryCatch]
  generalize x.run r' = ended at same left' ⊢
  generalize y.run s' = ended' at same right' ⊢
  obtain ⟨result, r''⟩ := ended
  obtain ⟨result', s''⟩ := ended'
  cases same
  cases result with
  | ok a => exact ⟨rfl, left', right'⟩
  | error e => exact second e r'' s'' left' right'

theorem alike_mapM {f : α → Register β} (xs : List α) (each : ∀ a ∈ xs, Alike r s (f a) (f a)) :
    Alike r s (xs.mapM f) (xs.mapM f) := by
  induction xs with
  | nil => exact alike_pure []
  | cons x rest ih =>
    rw [List.mapM_cons]
    refine (each x List.mem_cons_self).bind fun b => ?_
    exact (ih fun a inside => each a (List.mem_cons_of_mem x inside)).bind fun bs => alike_pure (b :: bs)

/- The arrays that were made do not show in the answer, so it is the same from `r` and from `s`. -/
theorem alike_array (classes : s.classes = r.classes) (element : NativeType) (length : Int) :
    Alike r s (onClasses (ClassWork.array element length)) (onClasses (ClassWork.array element length)) := by
  rintro _ _ ⟨c, left, rfl⟩ ⟨d, right, rfl⟩
  have fromLeft := ClassWork.array_moreArrays left element length
  have fromRight := ClassWork.array_moreArrays right element length
  rw [onClasses_run, onClasses_run]
  refine ⟨?_, ⟨_, fromLeft.2, rfl⟩, ⟨_, fromRight.2, rfl⟩⟩
  dsimp only
  rw [fromLeft.1, fromRight.1, classes]

/- A tag whose class is known stands for it. -/
theorem alike_functionPointer (types : Option NativeType × List NativeType) :
    Alike r s (functionPointer types) (functionPointer types) := by
  unfold functionPointer
  split
  · exact alike_throw _
  · exact alike_pure _

theorem alike_recordClass {tag : String} (known : tagClass? r tag ≠ none) (same : tagClass? s tag = tagClass? r tag)
    (isUnion : Bool) : Alike r s (recordClass tag isUnion) (recordClass tag isUnion) := by
  obtain ⟨i, found⟩ := Option.ne_none_iff_exists'.mp known
  rintro _ _ ⟨c, left, rfl⟩ ⟨d, right, rfl⟩
  have leftTag : tagClass? { r with classes := c } tag = some i := found
  have rightTag : tagClass? { s with classes := d } tag = some i := same.trans found
  rw [recordClass_run, recordClass_run, leftTag, rightTag]
  exact ⟨rfl, ⟨c, left, rfl⟩, ⟨d, right, rfl⟩⟩

/-- The type mentions a struct or union by its tag. -/
def HasTag (t : TypeExpr) (tag : String) : Prop :=
  ∃ name quals canonical, ∃ isUnion : Bool, t.Mentions (.named name quals canonical) ∧
    splitTag name = some (if isUnion then .union else .struct, tag)

/-- A name is bound to the same native type in both, or only in `s`, and there to the one that `r` has for the type it
stands for. -/
def FindsAlike (s r : Registry) (name : String) (canonical : Option TypeExpr) : Prop :=
  typeOf? s name = typeOf? r name ∨
    ∃ t native, canonical = some t ∧ typeOf? r name = none ∧ typeOf? s name = some native ∧
      Alike r r (nativeType t) (pure (some native))

theorem alike_untagged {name : String} {quals : List String} {canonical : Option TypeExpr}
    (untagged : splitTag name = none) (finds : FindsAlike s r name canonical)
    (inner : ∀ t, canonical = some t → Alike s r (nativeType t) (nativeType t)) :
    Alike s r (nativeType (.named name quals canonical)) (nativeType (.named name quals canonical)) := by
  unfold nativeType
  simp only [untagged]
  split
  · exact alike_pure _
  · rintro _ _ ⟨c, left, rfl⟩ ⟨d, right, rfl⟩
    have leftFound : typeOf? { s with classes := c } name = typeOf? s name := rfl
    have rightFound : typeOf? { r with classes := d } name = typeOf? r name := rfl
    rw [run_bind, run_bind, boundType?_run, boundType?_run, leftFound, rightFound]
    dsimp only
    rcases finds with same | ⟨t, native, rfl, unbound, bound, answer⟩
    · rw [same]
      cases typeOf? r name with
      | some native => exact ⟨rfl, ⟨c, left, rfl⟩, ⟨d, right, rfl⟩⟩
      | none =>
        cases canonical with
        | some t => exact inner t rfl _ _ ⟨c, left, rfl⟩ ⟨d, right, rfl⟩
        | none => exact ⟨rfl, ⟨c, left, rfl⟩, ⟨d, right, rfl⟩⟩
    · rw [unbound, bound]
      obtain ⟨found, grown, -⟩ := answer _ _ ⟨d, right, rfl⟩ ⟨d, right, rfl⟩
      exact ⟨found.symm, ⟨c, left, rfl⟩, grown⟩

/-- From `s` and from `r` the search for `t` meets the same: no records without a tag, tags whose classes are known,
and names that are bound alike. -/
structure Comparable (s r : Registry) (t : TypeExpr) : Prop where
  plain : ∀ body, ¬ t.Mentions (.record body)
  tags : ∀ tag, HasTag t tag → tagClass? s tag ≠ none ∧ tagClass? r tag = tagClass? s tag
  names : ∀ name quals canonical, t.Mentions (.named name quals canonical) → FindsAlike s r name canonical

theorem Comparable.inner {t u : TypeExpr} (whole : Comparable s r t) (mentioned : t.Mentions u) : Comparable s r u where
  plain body inside := whole.plain body (mentioned.trans inside)
  tags := by
    rintro tag ⟨name, quals, canonical, isUnion, inside, tagged⟩
    exact whole.tags tag ⟨name, quals, canonical, isUnion, mentioned.trans inside, tagged⟩
  names name quals canonical inside := whole.names name quals canonical (mentioned.trans inside)

theorem alike_nativeType (classes : r.classes = s.classes) (t : TypeExpr) (whole : Comparable s r t) :
    Alike s r (nativeType t) (nativeType t) := by
  have valued_alike (u : TypeExpr) (found : Option NativeType) : Alike s r (valued u found) (valued u found) := by
    cases found with
    | some native => exact alike_pure native
    | none => exact alike_throw _
  induction t using TypeExpr.induction with
  | named name quals canonical ih =>
    have inner (t : TypeExpr) (is : canonical = some t) : Alike s r (nativeType t) (nativeType t) :=
      ih t is (whole.inner (is ▸ .canonical .here))
    rcases cut : splitTag name with _ | ⟨kind, bare⟩
    · exact alike_untagged cut (whole.names name quals canonical .here) inner
    · have tagged (isUnion : Bool) (same : kind = if isUnion then .union else .struct) :
          Alike s r (nativeType (.named name quals canonical)) (nativeType (.named name quals canonical)) := by
        rw [same] at cut
        obtain ⟨known, equal⟩ := whole.tags bare ⟨name, quals, canonical, isUnion, .here, cut⟩
        rw [nativeType_tagged_eq cut]
        exact (alike_recordClass known equal isUnion).bind fun native => alike_pure (some native)
      cases kind with
      | struct => exact tagged false rfl
      | union => exact tagged true rfl
      | enum =>
        cases canonical with
        | some t =>
          rw [nativeType_enumeration cut]
          exact inner t rfl
        | none =>
          unfold nativeType
          simp only [cut]
          exact alike_pure _
  | pointer pointee ih =>
    rw [nativeType]
    split
    · exact alike_pure _
    · refine Alike.bind (Alike.tryCatch (ih (whole.inner (.pointee .here))) fun f => ?_) fun target => alike_pure _
      split
      · exact alike_pure none
      · exact alike_throw f
  | array element size ih =>
    rw [nativeType]
    refine (ih (whole.inner (.element .here))).bind fun found => ?_
    refine (valued_alike element found).bind fun native => ?_
    exact (alike_array classes native (size.getD 0)).bind fun made => alike_pure (some made)
  | function result parameters variadic ih each =>
    rw [nativeType_function, signatureTypes, parameterTypes_eq]
    refine Alike.bind ?_ fun types => alike_functionPointer types
    refine (ih (whole.inner (.result .here))).bind fun found => ?_
    refine Alike.bind (alike_mapM parameters fun p inside => ?_) fun natives => alike_pure (found, natives)
    exact (each p inside (whole.inner (.parameter inside .here))).bind fun found => valued_alike p.type found
  | record body => exact absurd .here (whole.plain body)
  | stray text =>
    rw [nativeType]
    exact alike_throw _

/-- `more` adds aliases of `t` to the names of `r`. Each of them is free in `r` and no tag of `t`, stands for one type
wherever `t` mentions it, and is bound to the native type that `r` has for that type. -/
def AddsAliases (r : Registry) (t : TypeExpr) (more : Namespace) : Prop :=
  ∀ name, more.get? name = r.names.get? name ∨
    ∃ canonical native, r.names.get? name = none ∧ ¬ HasTag t name ∧
      (∀ quals other, t.Mentions (.named name quals other) → other = some canonical) ∧
      ((nativeType canonical).run r).1 = .ok (some native) ∧ more.get? name = some (.type native)

/- Without other names the search ends as before, so what it finds in `r` it finds after any more arrays were made. -/
theorem alike_answer {t : TypeExpr} {native : NativeType} (whole : Comparable r r t)
    (found : ((nativeType t).run r).1 = .ok (some native)) : Alike r r (nativeType t) (pure (some native)) := by
  intro r' s' left right
  obtain ⟨same, grown, -⟩ := alike_nativeType rfl t whole r' r left (MoreArrays.refl r)
  exact ⟨same.trans found, grown, right⟩

/-- The native type of a C type does not depend on which of its aliases are bound, as long as each is bound to the
native type of what it stands for. -/
theorem nativeType_addsAliases {r : Registry} {t : TypeExpr} {more : Namespace}
    (plain : ∀ body, ¬ t.Mentions (.record body)) (known : ∀ tag, HasTag t tag → tagClass? r tag ≠ none)
    (adds : AddsAliases r t more) :
    ((nativeType t).run { r with names := more }).1 = ((nativeType t).run r).1 := by
  have own : Comparable r r t := ⟨plain, fun tag has => ⟨known tag has, rfl⟩, fun _ _ _ _ => .inl rfl⟩
  have whole : Comparable { r with names := more } r t := by
    refine ⟨plain, fun tag has => ?_, fun name quals canonical mentioned => ?_⟩
    · have same : more.get? tag = r.names.get? tag := by
        rcases adds tag with same | ⟨_, _, _, apart, _⟩
        · exact same
        · exact absurd has apart
      have equal : tagClass? r tag = tagClass? { r with names := more } tag := by
        simp only [tagClass?, boundClass?, same]
      exact ⟨equal ▸ known tag has, equal⟩
    · rcases adds name with same | ⟨t, native, free, _, stands, found, bound⟩
      · exact .inl (by simp only [typeOf?, same])
      · obtain rfl := stands quals canonical mentioned
        have inner := own.inner (mentioned.trans (.canonical .here))
        exact .inr ⟨t, native, rfl, by simp [typeOf?, free], by simp [typeOf?, bound], alike_answer inner found⟩
  have classes : r.classes = ({ r with names := more } : Registry).classes := rfl
  exact (alike_nativeType classes t whole _ r (MoreArrays.refl _) (MoreArrays.refl r)).1

/-- `struct node` was mentioned, and `size` is bound. -/
def nodeRegistry : Registry :=
  { names := [("size", .type (.simple .ulong))], classes := { records := [{ name := "node" }] },
    pending := [("node", 0)] }

def pointerToNode : TypeExpr := .pointer (.named "struct node" [] none)

def sixteenOctets : TypeExpr := .array (.named "octet" [] (some (.named "unsigned char" [] none))) (some 16)

/-- A callback `size (*)(list, digest *, missing *)` with two aliases, and with a type that is known nowhere. -/
def listCallback : TypeExpr :=
  .function (.named "size" [] none)
    [⟨none, .named "list" [] (some pointerToNode)⟩, ⟨some "out", .pointer (.named "digest" [] (some sixteenOctets))⟩,
     ⟨none, .pointer (.named "missing" [] none)⟩] false

def listNames : Namespace :=
  nodeRegistry.names ++ [("list", .type (.pointer (.record 0))), ("digest", .type (.array (.simple .ubyte) 16))]

theorem listCallback_hasTag {tag : String} (has : HasTag listCallback tag) : tag = "node" := by
  obtain ⟨name, quals, canonical, isUnion, mentioned, tagged⟩ := has
  have cut : splitTag name = none ∨ splitTag name = some (.struct, "node") := by
    simp [listCallback, pointerToNode, sixteenOctets] at mentioned
    rcases mentioned with ⟨rfl, -⟩ | (⟨rfl, -⟩ | ⟨rfl, -⟩) | (⟨rfl, -⟩ | ⟨rfl, -⟩ | ⟨rfl, -⟩) | ⟨rfl, -⟩ <;> decide
  rcases cut with untagged | node
  · simp [untagged] at tagged
  · simp_all

theorem nativeType_sixteenOctets :
    ((nativeType sixteenOctets).run nodeRegistry).1 = .ok (some (.array (.simple .ubyte) 16)) := by
  have octet := nativeType_canonical (by decide) (by decide) (by decide : typeOf? nodeRegistry "octet" = none) []
    (.named "unsigned char" [] none)
  have char : (nativeType (.named "unsigned char" [] none)).run nodeRegistry =
      (.ok (some (.simple .ubyte)), nodeRegistry) := rfl
  have counted :
      ¬ (decide ((16 : Int) ≥ ClassWork.indexLimit) || decide ((16 : Int) < -ClassWork.indexLimit)) = true := by decide
  have made := ClassWork.array_run_eq (.simple .ubyte) nodeRegistry.classes counted (by decide)
  rw [if_neg (by decide), if_neg (by decide)] at made
  rw [sixteenOctets, nativeType_array, run_bind, valueType_run, octet, char]
  dsimp only
  rw [run_bind, Option.getD_some, onClasses_run, made]
  rfl

theorem listCallback_addsAliases :
    AddsAliases nodeRegistry listCallback listNames ∧
      ((nativeType listCallback).run { nodeRegistry with names := listNames }).1 =
        ((nativeType listCallback).run nodeRegistry).1 := by
  have plain : ∀ body, ¬ listCallback.Mentions (.record body) := by
    simp [listCallback, pointerToNode, sixteenOctets]
  have known : ∀ tag, HasTag listCallback tag → tagClass? nodeRegistry tag ≠ none := by
    intro tag has
    rw [listCallback_hasTag has]
    decide
  have apart {name : String} (other : name ≠ "node") : ¬ HasTag listCallback name :=
    fun has => other (listCallback_hasTag has)
  have adds : AddsAliases nodeRegistry listCallback listNames := by
    intro name
    by_cases list : name = "list"
    · subst list
      exact .inr ⟨pointerToNode, _, rfl, apart (by decide), by simp [listCallback, pointerToNode, sixteenOctets],
        rfl, rfl⟩
    · by_cases digest : name = "digest"
      · subst digest
        exact .inr ⟨sixteenOctets, _, rfl, apart (by decide), by simp [listCallback, pointerToNode, sixteenOctets],
          nativeType_sixteenOctets, rfl⟩
      · exact .inl (by simp [listNames, nodeRegistry, Namespace.get?_cons, list, digest])
  exact ⟨adds, nativeType_addsAliases plain known adds⟩

end CBindings.Register
