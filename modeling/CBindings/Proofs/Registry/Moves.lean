import CBindings.Proofs.Registry.Effects

/-! A search for native types as a row of moves. What each of its four kinds of work does to the registry, the whole
search does: a tag is asked for, an array is made, a class is declared, and a class that is still blank gets its field
list. -/
namespace CBindings

/-- A class of the table that has got no field list, and was refused none. -/
structure Classes.Blank (c : Classes) (i : Nat) : Prop where
  inside : i < c.records.length
  fields : (c.record i).fields = none
  failed : (c.record i).failed = false

variable {c c' : Classes} {i : Nat}

theorem Classes.blank_of_core {name : String} {isUnion : Bool} (inside : i < c.records.length)
    (core : (c.record i).core = (name, isUnion, none, false)) : c.Blank i :=
  ⟨inside, congrArg (fun core => core.2.2.1) core, congrArg (fun core => core.2.2.2) core⟩

theorem Classes.Blank.extends (blank : c.Blank i) (extended : c.Extends c') : c'.Blank i := by
  have same := extended.core_eq i blank.inside
  refine ⟨Nat.lt_of_lt_of_le blank.inside extended.length_le, ?_, ?_⟩
  · rw [RecordClass.fields_eq same, blank.fields]
  · rw [RecordClass.failed_eq same, blank.failed]

theorem Classes.blank_declared (c : Classes) (name : String) (isUnion : Bool) :
    ({ c with records := c.records ++ [{ name, isUnion }] } : Classes).Blank c.records.length := by
  have core : (({ c with records := c.records ++ [{ name, isUnion }] } : Classes).record c.records.length).core =
      (name, isUnion, none, false) := by
    rw [record_append_length]
    rfl
  exact blank_of_core (by simp) core

namespace Register

open Outcome

/-- A class that the registry knows of: it is in the table, a name is bound to it, or it waits for its field list. -/
def Known (r : Registry) (k : Nat) : Prop :=
  k < r.classes.records.length ∨ (∃ name, r.names.get? name = some (.type (.record k))) ∨
    ∃ entry ∈ r.pending, entry.2 = k

theorem Known.grown {r r' : Registry} {P : String → Bool → Prop} {k : Nat} (known : Known r k) (grown : Grown P r r') :
    Known r' k := by
  obtain ⟨⟨extended, more, pending, -⟩, classes, pending', rfl⟩ := grown
  rcases known with inside | bound | ⟨entry, waits, same⟩
  · exact .inl (Nat.lt_of_lt_of_le inside extended.length_le)
  · exact .inr (.inl bound)
  · refine .inr (.inr ⟨entry, ?_, same⟩)
    rw [pending]
    exact List.mem_append_left more waits

theorem recordClass_known {tag : String} {isUnion : Bool} {r r' : Registry} {k : Nat}
    (ended : (recordClass tag isUnion).run r = (.ok (.record k), r')) : Known r' k := by
  rcases recordClass_cases tag isUnion r with ⟨i, found, known⟩ | ⟨-, ⟨-, refused⟩ | made⟩
  · cases ended.symm.trans known
    rcases Option.or_eq_some_iff.mp found with bound | ⟨-, waits⟩
    · refine .inr (.inl ⟨tag, ?_⟩)
      unfold boundClass? at bound
      split at bound
      · cases bound
        assumption
      · cases bound
    · obtain ⟨before, after, split, -⟩ := List.lookup_eq_some_iff.mp waits
      refine .inr (.inr ⟨(tag, k), ?_, rfl⟩)
      rw [split]
      exact List.mem_append_right before (.head after)
  · cases ended.symm.trans refused
  · cases ended.symm.trans made
    exact .inl (by simp)

theorem nativeType_known {t : TypeExpr} {r r' : Registry} {k : Nat}
    (ended : (nativeType t).run r = (.ok (some (.record k)), r')) : Known r' k := by
  induction t using TypeExpr.induction generalizing r with
  | named name quals canonical ih =>
    have named := nativeType_named name quals canonical r
    rw [ended] at named
    generalize result : ((.ok (some (.record k)), r') : Except RegistrationFault (Option NativeType) × Registry) = found
      at named
    cases named with
    | tagged cut =>
      obtain ⟨native, r₁, found, remaining⟩ := run_bind_ok result.symm
      cases remaining
      exact recordClass_known found
    | enumeration cut => exact ih _ rfl result.symm
    | canonical untagged unknown unbound => exact ih _ rfl result.symm
    | bound untagged unknown bound =>
      cases result
      unfold typeOf? at bound
      split at bound
      · cases bound
        exact .inr (.inl ⟨name, by assumption⟩)
      · cases bound
    | @basic _ simple untagged known =>
      cases simple with
      | none => cases result
      | some simple => cases result
    | integer | missing => cases result
  | pointer pointee ih =>
    rw [nativeType] at ended
    split at ended
    · cases ended
    · obtain ⟨target, _, -, remaining⟩ := run_bind_ok ended
      cases target with
      | none => cases remaining
      | some t => cases remaining
  | array element size ih =>
    obtain ⟨found, length, r₁, -, same, -⟩ := nativeType_array_ok ended
    cases same
  | function result parameters variadic ihResult ihParameters =>
    obtain ⟨types, -, same⟩ := nativeType_function_ok ended
    cases same
  | record body ih =>
    obtain ⟨name, fields, isUnion, anonymous, location⟩ := body
    rw [nativeType] at ended
    cases fields with
    | none =>
      obtain ⟨i, _, made, remaining⟩ := run_bind_ok ended
      cases remaining
      obtain ⟨rfl, rfl⟩ := declare_ok made
      exact .inl (by simp)
    | some fields =>
      obtain ⟨i, r₁, made, onward⟩ := run_bind_ok ended
      obtain ⟨members, r₂, found, onward⟩ := run_bind_ok onward
      obtain ⟨_, r₃, set, remaining⟩ := run_bind_ok onward
      cases remaining
      obtain ⟨c, rfl, length, -⟩ := setFields_ok set
      obtain ⟨rfl, rfl⟩ := declare_ok made
      have longer := (memberTypes_grows fields { r with
        classes := { r.classes with records := r.classes.records ++ [{ name, isUnion }] } }).classes.length_le
      rw [found] at longer
      refine .inl (Nat.lt_of_lt_of_le ?_ (length ▸ longer))
      simp
  | stray text =>
    rw [nativeType] at ended
    cases ended

theorem memberTypes_known {fields : List (Field TypeExpr)} {members : List (Field NativeType)} {r r' : Registry}
    (ended : (memberTypes fields).run r = (.ok members, r')) :
    ∀ f ∈ members, ∀ k, f.type = .record k → Known r' k := by
  rw [memberTypes_eq] at ended
  induction fields generalizing r members with
  | nil =>
    cases ended
    exact fun _ inside => absurd inside (List.not_mem_nil)
  | cons field rest ih =>
    rw [List.mapM_cons] at ended
    obtain ⟨member, between, found, onward⟩ := run_bind_ok ended
    obtain ⟨others, _, searched, remaining⟩ := run_bind_ok onward
    cases remaining
    intro f inside k typed
    rcases List.mem_cons.mp inside with rfl | later
    · have grown := memberTypes_grows rest between
      rw [memberTypes_eq, searched] at grown
      refine Known.grown ?_ grown
      obtain ⟨native, _, valued, remaining⟩ := run_bind_ok found
      cases remaining
      cases typed
      exact nativeType_known (nativeType_of_valueType valued)
    · exact ih searched f later k typed

/-- What the moves of a search have in common. -/
structure Moves (R : Registry → Registry → Prop) : Prop where
  refl : ∀ r, R r r
  trans : ∀ r r' r'', R r r' → R r' r'' → R r r''
  tag : ∀ tag isUnion r, R r ((recordClass tag isUnion).run r).2
  array : ∀ element length r, R r ((onClasses (ClassWork.array element length)).run r).2
  declare : ∀ name isUnion r, R r ((onClasses (ClassWork.declare name isUnion)).run r).2
  fill : ∀ i members anonymous r, r.classes.Blank i → (∀ f ∈ members, ∀ k, f.type = .record k → Known r k) →
    R r ((onClasses (ClassWork.setFields i members anonymous)).run r).2

variable {R : Registry → Registry → Prop} {α β : Type}

theorem Moves.bind (moves : Moves R) {x : Register α} {f : α → Register β} {r : Registry} (first : R r (x.run r).2)
    (second : ∀ a r', x.run r = (.ok a, r') → R r' ((f a).run r').2) : R r ((x >>= f).run r).2 :=
  bind_moves moves.trans first second

/- The class of a nested record is blank until its members are found, since no search touches a class that it did not
make. -/
theorem Moves.nested (moves : Moves R) {name : String} {isUnion : Bool} {fields : List (Field TypeExpr)}
    {anonymous : List String} {r : Registry} (members : ∀ r, R r ((memberTypes fields).run r).2) :
    R r ((do
      let i ← onClasses (ClassWork.declare name isUnion)
      let natives ← memberTypes fields
      onClasses (ClassWork.setFields i natives anonymous)
      return some (.record i) : Register (Option NativeType)).run r).2 := by
  refine moves.bind (moves.declare name isUnion r) fun i r₁ declared => ?_
  refine moves.bind (members r₁) fun natives r₂ found => ?_
  have extended := (memberTypes_grows fields r₁).classes
  rw [found] at extended
  have blank : r₁.classes.Blank i := by
    obtain ⟨rfl, rfl⟩ := declare_ok declared
    exact Classes.blank_declared _ name isUnion
  have filled := moves.fill i natives anonymous r₂ (blank.extends extended) (memberTypes_known found)
  exact moves.bind filled fun _ r₃ _ => moves.refl r₃

theorem Moves.nativeType (moves : Moves R) (t : TypeExpr) (r : Registry) : R r ((nativeType t).run r).2 := by
  induction t using TypeExpr.induction generalizing r with
  | named name quals canonical ih =>
    have named := nativeType_named name quals canonical r
    generalize (Register.nativeType (.named name quals canonical)).run r = ended at named ⊢
    cases named with
    | tagged cut => exact moves.bind (moves.tag _ _ r) fun _ r' _ => moves.refl r'
    | enumeration cut => exact ih _ rfl r
    | canonical untagged unknown unbound => exact ih _ rfl r
    | integer | basic | bound | missing => exact moves.refl r
  | pointer pointee ih =>
    rw [Register.nativeType]
    split
    · exact moves.refl r
    · refine moves.bind (tryCatch_moves moves.trans (ih r) fun f r' _ => ?_) fun _ r' _ => moves.refl r'
      split
      · exact moves.refl r'
      · exact moves.refl r'
  | array element size ih =>
    rw [nativeType_array]
    refine moves.bind (by rw [valueType_left]; exact ih r) fun native r' _ => ?_
    exact moves.bind (moves.array native _ r') fun _ r'' _ => moves.refl r''
  | function result parameters variadic ihResult ihParameters =>
    rw [nativeType_function_left]
    refine moves.bind (ihResult r) fun native r₁ _ => ?_
    refine moves.bind ?_ fun _ r₂ _ => moves.refl r₂
    rw [parameterTypes_eq]
    refine mapM_moves moves.refl moves.trans parameters r₁ fun before p after _ r₂ split _ => ?_
    rw [valueType_left]
    exact ihParameters p (by simp [split]) r₂
  | record body ih =>
    obtain ⟨name, fields, isUnion, anonymous, location⟩ := body
    rw [Register.nativeType]
    cases fields with
    | none => exact moves.bind (moves.declare name isUnion r) fun _ r' _ => moves.refl r'
    | some fields =>
      refine moves.nested fun r₁ => ?_
      rw [memberTypes_eq]
      refine mapM_moves moves.refl moves.trans fields r₁ fun before f after _ r₂ split _ => ?_
      rw [memberType_run]
      exact ih _ rfl f (by simp [split]) r₂
  | stray text =>
    rw [Register.nativeType]
    exact moves.refl r

theorem Moves.memberTypes (moves : Moves R) (fields : List (Field TypeExpr)) (r : Registry) :
    R r ((memberTypes fields).run r).2 := by
  rw [memberTypes_eq]
  refine mapM_moves moves.refl moves.trans fields r fun _ f _ _ s _ _ => ?_
  rw [memberType_run]
  exact moves.nativeType f.type s

/- The members of a record are looked for, and then its class gets them. -/
theorem Moves.defineMembers (moves : Moves R) {i : Nat} {record : Record} {r : Registry}
    (last : ∀ members r', r.classes.Extends r'.classes → (∀ f ∈ members, ∀ k, f.type = .record k → Known r' k) →
      R r' ((onClasses (ClassWork.setFields i members record.anonymous)).run r').2) :
    R r ((defineMembers i record).run r).2 := by
  unfold Register.defineMembers
  cases record.fields with
  | none => exact moves.refl r
  | some fields =>
    refine moves.bind (moves.memberTypes fields r) fun members r' found => ?_
    have extended := (memberTypes_grows fields r).classes
    rw [found] at extended
    exact last members r' extended (memberTypes_known found)

end Register

end CBindings
