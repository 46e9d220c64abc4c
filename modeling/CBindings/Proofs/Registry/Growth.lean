import CBindings.Proofs.Registry.Search

/-! What a search for native types leaves behind: more classes, and more tags that wait for their definition. Every
class that was there keeps its members, and every tag its class. -/
namespace CBindings.Register

open Outcome

variable {α : Type} {r r' s s' : Registry} {t u : TypeExpr} {P : String → Bool → Prop}

/-- Classes made since `start` that wait for their field list, each for a tag and of a kind that `P` allows. -/
def Waiting (P : String → Bool → Prop) (start : Nat) (c : Classes) (entries : List (String × Nat)) : Prop :=
  ∀ entry ∈ entries, start ≤ entry.2 ∧ entry.2 < c.records.length ∧
    ∃ isUnion, P entry.1 isUnion ∧ (c.record entry.2).core = (entry.1, isUnion, none, false)

theorem waiting_nil (P : String → Bool → Prop) (start : Nat) (c : Classes) : Waiting P start c [] :=
  fun _ inside => by cases inside

theorem Waiting.extends {start : Nat} {c c' : Classes} {entries : List (String × Nat)} (extended : c.Extends c')
    (waiting : Waiting P start c entries) : Waiting P start c' entries := by
  intro entry inside
  obtain ⟨started, below, isUnion, allowed, core⟩ := waiting entry inside
  have longer := extended.length_le
  exact ⟨started, by omega, isUnion, allowed, (extended.core_eq _ below).trans core⟩

theorem Waiting.append {start : Nat} {c c' : Classes} {entries more : List (String × Nat)} (extended : c.Extends c')
    (old : Waiting P start c entries) (new : Waiting P c.records.length c' more) (begun : start ≤ c.records.length) :
    Waiting P start c' (entries ++ more) := by
  intro entry inside
  rcases List.mem_append.mp inside with earlier | later
  · exact old.extends extended entry earlier
  · obtain ⟨above, rest⟩ := new entry later
    exact ⟨by omega, rest⟩

theorem Waiting.sublist {start : Nat} {c : Classes} {entries fewer : List (String × Nat)}
    (waiting : Waiting P start c entries) (sub : fewer.Sublist entries) : Waiting P start c fewer :=
  fun entry inside => waiting entry (sub.subset inside)

/-- There are more classes, and more tags that wait for theirs; all others are as they were. -/
structure Gained (P : String → Bool → Prop) (r r' : Registry) : Prop where
  classes : r.classes.Extends r'.classes
  waiting : ∃ more, r'.pending = r.pending ++ more ∧ Waiting P r.classes.records.length r'.classes more

/- The same tags wait for the same classes. -/
theorem gained_of_same (classes : r.classes.Extends r'.classes) (pending : r'.pending = r.pending) : Gained P r r' :=
  ⟨classes, [], by rw [pending, List.append_nil], waiting_nil _ _ _⟩

theorem Gained.refl (P : String → Bool → Prop) (r : Registry) : Gained P r r :=
  gained_of_same (Classes.Extends.refl _) rfl

theorem Gained.trans {r'' : Registry} (first : Gained P r r') (second : Gained P r' r'') : Gained P r r'' := by
  obtain ⟨extended, more, same, waiting⟩ := first
  obtain ⟨extended', more', same', waiting'⟩ := second
  refine ⟨extended.trans extended', more ++ more', ?_, ?_⟩
  · rw [same', same, List.append_assoc]
  · exact Waiting.append extended' waiting waiting' extended.length_le

/-- What a search leaves behind: more classes, and more tags that wait. -/
structure Grown (P : String → Bool → Prop) (r r' : Registry) : Prop extends Gained P r r' where
  rest : ∃ classes pending, r' = { r with classes := classes, pending := pending }

theorem Grown.refl (P : String → Bool → Prop) (r : Registry) : Grown P r r :=
  ⟨Gained.refl P r, r.classes, r.pending, rfl⟩

theorem Grown.trans (r r' r'' : Registry) (first : Grown P r r') (second : Grown P r' r'') : Grown P r r'' := by
  refine ⟨first.toGained.trans second.toGained, ?_⟩
  obtain ⟨_, _, rfl⟩ := first.rest
  obtain ⟨classes, pending, rfl⟩ := second.rest
  exact ⟨classes, pending, rfl⟩

theorem grown_onClasses {work : ClassWork α} {r : Registry} (extended : r.classes.Extends (work.run r.classes).2) :
    Grown P r ((onClasses work).run r).2 := by
  rw [onClasses_run]
  exact ⟨gained_of_same extended rfl, _, _, rfl⟩

theorem grown_declare (tag : String) (isUnion : Bool) (r : Registry) :
    Grown P r ((onClasses (ClassWork.declare tag isUnion)).run r).2 := by
  refine grown_onClasses ?_
  rcases ClassWork.declare_run tag isUnion r.classes with ⟨-, refused⟩ | made
  · rw [refused]
    exact Classes.Extends.refl _
  · rw [made]
    exact Classes.extends_append _ _

theorem grown_array (element : NativeType) (length : Int) (r : Registry) :
    Grown P r ((onClasses (ClassWork.array element length)).run r).2 := by
  refine grown_onClasses ?_
  rcases ClassWork.array_run element length r.classes with ⟨f, refused, -⟩ | ⟨arrays, made, -⟩
  · rw [refused]
    exact Classes.Extends.refl _
  · rw [made]
    exact ⟨Nat.le_refl _, fun _ _ => rfl⟩

theorem grown_recordClass {tag : String} {isUnion : Bool} (allowed : P tag isUnion) (r : Registry) :
    Grown P r ((recordClass tag isUnion).run r).2 := by
  rcases recordClass_cases tag isUnion r with ⟨i, -, known⟩ | ⟨-, ⟨-, refused⟩ | made⟩
  · rw [known]
    exact Grown.refl P r
  · rw [refused]
    exact Grown.refl P r
  · rw [made]
    refine ⟨⟨Classes.extends_append _ _, [(tag, r.classes.records.length)], rfl, ?_⟩, _, _, rfl⟩
    intro entry inside
    cases List.mem_singleton.mp inside
    refine ⟨Nat.le_refl _, by simp, isUnion, allowed, ?_⟩
    rw [Classes.record_append_length]
    rfl

theorem grown_bind {β : Type} {x : Register α} {f : α → Register β} {r : Registry} (first : Grown P r (x.run r).2)
    (second : ∀ a r', x.run r = (.ok a, r') → Grown P r' ((f a).run r').2) : Grown P r ((x >>= f).run r).2 :=
  bind_moves Grown.trans first second

theorem declare_ok {tag : String} {isUnion : Bool} {i : Nat}
    (made : (onClasses (ClassWork.declare tag isUnion)).run r = (.ok i, r')) :
    i = r.classes.records.length ∧ r' = { r with
      classes := { r.classes with records := r.classes.records ++ [{ name := tag, isUnion }] } } := by
  rw [onClasses_run] at made
  rcases ClassWork.declare_run tag isUnion r.classes with ⟨-, refused⟩ | declared
  · rw [refused] at made
    cases congrArg Prod.fst made
  · rw [declared] at made
    cases made
    exact ⟨rfl, rfl⟩

/- Of a class that was made after `start` no one waits for, the field list can be set. -/
theorem Waiting.setFields {start i : Nat} {c c' : Classes} {entries : List (String × Nat)}
    (waiting : Waiting P start c entries) (length : c'.records.length = c.records.length)
    (others : ∀ j ≠ i, (c'.record j).core = (c.record j).core) (free : ∀ entry ∈ entries, entry.2 ≠ i) :
    Waiting P start c' entries := by
  intro entry inside
  obtain ⟨started, below, isUnion, allowed, core⟩ := waiting entry inside
  exact ⟨started, length ▸ below, isUnion, allowed, (others _ (free entry inside)).trans core⟩

/- The class that a nested record gets is new, and no tag waits for it. -/
theorem grown_nested {tag : String} {isUnion : Bool} {fields : List (Field TypeExpr)} {anonymous : List String}
    {r : Registry} (members : ∀ i r₁, (onClasses (ClassWork.declare tag isUnion)).run r = (.ok i, r₁) →
      Grown P r₁ ((memberTypes fields).run r₁).2) :
    Grown P r ((do
      let i ← onClasses (ClassWork.declare tag isUnion)
      let natives ← memberTypes fields
      onClasses (ClassWork.setFields i natives anonymous)
      return some (.record i) : Register (Option NativeType)).run r).2 := by
  have declared := grown_declare (P := P) tag isUnion r
  rcases made : (onClasses (ClassWork.declare tag isUnion)).run r with ⟨result, r₁⟩
  rw [made] at declared
  rw [run_bind, made]
  cases result with
  | error f => exact declared
  | ok i =>
    have grown := members i r₁ made
    dsimp only
    rw [run_bind]
    rcases ended : (memberTypes fields).run r₁ with ⟨result', r₂⟩
    rw [ended] at grown
    have both := Grown.trans r r₁ r₂ declared grown
    cases result' with
    | error f => exact both
    | ok natives =>
      dsimp only
      rw [run_bind, onClasses_run]
      rcases set : (ClassWork.setFields i natives anonymous).run r₂.classes with ⟨result'', c₃⟩
      obtain ⟨length, others, -⟩ := ClassWork.setFields_run set
      have left : Grown P r { r₂ with classes := c₃ } := by
        obtain ⟨rfl, rfl⟩ := declare_ok made
        obtain ⟨⟨extended, -⟩, classes, pending, rfl⟩ := both
        obtain ⟨⟨-, more, same, waiting⟩, -⟩ := grown
        have later : ∀ entry ∈ more, r.classes.records.length + 1 ≤ entry.2 := fun entry inside => by
          simpa using (waiting entry inside).1
        have set := waiting.setFields length others fun entry inside => Nat.ne_of_gt (later entry inside)
        refine ⟨⟨⟨?_, fun j inside => ?_⟩, more, same, fun entry inside => ?_⟩, c₃, pending, rfl⟩
        · exact length ▸ extended.length_le
        · exact (others j (by omega)).trans (extended.core_eq j inside)
        · exact ⟨Nat.le_of_lt (later entry inside), (set entry inside).2⟩
      cases result'' with
      | ok _ => exact left
      | error f => exact left

theorem nativeType_grown (t : TypeExpr) (r : Registry)
    (allowed : ∀ s tag isUnion, Asks r t s tag isUnion → P tag isUnion) : Grown P r ((nativeType t).run r).2 := by
  induction t using TypeExpr.induction generalizing r with
  | named name quals canonical ih =>
    have named := nativeType_named name quals canonical r
    generalize (nativeType (.named name quals canonical)).run r = ended at named ⊢
    cases named with
    | tagged cut =>
      have asked := allowed r _ _ ⟨name, quals, canonical, .here, cut⟩
      exact grown_bind (grown_recordClass asked r) fun _ r' _ => Grown.refl P r'
    | enumeration cut =>
      exact ih _ rfl r fun s tag isUnion asks => allowed s tag isUnion (asks.before (.enumeration cut))
    | canonical untagged unknown unbound =>
      exact ih _ rfl r fun s tag isUnion asks =>
        allowed s tag isUnion (asks.before (.canonical untagged unknown unbound))
    | integer | basic | bound | missing => exact Grown.refl P r
  | pointer pointee ih =>
    rw [nativeType]
    split
    · exact Grown.refl P r
    · rename_i other
      have inner := ih r fun s tag isUnion asks =>
        allowed s tag isUnion (asks.before (.pointee (Bool.eq_false_iff.mpr other)))
      refine grown_bind (tryCatch_moves Grown.trans inner fun f r' _ => ?_) fun _ r' _ => Grown.refl P r'
      split
      · exact Grown.refl P r'
      · exact Grown.refl P r'
  | array element size ih =>
    have inner := ih r fun s tag isUnion asks => allowed s tag isUnion (asks.before .element)
    rw [nativeType_array]
    refine grown_bind (by rwa [valueType_left]) fun native r' _ => ?_
    exact grown_bind (grown_array native _ r') fun _ r'' _ => Grown.refl P r''
  | function result parameters variadic ihResult ihParameters =>
    have inner := ihResult r fun s tag isUnion asks => allowed s tag isUnion (asks.before .result)
    rw [nativeType_function_left]
    refine grown_bind inner fun native r₁ first => ?_
    refine grown_bind ?_ fun _ r₂ _ => Grown.refl P r₂
    rw [parameterTypes_eq]
    refine mapM_moves (Grown.refl P) Grown.trans parameters r₁ fun before p after natives r₂ split earlier => ?_
    rw [valueType_left]
    subst split
    refine ihParameters p (by simp) r₂ fun s tag isUnion asks => allowed s tag isUnion (asks.before ?_)
    exact .parameter first (by rw [parameterTypes_eq]; exact earlier)
  | record body ih =>
    obtain ⟨tag, fields, isUnion, anonymous, location⟩ := body
    rw [nativeType]
    cases fields with
    | none => exact grown_bind (grown_declare tag isUnion r) fun _ r' _ => Grown.refl P r'
    | some fields =>
      refine grown_nested fun i r₁ declared => ?_
      rw [memberTypes_eq]
      refine mapM_moves (Grown.refl P) Grown.trans fields r₁ fun before f after natives r₂ split earlier => ?_
      rw [memberType_run]
      subst split
      refine ih _ rfl f (by simp) r₂ fun s tag isUnion asks => allowed s tag isUnion (asks.before ?_)
      exact .member declared (by rw [memberTypes_eq]; exact earlier)
  | stray text =>
    rw [nativeType]
    exact Grown.refl P r

theorem memberTypes_grown (fields : List (Field TypeExpr)) (r : Registry)
    (allowed : ∀ before f after members s, fields = before ++ f :: after →
      (memberTypes before).run r = (.ok members, s) → ∀ s' tag isUnion, Asks s f.type s' tag isUnion → P tag isUnion) :
    Grown P r ((memberTypes fields).run r).2 := by
  simp only [memberTypes_eq] at allowed ⊢
  refine mapM_moves (Grown.refl P) Grown.trans fields r fun before f after members s split earlier => ?_
  rw [memberType_run]
  exact nativeType_grown f.type s (allowed before f after members s split earlier)

theorem nativeType_grows (t : TypeExpr) (r : Registry) : Grown (fun _ _ => True) r ((nativeType t).run r).2 :=
  nativeType_grown t r fun _ _ _ _ => trivial

theorem nativeType_array_ok {element : TypeExpr} {size : Option Int} {native : NativeType}
    (ended : (nativeType (.array element size)).run r = (.ok (some native), r')) :
    ∃ found length r₁, (nativeType element).run r = (.ok (some found), r₁) ∧ native = .array found length ∧
      Grown (fun _ _ => True) r₁ r' := by
  rw [nativeType_array] at ended
  obtain ⟨found, r₁, searched, onward⟩ := run_bind_ok ended
  obtain ⟨_, r₂, made, remaining⟩ := run_bind_ok onward
  cases remaining
  have grown := grown_array (P := fun _ _ => True) found (size.getD 0) r₁
  rw [made] at grown
  refine ⟨found, (size.getD 0).toNat, r₁, nativeType_of_valueType searched, ?_, grown⟩
  rw [onClasses_run] at made
  rcases ClassWork.array_run found (size.getD 0) r₁.classes with ⟨f, refused, -⟩ | ⟨arrays, built, -⟩
  · rw [refused] at made
    cases made
  · rw [built] at made
    cases made
    rfl

theorem memberTypes_grows (fields : List (Field TypeExpr)) (r : Registry) :
    Grown (fun _ _ => True) r ((memberTypes fields).run r).2 :=
  memberTypes_grown fields r fun _ _ _ _ _ _ _ _ _ _ _ => trivial

/-- Tags that have a class keep it. -/
def Steady (r r' : Registry) : Prop := ∀ tag i, tagClass? r tag = some i → tagClass? r' tag = some i

theorem Steady.refl (r : Registry) : Steady r r := fun _ _ known => known

theorem Steady.trans (r r' r'' : Registry) (first : Steady r r') (second : Steady r' r'') : Steady r r'' :=
  fun tag i known => second tag i (first tag i known)

theorem steady_of_same (names : r'.names = r.names) (pending : r'.pending = r.pending) : Steady r r' := by
  intro tag i known
  rw [tagClass?, names, pending]
  exact known

theorem Grown.steady (grown : Grown P r r') : Steady r r' := by
  intro tag i known
  obtain ⟨⟨-, more, same, -⟩, classes, pending, rfl⟩ := grown
  dsimp only at same
  subst same
  unfold tagClass? at known ⊢
  rw [List.lookup_append, ← Option.or_assoc, known, Option.some_or]

theorem nativeType_steady (t : TypeExpr) (r : Registry) : Steady r ((nativeType t).run r).2 :=
  (nativeType_grows t r).steady

theorem valueType_steady (t : TypeExpr) (r : Registry) : Steady r ((valueType t).run r).2 := by
  rw [valueType_left]
  exact nativeType_steady t r

theorem steady_onClasses (work : ClassWork α) (r : Registry) : Steady r ((onClasses work).run r).2 := by
  rw [onClasses_run]
  exact steady_of_same rfl rfl

theorem parameterTypes_steady (ps : List (Parameter TypeExpr)) (r : Registry) :
    Steady r ((parameterTypes ps).run r).2 := by
  rw [parameterTypes_eq]
  exact mapM_moves Steady.refl Steady.trans ps r fun _ p _ _ s _ _ => valueType_steady p.type s

theorem memberType_steady (f : Field TypeExpr) (r : Registry) : Steady r ((memberType f).run r).2 := by
  rw [memberType_run]
  exact nativeType_steady f.type r

/- What a search finds about tags on its way holds until its end. -/
theorem Leads.steady (leads : Leads r t s u) : Steady ((nativeType u).run s).2 ((nativeType t).run r).2 := by
  cases leads with
  | enumeration tagged =>
    rw [nativeType_enumeration tagged]
    exact Steady.refl _
  | canonical untagged unknown unbound =>
    rw [nativeType_canonical untagged unknown unbound]
    exact Steady.refl _
  | pointee other =>
    rw [nativeType_pointer other]
    rcases (nativeType u).run r with ⟨result, r'⟩
    match result with
    | .ok (some native) => exact Steady.refl r'
    | .ok none => exact Steady.refl r'
    | .error f => exact Steady.refl r'
  | element =>
    rw [nativeType_array, ← valueType_left]
    refine bind_moves_on Steady.refl fun native r' _ => ?_
    exact bind_moves Steady.trans (steady_onClasses _ r') fun _ r'' _ => Steady.refl r''
  | result =>
    rw [nativeType_function_left]
    refine bind_moves_on Steady.refl fun native r' _ => ?_
    exact bind_moves Steady.trans (parameterTypes_steady _ r') fun _ r'' _ => Steady.refl r''
  | @parameter result _ before _ name _ after _ r₁ _ first earlier =>
    rw [parameterTypes_eq] at earlier
    rw [nativeType_function_left, signatureTypes, run_bind, first]
    dsimp only
    refine Steady.trans _ _ _ ?_ (bind_moves_on Steady.refl fun _ r' _ => Steady.refl r')
    have rest := mapM_moves_on (x := ⟨name, u⟩) Steady.refl Steady.trans earlier
      fun p (_ : p ∈ after) s => valueType_steady p.type s
    rw [valueType_left] at rest
    rw [parameterTypes_eq]
    exact rest
  | @member _ _ _ _ _ before _ name _ width after r₁ _ declared earlier =>
    rw [memberTypes_eq] at earlier
    rw [nativeType, run_bind, declared]
    dsimp only
    refine Steady.trans _ _ _ ?_ (bind_moves_on Steady.refl fun _ r' _ => ?_)
    · have rest := mapM_moves_on (x := ⟨name, u, width⟩) Steady.refl Steady.trans earlier
        fun f (_ : f ∈ after) s => memberType_steady f s
      rw [memberType_run] at rest
      rw [memberTypes_eq]
      exact rest
    · exact bind_moves Steady.trans (steady_onClasses _ r') fun _ r'' _ => Steady.refl r''

end CBindings.Register
