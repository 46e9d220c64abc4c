import CBindings.Proofs.Registry.Search

/-! Faults that are not contained. The search for a type raises one exactly if it comes to an array that no memory can
hold, or to a function with too many arguments. -/
namespace CBindings.Register

open Outcome

variable {α β : Type} {r r' s : Registry} {t u : TypeExpr} {name : String}

/-- The computation ends in a fault that is not contained. -/
def Escaping (x : Register α) (r : Registry) : Prop :=
  ∃ f, (x.run r).1 = .error f ∧ f.isContained = false

theorem not_escaping_of_ok {x : Register α} {a : α} (ended : x.run r = (.ok a, r')) : ¬ Escaping x r := by
  rintro ⟨f, failed, -⟩
  rw [ended] at failed
  cases failed

theorem not_escaping_of_contained {x : Register α} {f : RegistrationFault} (ended : x.run r = (.error f, r'))
    (contained : f.isContained = true) : ¬ Escaping x r := by
  rintro ⟨f', failed, escapes⟩
  rw [ended] at failed
  cases failed
  cases contained.symm.trans escapes

theorem escaping_bind {x : Register α} {g : α → Register β} :
    Escaping (x >>= g) r ↔ Escaping x r ∨ ∃ a r', x.run r = (.ok a, r') ∧ Escaping (g a) r' := by
  rcases ended : x.run r with ⟨result, r'⟩
  unfold Escaping
  rw [run_bind, ended]
  cases result with
  | error f =>
    refine ⟨?_, ?_⟩
    · rintro ⟨f', failed, escapes⟩
      cases failed
      exact .inl ⟨f, rfl, escapes⟩
    · rintro (⟨f', failed, escapes⟩ | ⟨a, r'', done, -⟩)
      · cases failed
        exact ⟨f, rfl, escapes⟩
      · cases done
  | ok a =>
    refine ⟨fun escapes => .inr ⟨a, r', rfl, escapes⟩, ?_⟩
    rintro (⟨f, failed, -⟩ | ⟨a', r'', done, escapes⟩)
    · cases failed
    · cases done
      exact escapes

theorem escaping_bind_pure {x : Register α} {g : α → β} :
    Escaping (x >>= fun a => pure (g a)) r ↔ Escaping x r := by
  rw [escaping_bind]
  refine or_iff_left ?_
  rintro ⟨a, r', -, escaping⟩
  exact not_escaping_of_ok rfl escaping

theorem escaping_onClasses {work : ClassWork α} :
    Escaping (onClasses work) r ↔ ∃ f, (work.run r.classes).1 = .error f ∧ f.isOverflow = true := by
  unfold Escaping
  rw [onClasses_run]
  cases (work.run r.classes).1 with
  | ok a =>
    refine iff_of_false ?_ ?_
    · rintro ⟨f, failed, -⟩
      cases failed
    · rintro ⟨f, failed, -⟩
      cases failed
  | error f =>
    have contained : (RegistrationFault.native f).isContained = false ↔ f.isOverflow = true := by
      cases f <;> simp [ClassFault.isOverflow, RegistrationFault.isContained]
    constructor
    · rintro ⟨f', failed, escapes⟩
      cases failed
      exact ⟨f, rfl, contained.mp escapes⟩
    · rintro ⟨f', failed, large⟩
      cases failed
      exact ⟨.native f, rfl, contained.mpr large⟩

theorem escaping_valueType : Escaping (valueType t) r ↔ Escaping (nativeType t) r := by
  unfold Escaping
  rw [valueType_run]
  rcases (nativeType t).run r with ⟨result, r'⟩
  match result with
  | .ok (some native) => simp
  | .ok none => simp [RegistrationFault.isContained]
  | .error f => simp

theorem escaping_mapM {f : α → Register β} {xs : List α} :
    Escaping (xs.mapM f) r ↔ ∃ before x after bs s, xs = before ++ x :: after ∧
      (before.mapM f).run r = (.ok bs, s) ∧ Escaping (f x) s := by
  constructor
  · intro escaping
    induction xs generalizing r with
    | nil => exact absurd escaping (not_escaping_of_ok rfl)
    | cons x rest ih =>
      rw [List.mapM_cons, escaping_bind] at escaping
      rcases escaping with here | ⟨b, r', one, later⟩
      · exact ⟨[], x, rest, [], r, rfl, rfl, here⟩
      · obtain ⟨before, y, after, bs, s, split, earlier, there⟩ := ih (escaping_bind_pure.mp later)
        refine ⟨x :: before, y, after, b :: bs, s, by rw [split, List.cons_append], ?_, there⟩
        rw [List.mapM_cons, run_bind, one]
        dsimp only
        rw [run_bind, earlier]
        rfl
  · rintro ⟨before, x, after, bs, s, rfl, earlier, fault, failed, escapes⟩
    have ended : (f x).run s = (.error fault, ((f x).run s).2) := Prod.ext failed rfl
    refine ⟨fault, ?_, escapes⟩
    rw [run_mapM_append earlier, List.mapM_cons, run_bind, ended]
    rfl

/-- The elements of an array have a type, but the array is larger than any memory; or the result and the parameters of
a function have types, but there are too many of them. -/
def Overflows (r : Registry) : TypeExpr → Prop
  | .array element size =>
    ∃ native r', (valueType element).run r = (.ok native, r') ∧ ClassWork.TooLarge r'.classes native (size.getD 0)
  | .function result parameters _ =>
    argumentLimit < parameters.length ∧ ∃ types r', (signatureTypes result parameters).run r = (.ok types, r')
  | _ => False

/-- The search for the type comes to such an array or function. -/
def MeetsOverflow (r : Registry) (t : TypeExpr) : Prop := ∃ s u, Reaches r t s u ∧ Overflows s u

theorem MeetsOverflow.before (leads : Leads r t s u) (meets : MeetsOverflow s u) : MeetsOverflow r t := by
  obtain ⟨s', v, reached, overflows⟩ := meets
  exact ⟨s', v, .next leads reached, overflows⟩

theorem escaping_array {element : TypeExpr} {size : Option Int} :
    Escaping (nativeType (.array element size)) r ↔
      Escaping (nativeType element) r ∨ Overflows r (.array element size) := by
  rw [nativeType_array, escaping_bind, escaping_valueType]
  refine or_congr_right (exists_congr fun native => exists_congr fun r' => and_congr_right fun _ => ?_)
  rw [escaping_bind_pure, escaping_onClasses]
  rcases ClassWork.array_run native (size.getD 0) r'.classes with ⟨f, failed, large⟩ | ⟨arrays, made, small⟩
  · rw [failed, ← large]
    simp
  · rw [made]
    exact iff_of_false (by simp) small

theorem escaping_functionPointer {types : Option NativeType × List NativeType} :
    Escaping (functionPointer types) r ↔ argumentLimit < types.2.length := by
  unfold functionPointer
  split
  · rename_i many
    exact iff_of_true ⟨_, rfl, rfl⟩ many
  · rename_i few
    exact iff_of_false (not_escaping_of_ok rfl) few

theorem signatureTypes_length {result : TypeExpr} {parameters : List (Parameter TypeExpr)}
    {types : Option NativeType × List NativeType} (ended : (signatureTypes result parameters).run r = (.ok types, r')) :
    types.2.length = parameters.length := by
  obtain ⟨native, r₁, -, onward⟩ := run_bind_ok ended
  obtain ⟨natives, r₂, found, last⟩ := run_bind_ok onward
  cases last
  exact parameterTypes_length found

theorem escaping_function {result : TypeExpr} {parameters : List (Parameter TypeExpr)} {variadic : Bool} :
    Escaping (nativeType (.function result parameters variadic)) r ↔
      Escaping (signatureTypes result parameters) r ∨ Overflows r (.function result parameters variadic) := by
  rw [nativeType_function, escaping_bind]
  refine or_congr_right ?_
  constructor
  · rintro ⟨types, r', ended, escaping⟩
    exact ⟨signatureTypes_length ended ▸ escaping_functionPointer.mp escaping, types, r', ended⟩
  · rintro ⟨many, types, r', ended⟩
    exact ⟨types, r', ended, escaping_functionPointer.mpr (signatureTypes_length ended ▸ many)⟩

theorem escaping_recordClass {tag : String} {isUnion : Bool} : ¬ Escaping (recordClass tag isUnion) r := by
  rcases recordClass_cases tag isUnion r with ⟨i, -, known⟩ | ⟨-, ⟨-, refused⟩ | made⟩
  · exact not_escaping_of_ok known
  · exact not_escaping_of_contained refused rfl
  · exact not_escaping_of_ok made

theorem escaping_declare {tag : String} {isUnion : Bool} :
    ¬ Escaping (onClasses (ClassWork.declare tag isUnion)) r := by
  rw [escaping_onClasses]
  rintro ⟨f, failed, large⟩
  rcases ClassWork.declare_run tag isUnion r.classes with ⟨-, refused⟩ | made
  · rw [refused] at failed
    cases failed
    cases large
  · rw [made] at failed
    cases failed

theorem escaping_setFields {i : Nat} {fields : List (Field NativeType)} {anonymous : List String} :
    ¬ Escaping (onClasses (ClassWork.setFields i fields anonymous)) r := by
  rw [escaping_onClasses]
  rintro ⟨f, failed, large⟩
  rcases ended : (ClassWork.setFields i fields anonymous).run r.classes with ⟨result, c⟩
  rw [ended] at failed
  obtain ⟨-, -, small, -⟩ := ClassWork.setFields_run ended
  cases (small f failed).symm.trans large

/- A pointer hides the fault of a missing type only, and such faults are contained. -/
theorem escaping_pointer (other : isChar t = false) (escaping : Escaping (nativeType (.pointer t)) r) :
    Escaping (nativeType t) r := by
  unfold Escaping at escaping ⊢
  rw [nativeType_pointer other] at escaping
  obtain ⟨f, failed, escapes⟩ := escaping
  generalize (nativeType t).run r = ended at failed ⊢
  obtain ⟨result, r'⟩ := ended
  match result with
  | .ok (some native) => cases failed
  | .ok none => cases failed
  | .error f' =>
    dsimp only at failed
    split at failed
    · cases failed
    · cases failed
      exact ⟨f, rfl, escapes⟩

/- The types of a function are looked for one after another. -/
theorem escaping_signatureTypes {result : TypeExpr} {parameters : List (Parameter TypeExpr)} (variadic : Bool) :
    Escaping (signatureTypes result parameters) r ↔
      ∃ s u, Leads r (.function result parameters variadic) s u ∧ Escaping (nativeType u) s := by
  unfold signatureTypes
  rw [escaping_bind]
  constructor
  · rintro (inner | ⟨native, r₁, first, inner⟩)
    · exact ⟨r, result, .result, inner⟩
    · rw [escaping_bind_pure, parameterTypes_eq] at inner
      obtain ⟨before, p, after, natives, s, rfl, earlier, here⟩ := escaping_mapM.mp inner
      rw [← parameterTypes_eq] at earlier
      exact ⟨s, p.type, .parameter first earlier, escaping_valueType.mp here⟩
  · rintro ⟨s, u, leads, escaping⟩
    cases leads with
    | result => exact .inl escaping
    | @parameter _ native before natives name t after _ r₁ r₂ first earlier =>
      refine .inr ⟨native, r₁, first, ?_⟩
      rw [escaping_bind_pure, parameterTypes_eq, escaping_mapM]
      rw [parameterTypes_eq] at earlier
      exact ⟨before, ⟨name, u⟩, after, natives, s, rfl, earlier, escaping_valueType.mpr escaping⟩

theorem meetsOverflow_of_escaping (t : TypeExpr) (r : Registry) (escaping : Escaping (nativeType t) r) :
    MeetsOverflow r t := by
  induction t using TypeExpr.induction generalizing r with
  | named name quals canonical ih =>
    obtain ⟨f, failed, escapes⟩ := escaping
    have named := nativeType_named name quals canonical r
    generalize (nativeType (.named name quals canonical)).run r = ended at named failed
    cases named with
    | tagged cut => exact absurd (escaping_bind_pure.mp ⟨f, failed, escapes⟩) escaping_recordClass
    | enumeration cut => exact (ih _ rfl r ⟨f, failed, escapes⟩).before (.enumeration cut)
    | canonical untagged unknown unbound =>
      exact (ih _ rfl r ⟨f, failed, escapes⟩).before (.canonical untagged unknown unbound)
    | missing =>
      cases failed
      cases escapes
    | integer | basic | bound => cases failed
  | pointer pointee ih =>
    cases other : isChar pointee with
    | true => exact absurd escaping (not_escaping_of_ok (nativeType_charPointer other r))
    | false => exact (ih r (escaping_pointer other escaping)).before (.pointee other)
  | array element size ih =>
    rcases escaping_array.mp escaping with inner | overflows
    · exact (ih r inner).before .element
    · exact ⟨r, _, .here, overflows⟩
  | function result parameters variadic ihResult ihParameters =>
    rcases escaping_function.mp escaping with found | overflows
    · obtain ⟨s, u, leads, inner⟩ := (escaping_signatureTypes variadic).mp found
      refine MeetsOverflow.before leads ?_
      cases leads with
      | result => exact ihResult r inner
      | @parameter _ _ before _ name _ after => exact ihParameters ⟨name, u⟩ (by simp) s inner
    · exact ⟨r, _, .here, overflows⟩
  | record body ih =>
    obtain ⟨tag, fields, isUnion, anonymous, location⟩ := body
    rw [nativeType, escaping_bind] at escaping
    rcases escaping with refused | ⟨i, r₁, declared, escaping⟩
    · exact absurd refused escaping_declare
    · cases fields with
      | none => exact absurd escaping (not_escaping_of_ok rfl)
      | some fields =>
        dsimp only at escaping
        rw [escaping_bind] at escaping
        rcases escaping with inner | ⟨members, r₂, -, escaping⟩
        · rw [memberTypes_eq] at inner
          obtain ⟨before, f, after, natives, s, rfl, earlier, here⟩ := escaping_mapM.mp inner
          rw [← memberTypes_eq] at earlier
          refine (ih _ rfl f (by simp) s (escaping_valueType.mp (escaping_bind_pure.mp here))).before ?_
          exact .member declared earlier
        · exact absurd (escaping_bind_pure.mp escaping) escaping_setFields
  | stray text =>
    exact absurd escaping (not_escaping_of_contained (by rw [nativeType]; rfl) rfl)

theorem isMissingType_of_escapes {f : RegistrationFault} (escapes : f.isContained = false) :
    f.isMissingType = false := by
  cases f with
  | voidValue type => cases escapes
  | voidAlias name => cases escapes
  | unknownType name => cases escapes
  | _ => rfl

theorem Overflows.escaping (overflows : Overflows r t) : Escaping (nativeType t) r := by
  cases t with
  | array element size => exact escaping_array.mpr (.inr overflows)
  | function result parameters variadic => exact escaping_function.mpr (.inr overflows)
  | _ => exact overflows.elim

theorem MeetsOverflow.escaping (meets : MeetsOverflow r t) : Escaping (nativeType t) r := by
  obtain ⟨s, u, reached, overflows⟩ := meets
  induction reached with
  | here => exact overflows.escaping
  | next leads _ ih =>
    obtain ⟨f, failed, escapes⟩ := ih overflows
    refine ⟨f, ?_, escapes⟩
    rw [leads.error (Prod.ext failed rfl) (isMissingType_of_escapes escapes)]

theorem escaping_nativeType : Escaping (nativeType t) r ↔ MeetsOverflow r t :=
  ⟨meetsOverflow_of_escaping t r, MeetsOverflow.escaping⟩

end CBindings.Register
