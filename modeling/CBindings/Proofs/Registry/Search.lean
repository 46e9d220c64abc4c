import CBindings.Proofs.Native.FieldLists
import CBindings.Proofs.TypeExpr
import CBindings.Registry.Types

/-! The search for native types, step by step: which types it comes to, in which state, and which faults of theirs end
it. -/
namespace CBindings.Register

open Outcome

variable {α : Type}

/-- The native type that a name is bound to. -/
def typeOf? (r : Registry) (name : String) : Option NativeType :=
  match r.names.get? name with
  | some (.type t) => some t
  | _ => none

/-- The record class that a name is bound to. -/
def boundClass? (ns : Namespace) (name : String) : Option Nat :=
  match ns.get? name with
  | some (.type (.record i)) => some i
  | _ => none

/-- The class that a tag stands for: the one that is bound to it, or one that waits for its field list. -/
def tagClass? (r : Registry) (tag : String) : Option Nat := (boundClass? r.names tag).or (r.pending.lookup tag)

/-- A member with its native type. -/
def memberType (f : Field TypeExpr) : Register (Field NativeType) := do
  return ⟨f.name, ← valueType f.type, f.width⟩

/-- The types of a function, whether it is one of the program or a pointer to one. -/
def signatureTypes (result : TypeExpr) (parameters : List (Parameter TypeExpr)) :
    Register (Option NativeType × List NativeType) := do
  return (← nativeType result, ← parameterTypes parameters)

/-- A pointer to a function with these types, as long as a function takes so many arguments. -/
def functionPointer (types : Option NativeType × List NativeType) : Register (Option NativeType) :=
  if argumentLimit < types.2.length then throw (.native (.tooManyArguments types.2.length))
  else return some (.function types.1 types.2)

section Equations

theorem nativeType_function (result : TypeExpr) (parameters : List (Parameter TypeExpr)) (variadic : Bool) :
    nativeType (.function result parameters variadic) = signatureTypes result parameters >>= functionPointer := by
  have pointed (types : Option NativeType × List NativeType) : functionPointer types = do
      if argumentLimit < types.2.length then throw (.native (.tooManyArguments types.2.length))
      return some (.function types.1 types.2) := by
    unfold functionPointer
    split
    · rfl
    · rfl
  rw [nativeType, signatureTypes]
  simp only [bind_assoc, pure_bind, pointed]

/- Making the pointer touches nothing. -/
theorem functionPointer_left (types : Option NativeType × List NativeType) (r : Registry) :
    ((functionPointer types).run r).2 = r := by
  unfold functionPointer
  split
  · rfl
  · rfl

theorem nativeType_function_left (result : TypeExpr) (parameters : List (Parameter TypeExpr)) (variadic : Bool)
    (r : Registry) : ((nativeType (.function result parameters variadic)).run r).2 =
      ((signatureTypes result parameters).run r).2 := by
  rw [nativeType_function, run_bind]
  rcases (signatureTypes result parameters).run r with ⟨found, r'⟩
  cases found with
  | error f => rfl
  | ok types => exact functionPointer_left types r'

theorem nativeType_function_ok {result : TypeExpr} {parameters : List (Parameter TypeExpr)} {variadic : Bool}
    {r r' : Registry} {native : Option NativeType}
    (ended : (nativeType (.function result parameters variadic)).run r = (.ok native, r')) :
    ∃ types, (signatureTypes result parameters).run r = (.ok types, r') ∧
      native = some (.function types.1 types.2) := by
  rw [nativeType_function] at ended
  obtain ⟨types, r₁, found, made⟩ := run_bind_ok ended
  unfold functionPointer at made
  split at made
  · cases made
  · cases made
    exact ⟨types, found, rfl⟩

theorem parameterTypes_length {ps : List (Parameter TypeExpr)} {natives : List NativeType} {r r' : Registry}
    (ended : (parameterTypes ps).run r = (.ok natives, r')) : natives.length = ps.length := by
  induction ps generalizing r natives with
  | nil =>
    cases ended
    rfl
  | cons p rest ih =>
    rw [parameterTypes] at ended
    obtain ⟨found, r₁, -, onward⟩ := run_bind_ok ended
    obtain ⟨native, r₂, -, onward⟩ := run_bind_ok onward
    obtain ⟨others, r₃, found', last⟩ := run_bind_ok onward
    cases last
    rw [List.length_cons, List.length_cons, ih found']

theorem parameterTypes_eq (ps : List (Parameter TypeExpr)) :
    parameterTypes ps = ps.mapM fun p => valueType p.type := by
  induction ps with
  | nil =>
    rw [parameterTypes]
    rfl
  | cons p rest ih =>
    obtain ⟨name, type⟩ := p
    rw [parameterTypes, ih, List.mapM_cons]
    simp [valueType]

theorem memberTypes_eq (fs : List (Field TypeExpr)) : memberTypes fs = fs.mapM memberType := by
  induction fs with
  | nil =>
    rw [memberTypes]
    rfl
  | cons f rest ih =>
    obtain ⟨name, type, width⟩ := f
    rw [memberTypes, ih, List.mapM_cons]
    simp [memberType, valueType]

theorem onClasses_run (work : ClassWork α) (r : Registry) :
    (onClasses work).run r =
      ((work.run r.classes).1.mapError .native, { r with classes := (work.run r.classes).2 }) := by
  unfold onClasses
  rw [run_bind, run_get]
  dsimp only
  obtain ⟨result, c⟩ := work.run r.classes
  cases result with
  | ok a => rfl
  | error f => rfl

theorem boundType?_run (name : String) (r : Registry) : (boundType? name).run r = (.ok (typeOf? r name), r) := by
  have start : (boundType? name).run r = (match r.names.get? name with
    | some (.type t) => return some t
    | _ => return none : Register (Option NativeType)).run r := rfl
  rw [start, typeOf?]
  split
  · rfl
  · rfl

theorem recordClass_run (tag : String) (isUnion : Bool) (r : Registry) :
    (recordClass tag isUnion).run r =
      match tagClass? r tag with
      | some i => (.ok (.record i), r)
      | none =>
        (do
          let i ← onClasses (ClassWork.declare tag isUnion)
          modify fun r => { r with pending := r.pending ++ [(tag, i)] }
          return .record i : Register NativeType).run r := by
  have start : (recordClass tag isUnion).run r = (match r.names.get? tag with
    | some (.type (.record i)) => return .record i
    | _ =>
      match r.pending.lookup tag with
      | some i => return .record i
      | none => do
        let i ← onClasses (ClassWork.declare tag isUnion)
        modify fun r => { r with pending := r.pending ++ [(tag, i)] }
        return .record i : Register NativeType).run r := rfl
  rw [start, tagClass?, boundClass?]
  split
  · rfl
  · rw [Option.none_or]
    cases r.pending.lookup tag with
    | some i => rfl
    | none => rfl

/- The class of a tag is known afterwards. -/
theorem recordClass_cases (tag : String) (isUnion : Bool) (r : Registry) :
    (∃ i, tagClass? r tag = some i ∧ (recordClass tag isUnion).run r = (.ok (.record i), r)) ∨
      tagClass? r tag = none ∧ (tag.toList.contains '\x00' = true ∧
          (recordClass tag isUnion).run r = (.error (.native .nameHoldsNul), r) ∨
        (recordClass tag isUnion).run r = (.ok (.record r.classes.records.length), { r with
          classes := { r.classes with records := r.classes.records ++ [{ name := tag, isUnion }] },
          pending := r.pending ++ [(tag, r.classes.records.length)] })) := by
  rw [recordClass_run]
  cases known : tagClass? r tag with
  | some i => exact .inl ⟨i, rfl, rfl⟩
  | none =>
    right
    refine ⟨rfl, ?_⟩
    dsimp only
    rw [run_bind, onClasses_run]
    rcases ClassWork.declare_run tag isUnion r.classes with ⟨holdsNul, refused⟩ | made
    · rw [refused]
      exact .inl ⟨holdsNul, rfl⟩
    · rw [made]
      exact .inr rfl

theorem recordClass_answer (tag : String) (isUnion : Bool) (r : Registry) :
    (∃ i, ((recordClass tag isUnion).run r).1 = .ok (.record i) ∧
        tagClass? ((recordClass tag isUnion).run r).2 tag = some i) ∨
      tag.toList.contains '\x00' = true ∧
        ((recordClass tag isUnion).run r).1 = .error (.native .nameHoldsNul) := by
  rcases recordClass_cases tag isUnion r with ⟨i, known, ended⟩ | ⟨unknown, ⟨holdsNul, ended⟩ | ended⟩
  · rw [ended]
    exact .inl ⟨i, rfl, known⟩
  · rw [ended]
    exact .inr ⟨holdsNul, rfl⟩
  · rw [ended]
    unfold tagClass? at unknown ⊢
    obtain ⟨unbound, absent⟩ := Option.or_eq_none_iff.mp unknown
    refine .inl ⟨_, rfl, ?_⟩
    simp [unbound, absent, List.lookup_append]

theorem nativeType_array (element : TypeExpr) (size : Option Int) :
    nativeType (.array element size) = do
      let t ← valueType element
      return some (← onClasses (ClassWork.array t (size.getD 0))) := by
  rw [nativeType]
  simp [valueType]

theorem valueType_run (t : TypeExpr) (r : Registry) :
    (valueType t).run r =
      match (nativeType t).run r with
      | (.ok (some native), r') => (.ok native, r')
      | (.ok none, r') => (.error (.voidValue t.text), r')
      | (.error f, r') => (.error f, r') := by
  rw [valueType, run_bind]
  rcases (nativeType t).run r with ⟨result, r'⟩
  match result with
  | .ok (some native) => rfl
  | .ok none => rfl
  | .error f => rfl

theorem nativeType_of_valueType {t : TypeExpr} {r r' : Registry} {native : NativeType}
    (ended : (valueType t).run r = (.ok native, r')) : (nativeType t).run r = (.ok (some native), r') := by
  rw [valueType_run] at ended
  generalize (nativeType t).run r = found at ended ⊢
  obtain ⟨result, r''⟩ := found
  match result with
  | .ok (some native) =>
    cases ended
    rfl
  | .ok none => cases ended
  | .error f => cases ended

theorem valueType_left (t : TypeExpr) (r : Registry) : ((valueType t).run r).2 = ((nativeType t).run r).2 := by
  rw [valueType_run]
  rcases (nativeType t).run r with ⟨result, r'⟩
  match result with
  | .ok (some native) => rfl
  | .ok none => rfl
  | .error f => rfl

theorem memberType_run (f : Field TypeExpr) (r : Registry) :
    (memberType f).run r =
      (((valueType f.type).run r).1.map (⟨f.name, ·, f.width⟩), ((nativeType f.type).run r).2) := by
  rw [← valueType_left, memberType, run_bind]
  rcases (valueType f.type).run r with ⟨result, r'⟩
  cases result with
  | ok native => rfl
  | error fault => rfl

theorem nativeType_tagged_eq {name tag : String} {isUnion : Bool}
    (tagged : splitTag name = some (if isUnion then .union else .struct, tag))
    (quals : List String) (canonical : Option TypeExpr) :
    nativeType (.named name quals canonical) = do return some (← recordClass tag isUnion) := by
  unfold nativeType
  cases isUnion with
  | true => simp only [tagged, if_true]
  | false => simp only [tagged, Bool.false_eq_true, if_false]

theorem nativeType_tagged {name tag : String} {isUnion : Bool}
    (tagged : splitTag name = some (if isUnion then .union else .struct, tag))
    (quals : List String) (canonical : Option TypeExpr) (r : Registry) :
    ((nativeType (.named name quals canonical)).run r).2 = ((recordClass tag isUnion).run r).2 := by
  rw [nativeType_tagged_eq tagged, run_bind]
  rcases (recordClass tag isUnion).run r with ⟨result, r'⟩
  cases result with
  | ok native => rfl
  | error f => rfl

theorem nativeType_canonical {r : Registry} {name : String} (untagged : splitTag name = none)
    (unknown : basicTypes.lookup name = none) (unbound : typeOf? r name = none) (quals : List String) (t : TypeExpr) :
    (nativeType (.named name quals (some t))).run r = (nativeType t).run r := by
  rw [nativeType]
  simp only [untagged, unknown]
  rw [run_bind, boundType?_run, unbound]

theorem nativeType_enumeration {name bare : String} (tagged : splitTag name = some (.enum, bare))
    (quals : List String) (t : TypeExpr) : nativeType (.named name quals (some t)) = nativeType t := by
  rw [nativeType]
  simp only [tagged]

/-- How the search for a named type ends. -/
inductive Named (r : Registry) (name : String) :
    Option TypeExpr → Except RegistrationFault (Option NativeType) × Registry → Prop
  | tagged {canonical tag} {isUnion : Bool} (tagged : splitTag name = some (if isUnion then .union else .struct, tag)) :
    Named r name canonical ((do return some (← recordClass tag isUnion) : Register (Option NativeType)).run r)
  | integer {bare} (tagged : splitTag name = some (.enum, bare)) : Named r name none (.ok (some (.simple .int)), r)
  | enumeration {bare t} (tagged : splitTag name = some (.enum, bare)) : Named r name (some t) ((nativeType t).run r)
  | basic {canonical simple} (untagged : splitTag name = none) (known : basicTypes.lookup name = some simple) :
    Named r name canonical (.ok (simple.map .simple), r)
  | bound {canonical native} (untagged : splitTag name = none) (unknown : basicTypes.lookup name = none)
    (bound : typeOf? r name = some native) : Named r name canonical (.ok (some native), r)
  | canonical {t} (untagged : splitTag name = none) (unknown : basicTypes.lookup name = none)
    (unbound : typeOf? r name = none) : Named r name (some t) ((nativeType t).run r)
  | missing (untagged : splitTag name = none) (unknown : basicTypes.lookup name = none)
    (unbound : typeOf? r name = none) : Named r name none (.error (.unknownType name), r)

theorem nativeType_named (name : String) (quals : List String) (canonical : Option TypeExpr) (r : Registry) :
    Named r name canonical ((nativeType (.named name quals canonical)).run r) := by
  rcases cut : splitTag name with _ | ⟨kind, bare⟩
  · cases known : basicTypes.lookup name with
    | some simple =>
      unfold nativeType
      simp only [cut, known]
      exact .basic cut known
    | none =>
      cases bound : typeOf? r name with
      | some native =>
        unfold nativeType
        simp only [cut, known]
        rw [run_bind, boundType?_run, bound]
        exact .bound cut known bound
      | none =>
        cases canonical with
        | some t =>
          rw [nativeType_canonical cut known bound]
          exact .canonical cut known bound
        | none =>
          unfold nativeType
          simp only [cut, known]
          rw [run_bind, boundType?_run, bound]
          exact .missing cut known bound
  · have tagged (isUnion : Bool) (same : kind = if isUnion then .union else .struct) :
        Named r name canonical ((nativeType (.named name quals canonical)).run r) := by
      rw [same] at cut
      rw [nativeType_tagged_eq cut]
      exact .tagged cut
    cases kind with
    | struct => exact tagged false rfl
    | union => exact tagged true rfl
    | enum =>
      cases canonical with
      | none =>
        unfold nativeType
        simp only [cut]
        exact .integer cut
      | some t =>
        rw [nativeType_enumeration cut]
        exact .enumeration cut

theorem nativeType_charPointer {t : TypeExpr} (chars : isChar t = true) (r : Registry) :
    (nativeType (.pointer t)).run r = (.ok (some (.simple .charPointer)), r) := by
  rw [nativeType, chars]
  rfl

theorem nativeType_pointer {t : TypeExpr} (other : isChar t = false) (r : Registry) :
    (nativeType (.pointer t)).run r =
      match (nativeType t).run r with
      | (.ok (some native), r') => (.ok (some (.pointer native)), r')
      | (.ok none, r') => (.ok (some (.simple .voidPointer)), r')
      | (.error f, r') => (if f.isMissingType then .ok (some (.simple .voidPointer)) else .error f, r') := by
  rw [nativeType, other, if_neg Bool.false_ne_true, run_bind, run_tryCatch]
  rcases (nativeType t).run r with ⟨result, r'⟩
  match result with
  | .ok (some native) => rfl
  | .ok none => rfl
  | .error f =>
    dsimp only
    cases f.isMissingType with
    | true => rfl
    | false => rfl

theorem nativeType_pointer_ok {t : TypeExpr} {r r' : Registry} {native : NativeType}
    (ended : (nativeType (.pointer t)).run r = (.ok (some native), r')) :
    (∃ target, native = .pointer target) ∨ ∃ s, native = .simple s := by
  cases chars : isChar t with
  | true =>
    rw [nativeType_charPointer chars] at ended
    cases ended
    exact .inr ⟨_, rfl⟩
  | false =>
    rw [nativeType_pointer chars] at ended
    generalize (nativeType t).run r = searched at ended
    obtain ⟨result, r₁⟩ := searched
    cases result with
    | ok found =>
      cases found with
      | some target =>
        cases ended
        exact .inl ⟨_, rfl⟩
      | none =>
        cases ended
        exact .inr ⟨_, rfl⟩
    | error f =>
      dsimp only at ended
      cases missing : f.isMissingType with
      | true =>
        rw [missing] at ended
        cases ended
        exact .inr ⟨_, rfl⟩
      | false =>
        rw [missing] at ended
        cases ended

end Equations

/-- The search for the first type, in the first state, comes right away to the search for the second one, in the second
state. -/
inductive Leads : Registry → TypeExpr → Registry → TypeExpr → Prop
  | enumeration {r t name bare quals} (tagged : splitTag name = some (.enum, bare)) :
    Leads r (.named name quals (some t)) r t
  | canonical {r t name quals} (untagged : splitTag name = none) (unknown : basicTypes.lookup name = none)
    (unbound : typeOf? r name = none) : Leads r (.named name quals (some t)) r t
  | pointee {r t} (other : isChar t = false) : Leads r (.pointer t) r t
  | element {r t size} : Leads r (.array t size) r t
  | result {r t parameters variadic} : Leads r (.function t parameters variadic) r t
  | parameter {r result native before natives name t after variadic r₁ r₂}
    (first : (nativeType result).run r = (.ok native, r₁))
    (earlier : (parameterTypes before).run r₁ = (.ok natives, r₂)) :
    Leads r (.function result (before ++ ⟨name, t⟩ :: after) variadic) r₂ t
  | member {r tag isUnion anonymous location i before members name t width after r₁ r₂}
    (declared : (onClasses (ClassWork.declare tag isUnion)).run r = (.ok i, r₁))
    (earlier : (memberTypes before).run r₁ = (.ok members, r₂)) :
    Leads r (.record ⟨tag, some (before ++ ⟨name, t, width⟩ :: after), isUnion, anonymous, location⟩) r₂ t

/-- The same through any number of types. -/
inductive Reaches : Registry → TypeExpr → Registry → TypeExpr → Prop
  | here {r t} : Reaches r t r t
  | next {r t s u s' v} : Leads r t s u → Reaches s u s' v → Reaches r t s' v

variable {r s s' : Registry} {t u : TypeExpr}

/-- The search for a type asks for the class of a tag, in the state `s`. -/
def Asks (r : Registry) (t : TypeExpr) (s : Registry) (tag : String) (isUnion : Bool) : Prop :=
  ∃ name quals canonical, Reaches r t s (.named name quals canonical) ∧
    splitTag name = some (if isUnion then .union else .struct, tag)

theorem Asks.before {tag : String} {isUnion : Bool} (leads : Leads r t s u) (asks : Asks s u s' tag isUnion) :
    Asks r t s' tag isUnion := by
  obtain ⟨name, quals, canonical, reached, tagged⟩ := asks
  exact ⟨name, quals, canonical, .next leads reached, tagged⟩

/- A fault other than a missing type ends the search that led to it as well. -/
theorem Leads.error {f : RegistrationFault} (leads : Leads r t s u) (failed : (nativeType u).run s = (.error f, s'))
    (grave : f.isMissingType = false) : (nativeType t).run r = (.error f, s') := by
  cases leads with
  | enumeration tagged =>
    rw [nativeType_enumeration tagged]
    exact failed
  | canonical untagged unknown unbound =>
    rw [nativeType_canonical untagged unknown unbound]
    exact failed
  | pointee other =>
    rw [nativeType_pointer other, failed]
    simp [grave]
  | element =>
    rw [nativeType_array, run_bind, valueType_run, failed]
  | result =>
    rw [nativeType, run_bind, failed]
  | parameter first earlier =>
    rw [parameterTypes_eq] at earlier
    rw [nativeType, run_bind, first]
    dsimp only
    rw [run_bind, parameterTypes_eq, run_mapM_append earlier, List.mapM_cons, run_bind, valueType_run, failed]
    rfl
  | member declared earlier =>
    rw [memberTypes_eq] at earlier
    rw [nativeType, run_bind, declared]
    dsimp only
    rw [run_bind, memberTypes_eq, run_mapM_append earlier, List.mapM_cons, run_bind, memberType_run, valueType_run,
      failed]
    rfl

end CBindings.Register
