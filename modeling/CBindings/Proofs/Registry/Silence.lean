import CBindings.Proofs.Registry.Trials

/-! Registering in silence. In a quiet registry no declaration writes an informational message: not one that is passed
over, not one that fails, and not a message among the declarations itself. -/
namespace CBindings

/-- The informational messages of a log. -/
def Log.infos (log : Log) : Log := log.filter (·.level == .info)

@[simp] theorem Log.infos_append (log more : Log) : infos (log ++ more) = infos log ++ infos more :=
  List.filter_append ..

namespace Register

open Outcome

variable {α β : Type} {r r' : Registry}

/-- A quiet registry stays quiet, and gets no informational messages. -/
def Hushed (r r' : Registry) : Prop := r.quiet = true → r'.quiet = true ∧ r'.log.infos = r.log.infos

theorem Hushed.refl (r : Registry) : Hushed r r := fun quiet => ⟨quiet, rfl⟩

theorem Hushed.trans (r r' r'' : Registry) (first : Hushed r r') (second : Hushed r' r'') : Hushed r r'' := by
  intro quiet
  obtain ⟨still, same⟩ := first quiet
  obtain ⟨last, same'⟩ := second still
  exact ⟨last, same'.trans same⟩

theorem hushed_of_same (quiet : r'.quiet = r.quiet) (log : r'.log = r.log) : Hushed r r' :=
  fun start => ⟨quiet.trans start, congrArg Log.infos log⟩

abbrev Hushes (x : Register α) : Prop := Within Hushed (fun _ => True) x

theorem hushes_pure (a : α) : Hushes (pure a) := within_pure Hushed.refl a

theorem hushes_get : Hushes (get : Register Registry) := within_get Hushed.refl

theorem hushes_throw (f : RegistrationFault) : Hushes (throw f : Register α) := within_throw Hushed.refl trivial

theorem Hushes.bind {x : Register α} {f : α → Register β} (first : Hushes x) (second : ∀ a, Hushes (f a)) :
    Hushes (x >>= f) :=
  Within.bind Hushed.trans first second

theorem hushes_modify {f : Registry → Registry} (same : ∀ r, (f r).quiet = r.quiet ∧ (f r).log = r.log) :
    Hushes (modify f : Register Unit) :=
  within_modify fun r => hushed_of_same (same r).1 (same r).2

theorem hushes_bindName (name : String) (b : Binding) : Hushes (Register.bind name b) :=
  hushes_modify (by simp)

theorem hushes_write {level : LogLevel} (other : level ≠ .info) (message : String) : Hushes (write level message) := by
  refine within_modify fun r quiet => ⟨quiet, ?_⟩
  rw [Log.infos_append]
  simp [Log.infos, other]

/- Here the registry is asked whether it is quiet. -/
theorem hushes_note (message : String) : Hushes (note message) := by
  intro r
  have start : (note message).run r = (if r.quiet then pure () else write .info message : Register Unit).run r := rfl
  refine ⟨fun quiet => ?_, fun _ _ => trivial⟩
  rw [start, if_pos quiet]
  exact ⟨quiet, rfl⟩

theorem hushes_isTaken (name : String) : Hushes (isTaken name) := by
  refine hushes_get.bind fun r => ?_
  split
  · exact (hushes_note _).bind fun _ => hushes_pure true
  · exact hushes_pure false

theorem hushes_guarded {name : String} {x : Register Bool} (rest : Hushes x) :
    Hushes (do if ← isTaken name then return false else x : Register Bool) := by
  refine (hushes_isTaken name).bind fun taken => ?_
  split
  · exact hushes_pure false
  · exact rest

theorem hushes_onClasses (work : ClassWork α) : Hushes (onClasses work) := by
  intro r
  refine ⟨?_, fun _ _ => trivial⟩
  rw [onClasses_run]
  exact hushed_of_same rfl rfl

theorem hushes_nativeType (t : TypeExpr) : Hushes (nativeType t) := by
  intro r
  obtain ⟨-, classes, pending, left⟩ := nativeType_grows t r
  refine ⟨?_, fun _ _ => trivial⟩
  rw [left]
  exact hushed_of_same rfl rfl

theorem hushes_valueType (t : TypeExpr) : Hushes (valueType t) := by
  refine (hushes_nativeType t).bind fun native => ?_
  cases native with
  | none => exact hushes_throw _
  | some n => exact hushes_pure n

theorem hushes_mapM {f : α → Register β} (each : ∀ a, Hushes (f a)) (xs : List α) : Hushes (xs.mapM f) :=
  fun r => ⟨mapM_moves Hushed.refl Hushed.trans xs r fun _ x _ _ s _ _ => (each x s).1, fun _ _ => trivial⟩

theorem hushes_parameterTypes (ps : List (Parameter TypeExpr)) : Hushes (parameterTypes ps) := by
  rw [parameterTypes_eq]
  exact hushes_mapM (fun p => hushes_valueType p.type) ps

theorem hushes_memberTypes (fields : List (Field TypeExpr)) : Hushes (memberTypes fields) := by
  intro r
  obtain ⟨-, classes, pending, left⟩ := memberTypes_grows fields r
  refine ⟨?_, fun _ _ => trivial⟩
  rw [left]
  exact hushed_of_same rfl rfl

theorem hushes_takePending (record : Record) : Hushes (takePending record) := by
  have declare := hushes_onClasses (ClassWork.declare record.name record.isUnion)
  unfold takePending
  refine hushes_get.bind fun r => (hushes_modify (by simp)).bind fun _ => ?_
  dsimp only
  split
  · split
    · exact hushes_pure _
    · exact declare
  · exact declare

theorem hushes_defineMembers (i : Nat) (record : Record) : Hushes (defineMembers i record) := by
  unfold defineMembers
  split
  · exact hushes_pure ()
  · exact (hushes_memberTypes _).bind fun _ => hushes_onClasses _

theorem Hushes.tryCatch {x : Register α} {handler : RegistrationFault → Register α} (first : Hushes x)
    (second : ∀ f, Hushes (handler f)) : Hushes (tryCatch x handler) :=
  fun r => ⟨tryCatch_moves Hushed.trans (first r).1 fun f s _ => (second f s).1, fun _ _ => trivial⟩

theorem hushes_registerConstant (c : Constant) : Hushes (registerConstant c) :=
  hushes_guarded ((hushes_bindName _ _).bind fun _ =>
    (hushes_modify (by simp)).bind fun _ => hushes_pure true)

theorem hushes_registerRecord (record : Record) : Hushes (registerRecord record) := by
  refine hushes_guarded ((hushes_takePending record).bind fun i => (hushes_bindName _ _).bind fun _ => ?_)
  refine ((hushes_defineMembers i record).tryCatch fun f => ?_).bind fun _ => ?_
  · exact (hushes_modify (by simp)).bind fun _ => hushes_throw f
  · exact (hushes_modify (by simp)).bind fun _ => hushes_pure true

theorem hushes_registerConstructor (name : String) : Hushes (registerConstructor name) := by
  refine hushes_get.bind fun r => ?_
  split
  · exact hushes_pure false
  · split
    · split
      · exact (hushes_note _).bind fun _ => hushes_pure false
      · exact (hushes_modify (by simp)).bind fun _ => hushes_pure true
    · exact hushes_pure false

theorem hushes_registerEnumerators (e : EnumClass) (vs : List Enumerator) : Hushes (registerEnumerators e vs) := by
  induction vs with
  | nil => exact hushes_pure ()
  | cons v rest ih =>
    refine (hushes_isTaken v.name).bind fun taken => ?_
    split
    · split
      · exact (hushes_throw _).bind fun _ => ih
      · refine (hushes_bindName _ _).bind fun _ => ?_
        exact (hushes_modify (by simp)).bind fun _ => ih
    · exact ih

theorem hushes_registerEnumeration (e : Enumeration) : Hushes (registerEnumeration e) := by
  refine (hushes_isTaken e.name).bind fun taken => ?_
  split
  · exact hushes_throw _
  · have last := fun c => (hushes_registerEnumerators c e.values).bind fun _ => hushes_pure (!taken)
    split
    · exact (hushes_bindName _ _).bind fun _ => last _
    · exact last _

theorem hushes_registerFunction (f : Function) : Hushes (registerFunction f) := by
  have types : Hushes (do
      let result ← nativeType f.result
      let arguments ← parameterTypes f.parameters
      Register.bind f.name (.function (.make f.name f.library result arguments f.variadic
        (f.parameters.map fun p => p.name.getD "")))
      return true : Register Bool) :=
    (hushes_nativeType _).bind fun _ => (hushes_parameterTypes _).bind fun _ =>
      (hushes_bindName _ _).bind fun _ => hushes_pure true
  refine hushes_get.bind fun r => ?_
  split
  · split
    · exact hushes_throw _
    · exact (hushes_note _).bind fun _ => hushes_pure false
    · exact (hushes_write (by simp) _).bind fun _ => types
  · exact types

theorem hushes_registerAlias (a : Alias) : Hushes (registerAlias a) := by
  refine hushes_guarded ((hushes_nativeType a.target).bind fun native => ?_)
  cases native with
  | none => exact hushes_throw _
  | some t => exact (hushes_bindName _ _).bind fun _ => hushes_pure true

theorem hushes_registerVariable (v : Variable) : Hushes (registerVariable v) :=
  hushes_guarded ((hushes_valueType v.type).bind fun _ => (hushes_bindName _ _).bind fun _ => hushes_pure true)

theorem hushes_registerOne (d : Declaration) : Hushes (registerOne d) := by
  cases d with
  | constant c => exact hushes_registerConstant c
  | record record => exact hushes_registerRecord record
  | constructor typeName => exact hushes_registerConstructor typeName
  | enumeration e => exact hushes_registerEnumeration e
  | function f => exact hushes_registerFunction f
  | «alias» a => exact hushes_registerAlias a
  | «variable» v => exact hushes_registerVariable v
  | info message => exact hushes_pure false
  | stray text => exact hushes_throw _

theorem hushes_nameOf (d : Declaration) : Hushes (nameOf d) := by
  unfold nameOf
  split
  · exact hushes_pure _
  · exact hushes_throw _

/- A fault that is contained is a warning. -/
theorem hushes_attempt (d : Declaration) : Hushes (attempt d) := by
  refine Hushes.tryCatch ?_ fun f => ?_
  · intro r
    rw [run_map]
    exact ⟨(hushes_registerOne d r).1, fun _ _ => trivial⟩
  · unfold contain
    split
    · exact (hushes_throw f).bind fun _ => (hushes_write (by simp) _).bind fun _ => hushes_pure none
    · exact (hushes_write (by simp) _).bind fun _ => hushes_pure none

theorem hushes_trial (d : Declaration) : Hushes (trial d) := by
  cases d with
  | info message => exact (hushes_note message).bind fun _ => hushes_pure none
  | _ => exact (hushes_attempt _).bind fun _ => (hushes_nameOf _).bind fun _ => hushes_pure _

theorem hushes_registerAll (report : Report) (ds : List Declaration) : Hushes (registerAll report ds) := by
  induction ds generalizing report with
  | nil => exact hushes_pure report
  | cons d rest ih =>
    rw [registerAll_trial]
    exact (hushes_trial d).bind fun entry => ih (entered report entry)

theorem hushes_register (ds : List Declaration) : Hushes (register ds) := by
  refine (hushes_modify (by simp)).bind fun _ => (hushes_registerAll {} ds).bind fun report => ?_
  exact hushes_get.bind fun _ => (hushes_bindName _ _).bind fun _ => hushes_pure report

end Register

end CBindings
