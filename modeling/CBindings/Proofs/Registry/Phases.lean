import CBindings.Proofs.Registry.OwnName

/-! What registering one declaration does, phase by phase: it is passed over, or the types that it mentions are looked
for, or it fails; only then is its name bound. -/
namespace CBindings.Register

open Outcome

variable {r r' s s' : Registry} {t : TypeExpr} {name : String}

/-- The state in which the types of a function are looked for, unless what its name is bound to is in the way. -/
def functionStart? (r : Registry) (f : Function) : Option Registry :=
  match r.names.get? f.name with
  | none => some r
  | some existing =>
    match existing.staysFor f.parameters.length with
    | .ok false => some { r with log := r.log ++ [⟨.debug, .registration, "Redefining " ++ f.name⟩] }
    | _ => none

/-- The name of a record is bound while its members are looked for. -/
def withRecord (r : Registry) (name : String) (i : Nat) : Registry :=
  { r with names := r.names.insert name (.type (.record i)) }

/-- Registering the declaration, in the first state, begins a search for the type in the second one. -/
inductive Begins : Registry → Declaration → Registry → TypeExpr → Prop
  | target {r a} (free : r.names.has a.name = false) : Begins r (.alias a) r a.target
  | type {r v} (free : r.names.has v.name = false) : Begins r (.variable v) r v.type
  | signature {r r₁ f} (started : functionStart? r f = some r₁) :
    Begins r (.function f) r₁ (.function f.result f.parameters f.variadic)
  | member {r record i r₁ before members name t width after r₂} (free : r.names.has record.name = false)
    (taken : (takePending record).run r = (.ok i, r₁))
    (earlier : (memberTypes before).run (withRecord r₁ record.name i) = (.ok members, r₂))
    (given : record.fields = some (before ++ ⟨name, t, width⟩ :: after)) : Begins r (.record record) r₂ t

theorem isTaken_free (free : r.names.has name = false) : (isTaken name).run r = (.ok false, r) := by
  have start : (isTaken name).run r = (if r.names.has name = true then do
      note ("Skipping " ++ name ++ ": already defined")
      return true
    else return false : Register Bool).run r := rfl
  rw [start, free]
  rfl

/- The search is over: what fails, fails with its fault, and what is found is bound. -/
def Concludes {α : Type} (name : String) (found : Except RegistrationFault α × Registry)
    (ended : Except RegistrationFault Bool × Registry) : Prop :=
  match found with
  | (.error f, r) => ended = (.error f, r)
  | (.ok _, r) =>
    (∃ f, f.isMissingType = true ∧ ended = (.error f, r)) ∨
      ∃ b, ended = (.ok true, { r with names := r.names.insert name b })

theorem Concludes.error {α : Type} {found : Except RegistrationFault α × Registry} {f : RegistrationFault}
    (concludes : Concludes name found (.error f, r')) :
    r' = found.2 ∧ (found.1 = .error f ∨ f.isMissingType = true) := by
  obtain ⟨result, s⟩ := found
  cases result with
  | error f' =>
    cases concludes
    exact ⟨rfl, .inl rfl⟩
  | ok native =>
    rcases concludes with ⟨f', missing, failed⟩ | ⟨b, done⟩
    · cases failed
      exact ⟨rfl, .inr missing⟩
    · cases done

theorem registerAlias_concludes {a : Alias} (free : r.names.has a.name = false) :
    Concludes a.name ((nativeType a.target).run r) ((registerAlias a).run r) := by
  unfold registerAlias
  rw [run_bind, isTaken_free free]
  dsimp only
  rw [if_neg Bool.false_ne_true, run_bind]
  rcases (nativeType a.target).run r with ⟨result, r'⟩
  match result with
  | .error f => rfl
  | .ok none => exact .inl ⟨.voidAlias a.name, rfl, rfl⟩
  | .ok (some native) => exact .inr ⟨.type native, rfl⟩

theorem registerVariable_concludes {v : Variable} (free : r.names.has v.name = false) :
    Concludes v.name ((nativeType v.type).run r) ((registerVariable v).run r) := by
  unfold registerVariable
  rw [run_bind, isTaken_free free]
  dsimp only
  rw [if_neg Bool.false_ne_true, run_bind, valueType_run]
  rcases (nativeType v.type).run r with ⟨result, r'⟩
  match result with
  | .error f => rfl
  | .ok none => exact .inl ⟨.voidValue v.type.text, rfl, rfl⟩
  | .ok (some native) => exact .inr ⟨_, rfl⟩

/-- Looks for the types of a function, and binds it. -/
def bindFunction (f : Function) : Register Bool := do
  let result ← nativeType f.result
  let arguments ← parameterTypes f.parameters
  bind f.name (.function (.make f.name f.library result arguments f.variadic
    (f.parameters.map fun p => p.name.getD "")))
  return true

theorem registerFunction_started {f : Function} (started : functionStart? r f = some r') :
    (registerFunction f).run r = (bindFunction f).run r' := by
  unfold functionStart? at started
  unfold registerFunction
  rw [run_bind, run_get]
  dsimp only
  cases found : r.names.get? f.name with
  | none =>
    rw [found] at started
    cases started
    rfl
  | some existing =>
    rw [found] at started
    dsimp only at started ⊢
    split at started
    · rename_i replaced
      cases started
      rw [replaced]
      rfl
    · cases started

theorem registerFunction_concludes {f : Function} (started : functionStart? r f = some r') :
    Concludes f.name ((signatureTypes f.result f.parameters).run r') ((registerFunction f).run r) := by
  rw [registerFunction_started started, bindFunction, signatureTypes, run_bind, run_bind]
  rcases (nativeType f.result).run r' with ⟨result, r₁⟩
  cases result with
  | error fault => rfl
  | ok native =>
    dsimp only
    rw [run_bind, run_bind]
    rcases (parameterTypes f.parameters).run r₁ with ⟨result', r₂⟩
    cases result' with
    | error fault => rfl
    | ok natives => exact .inr ⟨_, rfl⟩

theorem registerFunction_stays {f : Function} {b : Binding} (bound : r.names.get? f.name = some b)
    (stays : b.staysFor f.parameters.length = .ok true) :
    ∃ log, (registerFunction f).run r = (.ok false, { r with log := log }) := by
  unfold registerFunction
  rw [run_bind, run_get]
  dsimp only
  rw [bound]
  dsimp only
  rw [stays]
  dsimp only
  obtain ⟨log, noted⟩ := note_run ("Skipping " ++ f.name ++ ": already defined") r
  rw [run_bind, noted]
  exact ⟨log, rfl⟩

theorem registerFunction_misses {f : Function} {b : Binding} {missed : String}
    (bound : r.names.get? f.name = some b) (misses : b.staysFor f.parameters.length = .error missed) :
    (registerFunction f).run r = (.error (.misses missed), r) := by
  unfold registerFunction
  rw [run_bind, run_get]
  dsimp only
  rw [bound]
  dsimp only
  rw [misses]
  rfl

/- What is in the way of a function has it passed over, or makes it fail with nothing touched. -/
theorem registerFunction_passed {f : Function} (passed : functionStart? r f = none) :
    (∃ log, (registerFunction f).run r = (.ok false, { r with log := log })) ∨
      ∃ missed, (registerFunction f).run r = (.error (.misses missed), r) := by
  unfold functionStart? at passed
  split at passed
  · cases passed
  · rename_i existing found
    match stays : existing.staysFor f.parameters.length with
    | .error missed => exact .inr ⟨missed, registerFunction_misses found stays⟩
    | .ok true => exact .inl (registerFunction_stays found stays)
    | .ok false =>
      rw [stays] at passed
      cases passed

/- Only a function gives way to another one. -/
theorem staysFor_eq_false {arity : Int} {b : Binding} (gives : b.staysFor arity = .ok false) :
    b.isFunction = true ∧ b.accepts arity = false := by
  unfold Binding.staysFor at gives
  cases kind : b.isFunction with
  | false => simp [kind] at gives
  | true =>
    rw [kind] at gives
    cases missed : b.missed? with
    | some name => simp [missed] at gives
    | none =>
      rw [missed] at gives
      exact ⟨rfl, Except.ok.inj gives⟩

/- The types are looked for where the name is free, or bound to a function that does not fit. -/
theorem functionStart?_cases {f : Function} (started : functionStart? r f = some s) :
    ∃ log, s = { r with log := log } ∧ (r.names.get? f.name = none ∨ ∃ b, r.names.get? f.name = some b ∧
      b.isFunction = true ∧ b.accepts f.parameters.length = false) := by
  unfold functionStart? at started
  split at started
  · rename_i free
    cases started
    exact ⟨r.log, rfl, .inl free⟩
  · rename_i existing found
    split at started
    · rename_i gives
      cases started
      exact ⟨_, rfl, .inr ⟨existing, found, staysFor_eq_false gives⟩⟩
    · cases started

/- Constants, records, aliases and variables are passed over if their name is taken. -/
theorem guarded_passed {x : Register Bool} (taken : r.names.has name = true) :
    ∃ log, (do if ← isTaken name then return false else x : Register Bool).run r =
      (.ok false, { r with log := log }) := by
  obtain ⟨log, asked⟩ := isTaken_run name r
  rw [run_bind, asked, taken]
  exact ⟨log, rfl⟩

theorem guarded_free {x : Register Bool} (free : r.names.has name = false) :
    (do if ← isTaken name then return false else x : Register Bool).run r = x.run r := by
  rw [run_bind, isTaken_free free]
  rfl

theorem guarded_failed {x : Register Bool} {f : RegistrationFault}
    (ended : (do if ← isTaken name then return false else x : Register Bool).run r = (.error f, r')) :
    r.names.has name = false := by
  cases taken : r.names.has name with
  | false => rfl
  | true =>
    obtain ⟨log, passed⟩ := guarded_passed (x := x) taken
    cases ended.symm.trans passed

/- Constants and constructors do not fail. -/
theorem registerConstant_free {c : Constant} (free : r.names.has c.name = false) :
    (registerConstant c).run r = (.ok true, { r with
      names := r.names.insert c.name (.value c.value), index := r.index.add c.value c.name }) := by
  unfold registerConstant
  rw [guarded_free free]
  rfl

theorem registerConstructor_run (name : String) (r : Registry) :
    ∃ done classes log, (registerConstructor name).run r = (.ok done, { r with classes := classes, log := log }) ∧
      r.classes.SameCores classes := by
  unfold registerConstructor
  rw [run_bind, run_get]
  dsimp only
  split
  · exact ⟨false, r.classes, r.log, rfl, Classes.SameCores.refl _⟩
  · split
    · rename_i i bound
      split
      · obtain ⟨log, noted⟩ := note_run ("Skipping " ++ name ++ ".zero(): field named zero") r
        rw [run_bind, noted]
        exact ⟨false, r.classes, log, rfl, Classes.SameCores.refl _⟩
      · refine ⟨true, _, r.log, rfl, ?_⟩
        exact Classes.sameCores_update (f := fun c => { c with hasZero := true }) (fun _ => rfl) i r.classes
    · exact ⟨false, r.classes, r.log, rfl, Classes.SameCores.refl _⟩

/- The waiting list without the tag. -/
theorem takePending_cases (record : Record) (r : Registry) :
    (∃ i, r.pending.lookup record.name = some i ∧ (r.classes.record i).isUnion = record.isUnion ∧
        (takePending record).run r =
          (.ok i, { r with pending := r.pending.filter (·.1 != record.name) })) ∨
      (∀ i, r.pending.lookup record.name = some i → (r.classes.record i).isUnion ≠ record.isUnion) ∧
        (takePending record).run r = (onClasses (ClassWork.declare record.name record.isUnion)).run
          { r with pending := r.pending.filter (·.1 != record.name) } := by
  unfold takePending
  rw [run_bind, run_get]
  dsimp only
  cases r.pending.lookup record.name with
  | none => exact .inr ⟨fun _ waiting => (Option.some_ne_none _ waiting.symm).elim, rfl⟩
  | some i =>
    cases kind : (r.classes.record i).isUnion == record.isUnion with
    | true =>
      refine .inl ⟨i, rfl, by simpa using kind, ?_⟩
      simp only [kind]
      rfl
    | false =>
      refine .inr ⟨fun j waiting => ?_, ?_⟩
      · cases waiting
        simpa using kind
      · simp only [kind]
        rfl

/- The class of a record is looked up or made, its name is bound, and its members are looked for; if they fail the name
is taken back. -/
theorem registerRecord_free {record : Record} (free : r.names.has record.name = false) :
    (registerRecord record).run r =
      match (takePending record).run r with
      | (.error f, r₁) => (.error f, r₁)
      | (.ok i, r₁) =>
        match (defineMembers i record).run (withRecord r₁ record.name i) with
        | (.error f, r₂) => (.error f, { r₂ with names := r₂.names.erase record.name })
        | (.ok _, r₂) => (.ok true, { r₂ with defined := r₂.defined ++ [record.name] }) := by
  unfold registerRecord
  rw [guarded_free free, run_bind]
  rcases (takePending record).run r with ⟨result, r₁⟩
  cases result with
  | error f => rfl
  | ok i =>
    dsimp only
    rw [run_bind]
    have bound : (bind record.name (.type (.record i))).run r₁ = (.ok (), withRecord r₁ record.name i) := rfl
    rw [bound]
    dsimp only
    rw [run_bind, run_tryCatch]
    rcases (defineMembers i record).run (withRecord r₁ record.name i) with ⟨result', r₂⟩
    cases result' with
    | error f => rfl
    | ok _ => rfl

end CBindings.Register
