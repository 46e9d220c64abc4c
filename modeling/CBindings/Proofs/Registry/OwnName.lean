import CBindings.Proofs.Registry.Namespace
import CBindings.Proofs.Registry.Resolution
import CBindings.Registry.Register

/-! Declarations that bind their own name or leave all names as they are. An enumeration also binds its enumerators,
so it is not one of them. -/
namespace CBindings

/-- A foreign function as the declaration asks for it. -/
def ForeignFunction.IsFor (g : ForeignFunction) (f : Function) : Prop :=
  ∃ result arguments,
    g = .make f.name f.library result arguments f.variadic (f.parameters.map fun p => p.name.getD "")

namespace Register

open Outcome (run_bind run_get run_tryCatch)

variable {α : Type} {name : String} {P : Binding → Prop}

/-- The name is bound and this is reported, or all names are as they were. -/
def BoundOrLeft (P : Binding → Prop) (name : String) (ns : Namespace)
    (ended : Except RegistrationFault Bool × Registry) : Prop :=
  ended.2.names = ns ∨ ended.1 = .ok true ∧ ∃ b, P b ∧ ended.2.names = ns.insert name b

theorem OnlyResolves.names {x : Register α} (resolves : OnlyResolves x) (r : Registry) :
    (x.run r).2.names = r.names := by
  obtain ⟨classes, pending, log, left⟩ := resolves r
  rw [left]

theorem boundOrLeft_after {x : Register α} {f : α → Register Bool} {r : Registry} (resolves : OnlyResolves x)
    (rest : ∀ a r', r'.names = r.names → BoundOrLeft P name r.names ((f a).run r')) :
    BoundOrLeft P name r.names ((x >>= f).run r) := by
  have same := resolves.names r
  rw [run_bind]
  rcases ended : x.run r with ⟨result, r'⟩
  rw [ended] at same
  cases result with
  | error e => exact .inl same
  | ok a => exact rest a r' same

theorem boundOrLeft_bind {b : Binding} (made : P b) {r : Registry} {ns : Namespace} (same : r.names = ns) :
    BoundOrLeft P name ns ((do bind name b; return true : Register Bool).run r) := by
  refine .inr ⟨rfl, b, made, ?_⟩
  rw [← same]
  rfl

/- Constants, records, aliases and variables bind their own name or nothing, and only if it is free. -/
def BindsNew (name : String) (x : Register Bool) : Prop :=
  ∀ r, (x.run r).2.names = r.names ∨
    r.names.has name = false ∧ BoundOrLeft (fun _ => True) name r.names (x.run r)

theorem note_run (message : String) (r : Registry) :
    ∃ log, (note message).run r = (.ok (), { r with log := log }) := by
  have start : (note message).run r = (if r.quiet then pure () else write .info message : Register Unit).run r := rfl
  rw [start]
  split
  · exact ⟨r.log, rfl⟩
  · exact ⟨_, rfl⟩

theorem isTaken_run (name : String) (r : Registry) :
    ∃ log, (isTaken name).run r = (.ok (r.names.has name), { r with log := log }) := by
  have start : (isTaken name).run r = (if r.names.has name = true then do
      note ("Skipping " ++ name ++ ": already defined")
      return true
    else return false : Register Bool).run r := rfl
  rw [start]
  cases r.names.has name with
  | false => exact ⟨r.log, rfl⟩
  | true =>
    obtain ⟨log, noted⟩ := note_run ("Skipping " ++ name ++ ": already defined") r
    refine ⟨log, ?_⟩
    rw [if_pos rfl, run_bind, noted]
    rfl

theorem bindsNew_guarded {x : Register Bool}
    (binds : ∀ r, r.names.has name = false → BoundOrLeft (fun _ => True) name r.names (x.run r)) :
    BindsNew name (do if ← isTaken name then return false else x) := by
  intro r
  obtain ⟨log, asked⟩ := isTaken_run name r
  rw [run_bind, asked]
  cases taken : r.names.has name with
  | true => exact .inl rfl
  | false => exact .inr ⟨rfl, binds { r with log := log } taken⟩

theorem registerConstant_binds (c : Constant) : BindsNew c.name (registerConstant c) :=
  bindsNew_guarded fun _ _ => .inr ⟨rfl, .value c.value, trivial, rfl⟩

theorem registerAlias_binds (a : Alias) : BindsNew a.name (registerAlias a) := by
  refine bindsNew_guarded fun r _ => boundOrLeft_after (onlyResolves_nativeType a.target) fun native r' same => ?_
  cases native with
  | none => exact .inl same
  | some t => exact boundOrLeft_bind trivial same

theorem registerVariable_binds (v : Variable) : BindsNew v.name (registerVariable v) := by
  refine bindsNew_guarded fun r _ => boundOrLeft_after (onlyResolves_valueType v.type) fun t r' same => ?_
  exact boundOrLeft_bind trivial same

theorem onlyResolves_takePending (record : Record) : OnlyResolves (takePending record) := by
  have declare := onlyResolves_onClasses (ClassWork.declare record.name record.isUnion)
  unfold takePending
  refine onlyResolves_get.bind fun r => OnlyResolves.bind (fun r => ?_) fun _ => ?_
  · exact ⟨r.classes, r.pending.filter (·.1 != record.name), r.log, rfl⟩
  · dsimp only
    split
    · split
      · exact onlyResolves_pure _
      · exact declare
    · exact declare

theorem onlyResolves_defineMembers (i : Nat) (record : Record) : OnlyResolves (defineMembers i record) := by
  unfold defineMembers
  split
  · exact onlyResolves_pure _
  · exact (onlyResolves_memberTypes _).bind fun _ => onlyResolves_onClasses _

/- The name of a record is bound before its members are looked at, and taken back if they fail. -/
theorem registerRecord_binds (record : Record) : BindsNew record.name (registerRecord record) := by
  refine bindsNew_guarded fun r free => boundOrLeft_after (onlyResolves_takePending record) fun i r' same => ?_
  have bound : (bind record.name (.type (.record i))).run r' =
      (.ok (), { r' with names := r'.names.insert record.name (.type (.record i)) }) := rfl
  have members := (onlyResolves_defineMembers i record).names
    { r' with names := r'.names.insert record.name (.type (.record i)) }
  rw [run_bind, bound]
  dsimp only
  rw [run_bind, run_tryCatch]
  rcases ended : (defineMembers i record).run _ with ⟨result, r''⟩
  rw [ended, same] at members
  cases result with
  | ok _ => exact .inr ⟨rfl, _, trivial, members⟩
  | error f =>
    left
    change r''.names.erase record.name = r.names
    rw [members]
    exact Namespace.erase_insert free _

theorem registerConstructor_names (name : String) (r : Registry) :
    ((registerConstructor name).run r).2.names = r.names := by
  unfold registerConstructor
  rw [run_bind, run_get]
  dsimp only
  split
  · rfl
  · split
    · split
      · obtain ⟨log, noted⟩ := note_run ("Skipping " ++ name ++ ".zero(): field named zero") r
        rw [run_bind, noted]
        rfl
      · rfl
    · rfl

/- What comes after the question whether a function of this name is there. -/
theorem function_boundOrLeft (f : Function) (r : Registry) :
    BoundOrLeft (fun b => ∃ g : ForeignFunction, g.IsFor f ∧ b = .function g) f.name r.names ((do
      let result ← nativeType f.result
      let arguments ← parameterTypes f.parameters
      bind f.name (.function (.make f.name f.library result arguments f.variadic
        (f.parameters.map fun p => p.name.getD "")))
      return true : Register Bool).run r) := by
  refine boundOrLeft_after (onlyResolves_nativeType f.result) fun result r' same => ?_
  rw [← same]
  refine boundOrLeft_after (onlyResolves_parameterTypes f.parameters) fun arguments r'' same' => ?_
  exact boundOrLeft_bind ⟨_, ⟨result, arguments, rfl⟩, rfl⟩ same'

end Register

end CBindings
