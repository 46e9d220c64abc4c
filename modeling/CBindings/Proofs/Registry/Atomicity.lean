import CBindings.Proofs.Registry.Enumerators
import CBindings.Proofs.Registry.Trials

/-! A declaration that fails leaves no trace in the namespace, nor in the index of constants. -/
namespace CBindings.Register

open Outcome

variable {r r' s s' : Registry} {f : RegistrationFault} {name : String}

/- Nothing is bound before the search is over. -/
theorem Concludes.failed {α : Type} {x : Register α} (resolves : OnlyResolves x)
    (concludes : Concludes name (x.run s) (.error f, r')) : Resolved s r' := by
  rw [concludes.error.1]
  exact resolves s

theorem registerFunction_failed {function : Function} (ended : (registerFunction function).run r = (.error f, r')) :
    Resolved r r' := by
  cases started : functionStart? r function with
  | none =>
    rcases registerFunction_passed started with ⟨log, passed⟩ | ⟨missed, failed⟩
    · cases ended.symm.trans passed
    · cases ended.symm.trans failed
      exact Resolved.refl r
  | some r₁ =>
    have concludes := registerFunction_concludes started
    rw [ended] at concludes
    obtain ⟨log, rfl, -⟩ := functionStart?_cases started
    exact Resolved.trans ⟨r.classes, r.pending, log, rfl⟩ (concludes.failed (onlyResolves_signatureTypes _ _))

/- The name of a record is the only one that is bound before the search is over, and it is taken back. -/
theorem registerRecord_failed {record : Record} (ended : (registerRecord record).run r = (.error f, r')) :
    Resolved r r' := by
  have free : r.names.has record.name = false := guarded_failed ended
  have taken := onlyResolves_takePending record r
  rw [registerRecord_free free] at ended
  generalize (takePending record).run r = found at ended taken
  obtain ⟨result, r₁⟩ := found
  cases result with
  | error f' =>
    cases ended
    exact taken
  | ok i =>
    obtain ⟨classes, pending, log, rfl⟩ := taken
    have defined := onlyResolves_defineMembers i record
      (withRecord { r with classes := classes, pending := pending, log := log } record.name i)
    dsimp only at ended
    generalize (defineMembers i record).run _ = tried at ended defined
    obtain ⟨result', r₂⟩ := tried
    cases result' with
    | ok _ => cases ended
    | error f' =>
      cases ended
      obtain ⟨classes', pending', log', rfl⟩ := defined
      refine ⟨classes', pending', log', ?_⟩
      simp only [withRecord, Namespace.erase_insert free]

theorem registerOne_failed {d : Declaration} (ended : (registerOne d).run r = (.error f, r'))
    (contained : f.isContained = true) : Resolved r r' := by
  match d with
  | .constant c =>
    cases ended.symm.trans (registerConstant_free (guarded_failed ended))
  | .record body => exact registerRecord_failed ended
  | .constructor typeName =>
    obtain ⟨done, classes, log, finished, -⟩ := registerConstructor_run typeName r
    cases ended.symm.trans finished
  | .enumeration e => exact registerEnumeration_failed ended contained
  | .function g => exact registerFunction_failed ended
  | .alias a =>
    have concludes := registerAlias_concludes (guarded_failed ended)
    rw [show (registerAlias a).run r = _ from ended] at concludes
    exact concludes.failed (onlyResolves_nativeType a.target)
  | .variable v =>
    have concludes := registerVariable_concludes (guarded_failed ended)
    rw [show (registerVariable v).run r = _ from ended] at concludes
    exact concludes.failed (onlyResolves_nativeType v.type)
  | .info message => cases ended
  | .stray text =>
    cases ended
    exact Resolved.refl r

/- What the report says of a declaration that was tried. -/
theorem registerAll_single {report report' : Report} {d : Declaration}
    (ended : (registerAll report [d]).run r = (.ok report', r')) :
    ∃ entry, (trial d).run r = (.ok entry, r') ∧ report' = entered report entry := by
  rw [registerAll_trial] at ended
  obtain ⟨entry, between, tried, rest⟩ := run_bind_ok ended
  cases rest
  exact ⟨entry, tried, rfl⟩

theorem trial_failed {d : Declaration} {entry : String} (ended : (trial d).run r = (.ok (some (entry, none)), r')) :
    Resolved r r' := by
  have notInfo : d.isInfo = false := by
    cases isInfo : d.isInfo with
    | false => rfl
    | true =>
      have recorded := trial_entry ended
      rw [isInfo] at recorded
      cases recorded
  have notStray := ((trial_ok_iff d r).mp ⟨_, r', ended⟩).1
  obtain ⟨name, named⟩ := name?_of_notStray notStray
  rw [trial_run_eq d r notInfo, attempt_run_eq, named] at ended
  rcases tried : (registerOne d).run r with ⟨result, r₁⟩
  rw [tried] at ended
  cases result with
  | ok done => cases ended
  | error f =>
    dsimp only at ended
    cases contained : f.isContained with
    | true =>
      rw [contained] at ended
      cases ended
      obtain ⟨classes, pending, log, rfl⟩ := registerOne_failed tried contained
      exact ⟨classes, pending, _, rfl⟩
    | false =>
      rw [contained] at ended
      cases ended

/-- A declaration that is reported as failed, in whatever state it is tried, leaves all names bound to what they were
bound to, and the index of constants as it was; the declarations after it are tried in the state that it leaves. -/
theorem registerAll_failed_unchanged {report report' : Report} {d : Declaration}
    (tried : (registerAll report [d]).run r = (.ok report', r')) (failed : report'.failed ≠ report.failed) :
    r'.names = r.names ∧ r'.index = r.index ∧ r'.defined = r.defined ∧
      report' = { report with failed := report.failed ++ [d.reportName] } ∧
      ∀ rest, (registerAll report (d :: rest)).run r = (registerAll report' rest).run r' := by
  obtain ⟨entry, ended, rfl⟩ := registerAll_single tried
  have onward (rest : List Declaration) :
      (registerAll report (d :: rest)).run r = (registerAll (entered report entry) rest).run r' := by
    rw [registerAll_trial, run_bind, ended]
  have recorded := trial_entry ended
  match entry with
  | none => exact absurd rfl failed
  | some (_, some true) => exact absurd rfl failed
  | some (_, some false) => exact absurd rfl failed
  | some (name, none) =>
    obtain ⟨classes, pending, log, rfl⟩ := trial_failed ended
    refine ⟨rfl, rfl, rfl, ?_, onward⟩
    split at recorded
    · cases recorded
    · obtain ⟨rfl, -⟩ := Prod.mk.inj (Option.some.inj recorded)
      rfl

/-- The type of a member of the nested record is unknown. -/
def listRecord : Record :=
  { name := "list", fields := some [
      { name := "next", type := .pointer (.named "struct list" [] none) },
      { name := "items",
        type := .array (.record ⟨"item", some [⟨"size", .named "extent" [] none, none⟩], false, [], none⟩) (some 3) }] }

def limitNames : Namespace := [("LIMIT", .value (.int 3)), ("item", .type (.simple .int))]

theorem listRecord_failed_unchanged :
    ∃ report r', (registerAll {} [.record listRecord]).run { names := limitNames } = (.ok report, r') ∧
      report = ⟨[], [], ["list"]⟩ ∧ r'.names = limitNames ∧ r'.index = {} := by
  have evaluated : ((registerAll {} [.record listRecord]).run { names := limitNames }).1.toOption.map (·.failed) =
      some ["list"] := by
    decide +kernel
  rcases ended : (registerAll {} [.record listRecord]).run { names := limitNames } with ⟨result, r'⟩
  rw [ended] at evaluated
  cases result with
  | error f => cases evaluated
  | ok report =>
    have named : report.failed = ["list"] := Option.some.inj evaluated
    have failed : report.failed ≠ [] := by simp [named]
    obtain ⟨names, index, -, listed, -⟩ := registerAll_failed_unchanged ended failed
    exact ⟨report, r', rfl, listed, names, index⟩

end CBindings.Register
