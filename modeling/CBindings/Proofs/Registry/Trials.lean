import CBindings.Proofs.Registry.Frame

/-! A registration as a row of trials: which declaration is tried in which state, how far the row goes, and what the
report says of each. -/
namespace CBindings

/-- The registry at the start of a registration. -/
def Registry.begun (r : Registry) : Registry := { r with defined := [], index := {} }

/-- The name under which a declaration is reported. -/
def Declaration.reportName (d : Declaration) : String :=
  match d.name? with
  | .ok name => name.getD ""
  | .error _ => ""

def Declaration.isStray : Declaration → Bool
  | .stray _ => true
  | _ => false

namespace Register

open Outcome

variable {d : Declaration} {ds : List Declaration} {r r' s s' : Registry}

/-- Tries one declaration of a list: a message is noted, all else is attempted. What the report says of it. -/
def trial : Declaration → Register (Option (String × Option Bool))
  | .info message => do
    note message
    return none
  | d => do
    let outcome ← attempt d
    return some (← nameOf d, outcome)

def entered (report : Report) : Option (String × Option Bool) → Report
  | some (name, outcome) => listed report name outcome
  | none => report

theorem registerAll_trial (report : Report) (d : Declaration) (rest : List Declaration) :
    registerAll report (d :: rest) = (do
      let entry ← trial d
      registerAll (entered report entry) rest) := by
  cases isInfo : d.isInfo with
  | true =>
    cases d with
    | info message => simp [registerAll, trial, entered]
    | _ => cases isInfo
  | false =>
    rw [registerAll_cons isInfo]
    cases d with
    | info message => cases isInfo
    | _ => simp [trial, entered]

/-- The declarations that are tried, each with the state in which it is. A trial that raises a fault is the last one. -/
def trials (r : Registry) : List Declaration → List (Registry × Declaration)
  | [] => []
  | d :: rest =>
    (r, d) :: match (trial d).run r with
      | (.ok _, r') => trials r' rest
      | (.error _, _) => []

/-- How the trial of a declaration ended: registered, passed over, or failed. -/
def verdict (tried : Registry × Declaration) : Option Bool := ((registerOne tried.2).run tried.1).1.toOption

theorem run_of_verdict {d : Declaration} {r : Registry} {done : Bool} (ended : verdict (r, d) = some done) :
    ∃ r', (registerOne d).run r = (.ok done, r') := by
  unfold verdict at ended
  generalize (registerOne d).run r = tried at ended ⊢
  obtain ⟨result, r'⟩ := tried
  cases result with
  | ok done' =>
    cases ended
    exact ⟨r', rfl⟩
  | error f => cases ended

/-- The names of the declarations that ended in this way, messages left out. -/
def namesEnded (how : Option Bool) (tried : List (Registry × Declaration)) : List String :=
  (tried.filter fun p => !p.2.isInfo && verdict p == how).map fun p => p.2.reportName

theorem attempt_run_eq (d : Declaration) (r : Registry) :
    (attempt d).run r =
      match (registerOne d).run r with
      | (.ok done, r') => (.ok (some done), r')
      | (.error f, r') =>
        if f.isContained then
          (.ok none, { r' with log := r'.log ++ [⟨.warning, .registration, f.message ++ " in " ++ shownText d⟩] })
        else (.error f, r') := by
  rw [attempt, run_tryCatch, run_map]
  rcases (registerOne d).run r with ⟨result, r'⟩
  cases result with
  | ok done => rfl
  | error f =>
    have handled : (contain d f).run r' = (if f.isContained then
        (.ok none, { r' with log := r'.log ++ [⟨.warning, .registration, f.message ++ " in " ++ shownText d⟩] })
      else (.error f, r')) := by
      unfold contain
      cases f.isContained with
      | true => rfl
      | false => rfl
    exact handled

theorem trial_run_eq (d : Declaration) (r : Registry) (notInfo : d.isInfo = false) :
    (trial d).run r =
      match (attempt d).run r with
      | (.error f, r') => (.error f, r')
      | (.ok outcome, r') =>
        (match d.name? with
          | .ok name => .ok (some (name.getD "", outcome))
          | .error f => .error (.declaration f), r') := by
  have start : trial d = (do
      let outcome ← attempt d
      return some (← nameOf d, outcome)) := by
    cases d with
    | info message => cases notInfo
    | _ => rfl
  rw [start, run_bind]
  rcases (attempt d).run r with ⟨result, r'⟩
  cases result with
  | error f => rfl
  | ok outcome =>
    dsimp only
    rw [run_bind, nameOf]
    cases d.name? with
    | ok name => rfl
    | error f => rfl

theorem name?_of_notStray (notStray : d.isStray = false) : ∃ name, d.name? = .ok name := by
  cases d with
  | stray text => cases notStray
  | _ => exact ⟨_, rfl⟩

/- A trial goes through unless the declaration has no name to report, or the fault is one that is not contained. -/
theorem trial_ok_iff (d : Declaration) (r : Registry) :
    (∃ entry r', (trial d).run r = (.ok entry, r')) ↔
      d.isStray = false ∧ ∀ f, ((registerOne d).run r).1 = .error f → f.isContained = true := by
  cases isInfo : d.isInfo with
  | true =>
    cases d with
    | info message =>
      obtain ⟨log, noted⟩ := note_run message r
      refine iff_of_true ⟨none, { r with log := log }, ?_⟩ ⟨rfl, fun f failed => ?_⟩
      · rw [trial, run_bind, noted]
        rfl
      · cases failed
    | _ => cases isInfo
  | false =>
    cases isStray : d.isStray with
    | true =>
      cases d with
      | stray text =>
        refine iff_of_false ?_ fun both => by cases both.1
        rintro ⟨entry, r', ended⟩
        cases ended
      | _ => cases isStray
    | false =>
      obtain ⟨name, named⟩ := name?_of_notStray isStray
      rw [trial_run_eq d r isInfo, attempt_run_eq, named]
      rcases (registerOne d).run r with ⟨result, r'⟩
      cases result with
      | ok done => exact iff_of_true ⟨_, r', rfl⟩ ⟨rfl, fun f failed => by cases failed⟩
      | error f =>
        dsimp only
        cases contained : f.isContained with
        | true =>
          refine iff_of_true ⟨_, _, rfl⟩ ⟨rfl, fun f' failed => ?_⟩
          cases failed
          exact contained
        | false =>
          refine iff_of_false ?_ fun both => ?_
          · rintro ⟨entry, r'', ended⟩
            cases ended
          · cases contained.symm.trans (both.2 f rfl)

/- What the report gets is the verdict, under the name of the declaration. -/
theorem trial_entry {entry : Option (String × Option Bool)} (ended : (trial d).run r = (.ok entry, r')) :
    entry = if d.isInfo then none else some (d.reportName, verdict (r, d)) := by
  cases isInfo : d.isInfo with
  | true =>
    cases d with
    | info message =>
      obtain ⟨log, noted⟩ := note_run message r
      rw [trial, run_bind, noted] at ended
      cases ended
      rfl
    | _ => cases isInfo
  | false =>
    have notStray := ((trial_ok_iff d r).mp ⟨entry, r', ended⟩).1
    obtain ⟨name, named⟩ := name?_of_notStray notStray
    rw [trial_run_eq d r isInfo, attempt_run_eq, named] at ended
    rw [if_neg Bool.false_ne_true, verdict, Declaration.reportName, named]
    generalize (registerOne d).run r = tried at ended ⊢
    obtain ⟨result, r''⟩ := tried
    cases result with
    | ok done =>
      cases ended
      rfl
    | error f =>
      dsimp only at ended
      cases contained : f.isContained with
      | true =>
        rw [contained] at ended
        cases ended
        rfl
      | false =>
        rw [contained] at ended
        cases ended

theorem trials_single (d : Declaration) (r : Registry) : trials r [d] = [(r, d)] := by
  rw [trials]
  split
  · rfl
  · rfl

theorem trials_cons_ok {entry : Option (String × Option Bool)} (ended : (trial d).run r = (.ok entry, r'))
    (rest : List Declaration) : trials r (d :: rest) = (r, d) :: trials r' rest := by
  rw [trials, ended]

theorem trials_cons_error {f : RegistrationFault} (ended : (trial d).run r = (.error f, r'))
    (rest : List Declaration) : trials r (d :: rest) = [(r, d)] := by
  rw [trials, ended]

/- A registration returns if every trial goes through. -/
theorem registerAll_ok_iff (report : Report) (ds : List Declaration) (r : Registry) :
    (∃ final r', (registerAll report ds).run r = (.ok final, r')) ↔
      ∀ tried ∈ trials r ds, ∃ entry s, (trial tried.2).run tried.1 = (.ok entry, s) := by
  induction ds generalizing report r with
  | nil => exact iff_of_true ⟨report, r, rfl⟩ fun tried inside => by cases inside
  | cons d rest ih =>
    rw [registerAll_trial, run_bind]
    rcases ended : (trial d).run r with ⟨result, r'⟩
    cases result with
    | ok entry =>
      rw [trials_cons_ok ended, List.forall_mem_cons]
      dsimp only
      rw [ih]
      exact (and_iff_right ⟨entry, r', ended⟩).symm
    | error f =>
      rw [trials_cons_error ended, List.forall_mem_singleton]
      dsimp only
      refine iff_of_false ?_ ?_
      · rintro ⟨final, s, returned⟩
        cases returned
      · rintro ⟨entry, s, returned⟩
        cases ended.symm.trans returned

theorem namesEnded_cons (how : Option Bool) (d : Declaration) (r : Registry) (tried : List (Registry × Declaration)) :
    namesEnded how ((r, d) :: tried) =
      (if !d.isInfo && verdict (r, d) == how then [d.reportName] else []) ++ namesEnded how tried := by
  unfold namesEnded
  rw [List.filter_cons]
  split
  · rfl
  · rfl

theorem registerAll_report {report final : Report} {ds : List Declaration}
    (ended : (registerAll report ds).run r = (.ok final, r')) :
    (trials r ds).map Prod.snd = ds ∧
      final.registered = report.registered ++ namesEnded (some true) (trials r ds) ∧
      final.skipped = report.skipped ++ namesEnded (some false) (trials r ds) ∧
      final.failed = report.failed ++ namesEnded none (trials r ds) := by
  induction ds generalizing report r with
  | nil =>
    cases ended
    simp [trials, namesEnded]
  | cons d rest ih =>
    rw [registerAll_trial] at ended
    obtain ⟨entry, between, tried, onward⟩ := run_bind_ok ended
    obtain ⟨all, registered, skipped, failed⟩ := ih onward
    rw [trials_cons_ok tried, List.map_cons, all, registered, skipped, failed, trial_entry tried]
    simp only [namesEnded_cons]
    refine ⟨trivial, ?_⟩
    cases d.isInfo with
    | true => simp [entered]
    | false =>
      match verdict (r, d) with
      | some true => simp [entered, listed]
      | some false => simp [entered, listed]
      | none => simp [entered, listed]

/- The index is bound once every declaration was tried. -/
theorem register_run (ds : List Declaration) (r : Registry) :
    (register ds).run r =
      match (registerAll {} ds).run r.begun with
      | (.ok report, r') =>
        (.ok report, { r' with names := r'.names.insert constantIndexName (.index r'.index) })
      | (.error f, r') => (.error f, r') := by
  have start : (register ds).run r = (do
      let report ← registerAll {} ds
      bind constantIndexName (.index (← get).index)
      return report : Register Report).run r.begun := rfl
  rw [start, run_bind]
  rcases (registerAll {} ds).run r.begun with ⟨result, r'⟩
  cases result with
  | ok report => rfl
  | error f => rfl

end Register

end CBindings
