import CBindings.Probe.Resolve
import CBindings.Proofs.Probe.Reading
import CBindings.Proofs.Session

/-! A probe from the answers of the session: which entries the checks leave, what the program prints, and what
is read from it. -/
namespace CBindings.Probe

open Session (run_bind printed seen)

theorem foldl_addNew_append (names taken : List String) (distinct : (taken ++ names).Nodup) :
    names.foldl SearchPath.addNew taken = taken ++ names := by
  induction names generalizing taken with
  | nil => simp
  | cons n rest ih =>
    have apart := (List.nodup_append.mp distinct).2.2
    have new : n ∉ taken := fun member => apart n member n List.mem_cons_self rfl
    have later := ih (taken ++ [n]) (by simpa using distinct)
    simpa [SearchPath.addNew, new] using later

theorem foldl_addNew_eq {names : List String} (distinct : names.Nodup) : names.foldl SearchPath.addNew [] = names :=
  foldl_addNew_append names [] distinct

/-- What is left of a program when its checks are answered so. -/
def pruned : List (Option HeaderUnit) → Nat → Program → Program
  | _, 0, p => p
  | checks, passes + 1, p =>
    match checks.head?.getD (some {}) with
    | none => p
    | some u => if (blamed p u).isEmpty then p else pruned (checks.drop 1) passes (p.without (blamed p u))

theorem blamed_of_nil {p : Program} (empty : p.names = []) (u : HeaderUnit) : blamed p u = [] := by
  have unknown (line : Int) : p.nameAt? line = none := by
    simp [Program.nameAt?, Program.entryLines, empty, Program.numberedFrom]
  have nobody : u.errors.filterMap (pointedAt? p) = [] := by
    refine List.filterMap_eq_nil_iff.mpr fun d _ => ?_
    unfold pointedAt?
    split
    · simp [unknown]
    · rfl
  simp [blamed, nobody]

theorem pruned_of_nil {p : Program} (empty : p.names = []) (checks : List (Option HeaderUnit)) (passes : Nat) :
    pruned checks passes p = p := by
  cases passes with
  | zero => rfl
  | succ passes =>
    unfold pruned
    split
    · rfl
    · simp [blamed_of_nil empty]

theorem note_answers (r : Request) (message : String) (s : Session) :
    ((note r message).run s).2.runs = s.runs ∧ ((note r message).run s).2.checks = s.checks := by
  unfold note
  split <;> exact ⟨rfl, rfl⟩

theorem pruneFor_run (r : Request) (arguments : List String) (passes : Nat) (p : Program) (s : Session) :
    ((pruneFor r arguments passes p).run s).1 = pruned s.checks passes p ∧
    ((pruneFor r arguments passes p).run s).2.runs = s.runs := by
  induction passes generalizing p s with
  | zero => exact ⟨rfl, rfl⟩
  | succ passes ih =>
    unfold pruneFor
    by_cases empty : p.names.isEmpty = true
    · rw [pruned_of_nil (List.isEmpty_iff.mp empty), if_pos empty]
      exact ⟨rfl, rfl⟩
    · rw [if_neg empty, run_bind]
      have answer : ((Session.check sourceName p.source arguments).run s).1 = s.checks.head?.getD (some {}) := rfl
      rw [answer, pruned]
      cases s.checks.head?.getD (some {}) with
      | none => exact ⟨rfl, rfl⟩
      | some u =>
        dsimp only
        by_cases blameless : (blamed p u).isEmpty = true
        · rw [if_pos blameless, if_pos blameless]
          exact ⟨rfl, rfl⟩
        · rw [if_neg blameless, if_neg blameless, run_bind]
          -- the next pass finds one check fewer and, whatever is noted, the same runs
          have silent := note_answers r ("Can't probe " ++ Text.join ", " (blamed p u))
            ((Session.check sourceName p.source arguments).run s).2
          have rest := ih (p.without (blamed p u)) (StateT.run (note r ("Can't probe " ++ Text.join ", " (blamed p u)))
            ((Session.check sourceName p.source arguments).run s).2).2
          rw [silent.1, silent.2] at rest
          exact rest

theorem prune_run (r : Request) (searchPath : List String) (p : Program) (s : Session) :
    ((prune r searchPath p).run s).1 = pruned s.checks pruneLimit p ∧ ((prune r searchPath p).run s).2.runs = s.runs :=
  pruneFor_run r _ pruneLimit p s

theorem pruned_names_sublist (checks : List (Option HeaderUnit)) (passes : Nat) (p : Program) :
    (pruned checks passes p).names.Sublist p.names := by
  fun_induction pruned checks passes p with
  | case1 => exact List.Sublist.refl _
  | case2 => exact List.Sublist.refl _
  | case3 => exact List.Sublist.refl _
  | case4 checks passes p u _ _ ih => exact ih.trans List.filter_sublist

/-- What the program prints, if it can be built and then run. -/
def outputOf (runs : List RunOutcome) : Except Uncaught (Option String) :=
  match printed runs.head? with
  | .ok (some _) => printed (runs.drop 1).head?
  | ended => ended

theorem map_runFailure (stage : Stage) (program : String) (f : RunFault) :
    (((runFailure stage program f).map .error).map Except.toOption : Except Uncaught (Option String)) =
      seen (.error f) := by
  cases f <;> rfl

theorem execute_run (t : Toolchain) (r : Request) (p : Program) (s : Session) :
    ((execute t r p).run s).1.map Except.toOption = outputOf s.runs := by
  unfold execute outputOf
  dsimp only
  rw [run_bind, run_bind]
  generalize [t.setting "CXX" "c++", standard, "-w", "-o", Path.join scratch binaryName,
    Path.join scratch sourceName] ++ preprocessorArguments r p.headers = command
  have start : ((Session.write .debug .probe ("Compiling macro probe: " ++ Text.join " " command)).run s).2.runs
      = s.runs := rfl
  generalize ((Session.write .debug .probe ("Compiling macro probe: " ++ Text.join " " command)).run s).2 = s₀
    at start ⊢
  obtain ⟨built, runs, _⟩ := Session.run_answer command (some p.source) s₀
  rw [start] at built runs
  rw [← built, ← runs]
  rcases (Session.run command (some p.source)).run s₀ with ⟨result, s₁⟩
  cases result with
  | error f =>
    refine (map_runFailure .compilation _ f).trans ?_
    cases f <;> rfl
  | ok _ =>
    dsimp only
    obtain ⟨ran, _⟩ := Session.run_answer [Path.join scratch binaryName] none s₁
    rw [run_bind]
    simp only [seen]
    rw [← ran]
    rcases (Session.run [Path.join scratch binaryName] none).run s₁ with ⟨result, s₂⟩
    cases result with
    | error f => exact map_runFailure .execution _ f
    | ok printed => rfl

/-- What a probe for the values of some names ends with, when it is answered so. -/
def answer (e : Evaluator) (checks : List (Option HeaderUnit)) (runs : List RunOutcome) (headers names : List String) :
    Except Fault (List Constant) :=
  let p := pruned checks pruneLimit ⟨headers, names⟩
  if p.names.isEmpty then .ok []
  else match outputOf runs with
    | .error u => .error (.run u)
    | .ok none => .ok []
    | .ok (some output) => (readOutput e output p.names).1

theorem resolve_run (t : Toolchain) (r : Request) (headers searchPath names : List String) (s : Session)
    (distinct : names.Nodup) :
    ((resolve t r headers searchPath names).run s).1 = answer t.evaluator s.checks s.runs headers names := by
  unfold resolve answer
  dsimp only
  rw [foldl_addNew_eq distinct]
  by_cases empty : names.isEmpty = true
  · rw [if_pos empty, pruned_of_nil (List.isEmpty_iff.mp empty), if_pos empty]
    rfl
  · rw [if_neg empty, run_bind]
    obtain ⟨left, runs⟩ := prune_run r searchPath ⟨headers, names⟩ s
    rw [left]
    generalize ((prune r searchPath ⟨headers, names⟩).run s).2 = s₁ at runs ⊢
    generalize pruned s.checks pruneLimit ⟨headers, names⟩ = p
    by_cases bare : p.names.isEmpty = true
    · rw [if_pos bare, if_pos bare]
      rfl
    · rw [if_neg bare, if_neg bare, run_bind]
      have printed := execute_run t r p s₁
      rw [runs] at printed
      rw [← printed]
      rcases (execute t r p).run s₁ with ⟨_ | _ | _, s₂⟩
      · rfl
      · rfl
      · rfl

theorem answer_error_iff (e : Evaluator) (checks : List (Option HeaderUnit)) (runs : List RunOutcome)
    (headers names : List String) :
    (∃ f, answer e checks runs headers names = .error f) ↔
      (pruned checks pruneLimit ⟨headers, names⟩).names ≠ [] ∧
        ((∃ u, outputOf runs = .error u) ∨
          ∃ output, outputOf runs = .ok (some output) ∧
            ∃ segment ∈ segments output, ∃ f, readSegment e segment = .error f) := by
  unfold answer
  generalize pruned checks pruneLimit ⟨headers, names⟩ = p
  by_cases bare : p.names = []
  · simp [bare]
  · rcases outputOf runs with u | _ | output
    · simp [bare]
    · simp [bare]
    · simp [bare, readOutput_error_iff]

theorem answer_ok {e : Evaluator} {checks : List (Option HeaderUnit)} {runs : List RunOutcome}
    {headers names : List String} {ks : List Constant} (answered : answer e checks runs headers names = .ok ks) :
    (ks.map (·.name)).Sublist names ∧ ∀ k ∈ ks, k.probed = true := by
  have left := pruned_names_sublist checks pruneLimit ⟨headers, names⟩
  unfold answer at answered
  dsimp only at answered
  split at answered
  · cases answered
    simp
  · split at answered
    · cases answered
    · cases answered
      simp
    · obtain ⟨ordered, probed⟩ := readOutput_ok answered
      exact ⟨ordered.trans left, probed⟩

end CBindings.Probe
