import CBindings.SearchPath
import Mathlib.Logic.Basic

/-! Answers from outside, in the order in which they are asked for. A run of a program takes the next one, and
nothing else takes any. -/
namespace CBindings.Session

theorem run_bind {α β : Type} (x : Work α) (f : α → Work β) (s : Session) :
    (x >>= f).run s = (f (x.run s).1).run (x.run s).2 := rfl

theorem run_pure {α : Type} (a : α) (s : Session) : (pure a : Work α).run s = (a, s) := rfl

/-- What a program prints, if it ends well. An uncaught end is no answer at all. -/
def printed : Option RunOutcome → Except Uncaught (Option String)
  | none => .ok (some "")
  | some (.exited code output _) => .ok (if code = 0 then some output else none)
  | some (.unable _) => .ok none
  | some (.uncaught u) => .error u

/-- What is seen of a run where only the output counts. -/
def seen : Except RunFault (String × String) → Except Uncaught (Option String)
  | .ok (output, _) => .ok (some output)
  | .error (.uncaught u) => .error u
  | .error _ => .ok none

theorem run_answer (command : List String) (source : Option String) (s : Session) :
    seen ((run command source).run s).1 = printed s.runs.head? ∧
    ((run command source).run s).2.runs = s.runs.drop 1 ∧
    ((run command source).run s).2.checks = s.checks := by
  obtain ⟨checks, runs, parses, commands, log⟩ := s
  cases runs with
  | nil => exact ⟨rfl, rfl, rfl⟩
  | cons outcome rest =>
    cases outcome with
    | unable message => exact ⟨rfl, rfl, rfl⟩
    | uncaught u => exact ⟨rfl, rfl, rfl⟩
    | exited code output errors =>
      refine ⟨?_, rfl, rfl⟩
      change seen (if code = 0 then .ok (output, errors) else _) = _
      by_cases good : code = 0
      · simp [printed, good, seen]
      · simp [printed, good, seen]

theorem run_succeeded {s : Session} {output errors : String} (answer : s.runs.head? = some (.exited 0 output errors))
    (command : List String) (source : Option String) :
    (run command source).run s =
      (.ok (output, errors), { s with runs := s.runs.drop 1, commands := s.commands ++ [⟨command, source⟩] }) := by
  obtain ⟨checks, runs, parses, commands, log⟩ := s
  cases runs with
  | nil => cases answer
  | cons outcome rest =>
    cases answer
    rfl

theorem discover_answers (t : Toolchain) (s : Session) :
    ((SearchPath.discover t).run s).2.runs = s.runs.drop 1 ∧
    ((SearchPath.discover t).run s).2.checks = s.checks := by
  have asked : ((SearchPath.query t).run s).2.runs = s.runs.drop 1 ∧
      ((SearchPath.query t).run s).2.checks = s.checks := by
    unfold SearchPath.query
    split
    · exact (run_answer ["xcrun", "--show-sdk-path"] none s).2
    · exact (run_answer [t.setting "CC" "cc", "-E", "-v", "-x", "c", "/dev/null"] none s).2
  rw [SearchPath.discover, run_bind]
  split <;> exact asked

/-- The paths where the toolchain was asked, and what it was asked ended so. -/
def pathsOf : Except RunFault (List String) → Except Uncaught (List String)
  | .ok found => .ok (found.foldl SearchPath.addNew SearchPath.defaults)
  | .error (.uncaught u) => .error u
  | .error _ => .ok SearchPath.defaults

theorem discover_paths (t : Toolchain) (s : Session) :
    ((SearchPath.discover t).run s).1 = pathsOf ((SearchPath.query t).run s).1 := by
  rw [SearchPath.discover, run_bind]
  rcases (SearchPath.query t).run s with ⟨answer, s'⟩
  cases answer with
  | error f => cases f <;> rfl
  | ok found => rfl

theorem pathsOf_eq_error_iff {answer : Except RunFault (List String)} {u : Uncaught} :
    pathsOf answer = .error u ↔ answer = .error (.uncaught u) := by
  cases answer with
  | ok found => simp [pathsOf]
  | error f => cases f <;> simp [pathsOf]

theorem map_seen_eq_error_iff {result : Except RunFault (String × String)} {f : String × String → List String}
    {u : Uncaught} : result.map f = .error (.uncaught u) ↔ seen result = .error u := by
  cases result with
  | ok p => simp [seen, Except.map]
  | error f => cases f <;> simp [seen, Except.map]

theorem printed_eq_error_iff {outcome : Option RunOutcome} {u : Uncaught} :
    printed outcome = .error u ↔ outcome = some (.uncaught u) := by
  rcases outcome with _ | _ | _ | _ <;> simp [printed]

/- The paths are not known only if the one run that asks for them ends in a way that nothing expects. -/
theorem discover_eq_error_iff (t : Toolchain) (s : Session) (u : Uncaught) :
    ((SearchPath.discover t).run s).1 = .error u ↔ s.runs.head? = some (.uncaught u) := by
  rw [discover_paths, pathsOf_eq_error_iff, ← printed_eq_error_iff]
  unfold SearchPath.query
  split
  · rw [← (run_answer ["xcrun", "--show-sdk-path"] none s).1]
    exact map_seen_eq_error_iff
  · rw [← (run_answer [t.setting "CC" "cc", "-E", "-v", "-x", "c", "/dev/null"] none s).1]
    exact map_seen_eq_error_iff

end CBindings.Session
