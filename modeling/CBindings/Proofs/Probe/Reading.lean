import CBindings.Probe.Output
import Mathlib.Logic.Basic

/-! What is read from a probe's output: constants of the requested names in their order, unless reading ends at a
segment. -/
namespace CBindings.Probe

variable {e : Evaluator} {segment : String}

/-- What reading the whole output ends with at this segment. -/
def fault? (e : Evaluator) (segment : String) : Option Fault :=
  match readSegment e segment with
  | .error f => some f
  | .ok _ => none

theorem fault?_eq_some_iff {f : Fault} : fault? e segment = some f ↔ readSegment e segment = .error f := by
  unfold fault?
  split
  · rename_i f' raised
    simp [raised]
  · rename_i r read
    simp [read]

theorem fault?_eq_none_iff : fault? e segment = none ↔ ∃ r, readSegment e segment = .ok r := by
  unfold fault?
  split
  · rename_i f raised
    simp [raised]
  · rename_i r read
    simp [read]

theorem readSegment_of_blank (blank : (Text.trim segment.toList).isEmpty = true) :
    readSegment e segment = .ok (.error (.malformed segment)) := by
  rw [List.isEmpty_iff] at blank
  simp [readSegment, splitSegment, blank]

theorem addSegments_fault (e : Evaluator) (names : List String) (f : Findings) (ss : List String) :
    (addSegments e names f ss).2 = ss.findSome? (fault? e) := by
  fun_induction addSegments e names f ss with
  | case1 => rfl
  | case2 f segment rest blank ih =>
    have none : fault? e segment = none := fault?_eq_none_iff.mpr ⟨_, readSegment_of_blank blank⟩
    rw [ih, List.findSome?_cons, none]
  | case3 f segment rest _ fault read =>
    have found : fault? e segment = some fault := fault?_eq_some_iff.mpr read
    rw [List.findSome?_cons, found]
  | case4 f segment rest _ fault read ih =>
    have none : fault? e segment = none := fault?_eq_none_iff.mpr ⟨_, read⟩
    rw [ih, List.findSome?_cons, none]
  | case5 f segment rest _ r read _ ih =>
    have none : fault? e segment = none := fault?_eq_none_iff.mpr ⟨_, read⟩
    rw [ih, List.findSome?_cons, none]
  | case6 f segment rest _ r read _ ih =>
    have none : fault? e segment = none := fault?_eq_none_iff.mpr ⟨_, read⟩
    rw [ih, List.findSome?_cons, none]

theorem addSegments_probed (e : Evaluator) (names : List String) (f : Findings) (ss : List String)
    (before : ∀ k ∈ f.found, k.probed = true) : ∀ k ∈ (addSegments e names f ss).1.found, k.probed = true := by
  fun_induction addSegments e names f ss with
  | case1 => exact before
  | case2 f segment rest _ ih => exact ih before
  | case3 => exact before
  | case4 f segment rest _ fault _ ih => exact ih before
  | case5 f segment rest _ r _ _ ih => exact ih before
  | case6 f segment rest _ r _ _ ih =>
    apply ih
    intro k member
    rcases List.mem_append.mp member with old | new
    · exact before k old
    · rw [List.mem_singleton.mp new]
      rfl

/- Reading ends at the first segment that ends it. -/
theorem readOutput_fault_iff (e : Evaluator) (output : String) (names : List String) (f : Fault) :
    (readOutput e output names).1 = .error f ↔ (segments output).findSome? (fault? e) = some f := by
  rw [← addSegments_fault e names {}]
  unfold readOutput
  rcases addSegments e names {} (segments output) with ⟨found, fault?⟩
  cases fault? with
  | none => simp
  | some fault => simp

theorem readOutput_error_iff (e : Evaluator) (output : String) (names : List String) :
    (∃ f, (readOutput e output names).1 = .error f) ↔
      ∃ segment ∈ segments output, ∃ f, readSegment e segment = .error f := by
  simp only [readOutput_fault_iff, ← Option.isSome_iff_exists, List.findSome?_isSome_iff, ← fault?_eq_some_iff]

theorem names_found (found : List Constant) (names : List String) :
    ((names.filterMap fun n => found.find? (·.name == n)).map (·.name)).Sublist names := by
  induction names with
  | nil => simp
  | cons n rest ih =>
    cases first : found.find? (·.name == n) with
    | none => simpa [first] using ih.cons n
    | some k =>
      have same : k.name = n := by simpa using List.find?_some first
      simpa [first, same] using ih.cons_cons n

theorem readOutput_ok {output : String} {names : List String} {ks : List Constant}
    (read : (readOutput e output names).1 = .ok ks) :
    (ks.map (·.name)).Sublist names ∧ ∀ k ∈ ks, k.probed = true := by
  have probed := addSegments_probed e names {} (segments output) (by simp)
  unfold readOutput at read
  split at read
  · cases read
  · rename_i f added
    cases read
    refine ⟨names_found f.found names, fun k member => ?_⟩
    obtain ⟨n, _, chosen⟩ := List.mem_filterMap.mp member
    exact probed k (by simpa [added] using List.mem_of_find?_eq_some chosen)

end CBindings.Probe
