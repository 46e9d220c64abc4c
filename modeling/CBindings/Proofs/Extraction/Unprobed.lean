import CBindings.Proofs.Extraction.Order

/-! What the probe cannot touch. Two sessions that answer the question for the search path alike may differ in all
that the probe is told; what they return differs at most in probed constants. -/
namespace CBindings.Extraction

open Collector (Visit allVisits walkAll)

/-- The declarations that come from the headers alone. -/
def unprobed (ds : List Declaration) : List Declaration := ds.filter (!·.isProbed)

theorem discover_of_query {t : Toolchain} {s s' : Session}
    (asked : ((SearchPath.query t).run s).1 = ((SearchPath.query t).run s').1) (r : Request) :
    ((SearchPath.discover t).run s).1 = ((SearchPath.discover t).run s').1 ∧ located t r s = located t r s' := by
  have paths : ((SearchPath.discover t).run s).1 = ((SearchPath.discover t).run s').1 := by
    rw [Session.discover_paths, Session.discover_paths, asked]
  refine ⟨paths, ?_⟩
  rw [located, located, searched, searched, paths]

theorem unprobed_assemble (r : Request) (paths : List String) {w : Collector} {ks : List Constant}
    (consistent : w.Consistent) (probed : ∀ k ∈ ks, k.probed = true) :
    unprobed (assemble r paths w ks) = messages r paths ++ synthesize defaultLibrary w.declarations := by
  have first : (messages r paths).filter (!·.isProbed) = messages r paths := by
    refine List.filter_eq_self.mpr fun d member => ?_
    obtain ⟨text, rfl⟩ := messages_info member
    rfl
  have second : (synthesize defaultLibrary w.declarations).filter (!·.isProbed) =
      synthesize defaultLibrary w.declarations := by
    refine List.filter_eq_self.mpr fun d member => ?_
    simp [(synthesize_kind consistent.collected member).2.1]
  have third : (ks.map Declaration.constant).filter (!·.isProbed) = [] := by
    refine List.filter_eq_nil_iff.mpr fun d member => ?_
    obtain ⟨k, inside, rfl⟩ := List.mem_map.mp member
    simp [Declaration.isProbed, probed k inside]
  rw [unprobed, assemble, synthesize_append, synthesize_constants, List.filter_append, List.filter_append, first,
    second, third, List.append_nil]

section

variable {t : Toolchain} {r : Request} {c : Collection} {s : Session} (compiled : r.collection = .ok c)
include compiled

theorem unprobed_of_returned {ds : List Declaration} (returned : ((run t r).run s).1 = .ok ds) :
    (allVisits c {} (unitsOf t (located t r s))).findSome? (Visit.fault? c) = none ∧
      unprobed ds = messages r (parsed t (located t r s)) ++
        synthesize defaultLibrary (walkAll c {} (unitsOf t (located t r s))).declarations := by
  obtain ⟨-, clean, ks, answered, rfl⟩ := (run_eq_ok_iff compiled t s ds).mp returned
  have consistent := Collector.consistent_walkAll c (unitsOf t (located t r s))
  exact ⟨clean, unprobed_assemble r _ consistent (Probe.answer_ok answered).2⟩

theorem probe_of_failed {f : Fault} {paths : List String} (found : ((SearchPath.discover t).run s).1 = .ok paths)
    (clean : (allVisits c {} (unitsOf t (located t r s))).findSome? (Visit.fault? c) = none)
    (failed : ((run t r).run s).1 = .error f) : ∃ g, f = .probe g := by
  rw [run_of_collection compiled, found, clean] at failed
  dsimp only at failed
  split at failed
  · rename_i g _
    exact ⟨g, (Except.error.inj failed).symm⟩
  · cases failed

end

/-- Whatever the checks and the runs of the probe answer, a request returns the same declarations, in the same
order, up to its probed constants; only the probe itself can make the difference between returning and not. -/
theorem unprobed_eq_of_query {t : Toolchain} {r : Request} {s s' : Session} {ds : List Declaration}
    (asked : ((SearchPath.query t).run s).1 = ((SearchPath.query t).run s').1)
    (returned : ((run t r).run s).1 = .ok ds) :
    (∀ ds', ((run t r).run s').1 = .ok ds' → unprobed ds' = unprobed ds) ∧
      ∀ f, ((run t r).run s').1 = .error f → ∃ g, f = .probe g := by
  obtain ⟨paths, same⟩ := discover_of_query asked r
  cases compiled : r.collection with
  | error f =>
    rw [run_of_filterFault compiled] at returned
    cases returned
  | ok c =>
    obtain ⟨⟨path, found⟩, -⟩ := (run_eq_ok_iff compiled t s ds).mp returned
    obtain ⟨clean, kept⟩ := unprobed_of_returned compiled returned
    rw [paths] at found
    rw [same] at clean kept
    constructor
    · intro ds' returned'
      obtain ⟨_, kept'⟩ := unprobed_of_returned compiled returned'
      exact kept'.trans kept.symm
    · intro f failed
      exact probe_of_failed compiled found clean failed

/-- The check cannot be made, the program compiles, and then it crashes. -/
def crashingSession : Session := { checks := [none], runs := [.exited 0 "" "", .exited 0 "" "", .exited (-11) "" ""] }

theorem pointHeader_unprobed :
    ((SearchPath.query pointToolchain).run pointSession).1 =
        ((SearchPath.query pointToolchain).run crashingSession).1 ∧
      ∃ ds ds', ((run pointToolchain pointRequest).run pointSession).1 = .ok ds ∧
        ((run pointToolchain pointRequest).run crashingSession).1 = .ok ds' ∧
        ds.map (·.boundName?) = [none, some "point", none, some "SIZE", some "EDGE"] ∧
        ds'.map (·.boundName?) = [none, some "point", none] ∧ unprobed ds' = unprobed ds := by
  have asked : ((SearchPath.query pointToolchain).run pointSession).1 =
      ((SearchPath.query pointToolchain).run crashingSession).1 := rfl
  have evaluated : ((run pointToolchain pointRequest).run pointSession).1.toOption.map (·.map (·.boundName?)) =
        some [none, some "point", none, some "SIZE", some "EDGE"] ∧
      ((run pointToolchain pointRequest).run crashingSession).1.toOption.map (·.map (·.boundName?)) =
        some [none, some "point", none] := by
    decide +kernel
  cases returned : ((run pointToolchain pointRequest).run pointSession).1 with
  | error f => simp [returned, Except.toOption] at evaluated
  | ok ds =>
    cases returned' : ((run pointToolchain pointRequest).run crashingSession).1 with
    | error f => simp [returned', Except.toOption] at evaluated
    | ok ds' =>
      rw [returned, returned'] at evaluated
      have same := (unprobed_eq_of_query asked returned).1 ds' returned'
      exact ⟨asked, ds, ds', rfl, rfl, Option.some.inj evaluated.1, Option.some.inj evaluated.2, same⟩

end CBindings.Extraction
