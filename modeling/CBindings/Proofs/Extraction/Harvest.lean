import CBindings.Extraction
import CBindings.Proofs.Collector.Names
import CBindings.Proofs.Probe.Resolve

/-! An extraction without its session: the result of a request as a function of the headers that can be parsed
and of the answers that are left for the probe. -/
namespace CBindings.Extraction

open Collector (Visit allVisits walkAll visits walk)
open Session (run_bind)

/-- The path that the toolchain names; nothing where asking it ends everything. -/
def searched (t : Toolchain) (s : Session) : List String := ((SearchPath.discover t).run s).1.toOption.getD []

/-- Where the headers of a request are, once the toolchain has been asked. -/
def located (t : Toolchain) (r : Request) (s : Session) : List String :=
  r.headers.map (SearchPath.locate t (searched t s))

def parsed (t : Toolchain) (paths : List String) : List String :=
  paths.filter fun path => (t.units.lookup path).isSome

def unitsOf (t : Toolchain) (paths : List String) : List HeaderUnit :=
  paths.filterMap fun path => t.units.lookup path

theorem unitsOf_eq_nil {t : Toolchain} {paths : List String} (nothing : parsed t paths = []) :
    unitsOf t paths = [] := by
  refine List.filterMap_eq_nil_iff.mpr fun path member => ?_
  exact Option.not_isSome_iff_eq_none.mp (List.filter_eq_nil_iff.mp nothing path member)

theorem forM_answers {α : Type} (f : α → Work Unit)
    (each : ∀ a s, ((f a).run s).2.runs = s.runs ∧ ((f a).run s).2.checks = s.checks) (xs : List α) (s : Session) :
    ((xs.forM f).run s).2.runs = s.runs ∧ ((xs.forM f).run s).2.checks = s.checks := by
  induction xs generalizing s with
  | nil => exact ⟨rfl, rfl⟩
  | cons x rest ih =>
    obtain ⟨runs, checks⟩ := each x s
    have others := ih ((f x).run s).2
    rw [runs, checks] at others
    exact others

theorem collectUnit_run (c : Collection) (u : HeaderUnit) (s : Collector) (session : Session) :
    ((collectUnit c u s).run session).1 =
      (match (visits c s u).findSome? (Visit.fault? c) with
        | some f => .error f
        | none => .ok (walk c s u)) ∧
    ((collectUnit c u s).run session).2.runs = session.runs ∧
    ((collectUnit c u s).run session).2.checks = session.checks := by
  have left := Collector.walk_eq_leftBy c s u
  have whole : (collectUnit c u s).run session =
      (((Collector.collect c u).run { s with log := [] }).1.map fun _ =>
        ((Collector.collect c u).run { s with log := [] }).2,
       { session with log := session.log ++ ((Collector.collect c u).run { s with log := [] }).2.log }) := rfl
  rw [whole, Collector.collect_run, ← left]
  refine ⟨?_, rfl, rfl⟩
  cases (visits c s u).findSome? (Visit.fault? c) with
  | none => rfl
  | some f => rfl

theorem harvest_run (t : Toolchain) (c : Collection) (arguments paths : List String) (h : Harvest)
    (s : Session) :
    ((harvest t c arguments h paths).run s).1 =
      (match (allVisits c h.collector (unitsOf t paths)).findSome? (Visit.fault? c) with
        | some f => .error f
        | none => .ok ⟨walkAll c h.collector (unitsOf t paths), h.parsed ++ parsed t paths⟩) ∧
    ((harvest t c arguments h paths).run s).2.runs = s.runs ∧
    ((harvest t c arguments h paths).run s).2.checks = s.checks := by
  induction paths generalizing h s with
  | nil =>
    refine ⟨?_, rfl, rfl⟩
    rw [harvest, Session.run_pure]
    simp [unitsOf, parsed, allVisits, walkAll]
  | cons path rest ih =>
    unfold harvest
    rw [run_bind]
    have answer : ((Session.parse t path arguments).run s).1 = t.units.lookup path := rfl
    rw [answer]
    cases found : t.units.lookup path with
    | none =>
      have units : unitsOf t (path :: rest) = unitsOf t rest := by simp [unitsOf, found]
      have paths : parsed t (path :: rest) = parsed t rest := by simp [parsed, found]
      rw [units, paths]
      exact ih h ((Session.write .error .extraction (Session.cannotParse path).message).run
        ((Session.parse t path arguments).run s).2).2
    | some u =>
      dsimp only
      rw [run_bind]
      obtain ⟨runs, checks⟩ := forM_answers
        (fun d => Session.write .warning .extraction (placeText d.location ++ ": " ++ d.message))
        (fun _ _ => ⟨rfl, rfl⟩) u.errors ((Session.parse t path arguments).run s).2
      generalize StateT.run (u.errors.forM fun d =>
        Session.write .warning .extraction (placeText d.location ++ ": " ++ d.message))
          ((Session.parse t path arguments).run s).2 = warned at runs checks ⊢
      change warned.2.runs = s.runs at runs
      change warned.2.checks = s.checks at checks
      obtain ⟨result, runs', checks'⟩ := collectUnit_run c u h.collector warned.2
      rw [run_bind, result]
      have units : unitsOf t (path :: rest) = u :: unitsOf t rest := by simp [unitsOf, found]
      have paths : parsed t (path :: rest) = path :: parsed t rest := by simp [parsed, found]
      rw [units, paths, allVisits, List.findSome?_append]
      cases (visits c h.collector u).findSome? (Visit.fault? c) with
      | some f => exact ⟨rfl, runs'.trans runs, checks'.trans checks⟩
      | none =>
        have others := ih ⟨walk c h.collector u, h.parsed ++ [path]⟩ ((collectUnit c u h.collector).run warned.2).2
        rw [runs', checks', runs, checks] at others
        simpa [walkAll] using others

theorem run_of_filterFault {r : Request} {f : FilterFault} (refused : r.collection = .error f)
    (t : Toolchain) (s : Session) : (run t r).run s = (.error (.filter f), s) := by
  rw [run, refused]
  rfl

def messages (r : Request) (paths : List String) : List Declaration :=
  if r.quiet then [] else paths.map fun path => .info (infoText path)

def assemble (r : Request) (paths : List String) (w : Collector) (constants : List Constant) : List Declaration :=
  messages r paths ++ synthesize defaultLibrary (w.declarations ++ constants.map .constant)

/-- The session once the headers are collected. -/
def harvested (t : Toolchain) (r : Request) (c : Collection) (s : Session) : Session :=
  ((harvest t c (["-x", "c"] ++ r.extraArguments ++ SearchPath.arguments (searched t s)) {}
    (located t r s)).run ((SearchPath.discover t).run s).2).2

theorem harvested_answers (t : Toolchain) (r : Request) (c : Collection) (s : Session) :
    (harvested t r c s).runs = s.runs.drop 1 ∧ (harvested t r c s).checks = s.checks := by
  obtain ⟨runs, checks⟩ := Session.discover_answers t s
  obtain ⟨-, runs', checks'⟩ := harvest_run t c (["-x", "c"] ++ r.extraArguments ++
    SearchPath.arguments (searched t s)) (located t r s) {} ((SearchPath.discover t).run s).2
  exact ⟨runs'.trans runs, checks'.trans checks⟩

/- The headers first, then the probe, which is asked also where it has nothing to compute. -/
theorem gather_eq_resolve (t : Toolchain) (r : Request) (c : Collection) (s : Session) :
    (gather t r c (searched t s)).run ((SearchPath.discover t).run s).2 =
      match (allVisits c {} (unitsOf t (located t r s))).findSome? (Visit.fault? c) with
      | some f => (.error (.collector f), harvested t r c s)
      | none =>
        let w := walkAll c {} (unitsOf t (located t r s))
        let probed := (Probe.resolve t r (parsed t (located t r s)) (searched t s) w.computed).run (harvested t r c s)
        (match probed.1 with
          | .error f => .error (.probe f)
          | .ok constants => .ok (assemble r (parsed t (located t r s)) w constants), probed.2) := by
  rw [gather]
  change StateT.run (harvest t c _ {} (located t r s) >>= _) _ = _
  rw [run_bind]
  obtain ⟨result, -⟩ := harvest_run t c (["-x", "c"] ++ r.extraArguments ++
    SearchPath.arguments (searched t s)) (located t r s) {} ((SearchPath.discover t).run s).2
  rw [result, harvested]
  generalize (harvest t c _ {} (located t r s)).run _ = ended
  cases (allVisits c {} (unitsOf t (located t r s))).findSome? (Visit.fault? c) with
  | some f => rfl
  | none =>
    -- a header that was parsed is needed for a macro to be noted, so probing for nothing is no other case
    have nothing (idle : (parsed t (located t r s)).isEmpty = true ∨
        (walkAll c {} (unitsOf t (located t r s))).computed.isEmpty = true) :
        (walkAll c {} (unitsOf t (located t r s))).computed = [] := by
      rcases idle with unparsed | uncomputed
      · rw [unitsOf_eq_nil (List.isEmpty_iff.mp unparsed)]
        rfl
      · exact List.isEmpty_iff.mp uncomputed
    simp only [List.nil_append]
    generalize walkAll c {} (unitsOf t (located t r s)) = w at nothing ⊢
    by_cases idle : (parsed t (located t r s)).isEmpty || w.computed.isEmpty
    · rw [if_pos idle, nothing (Bool.or_eq_true_iff.mp idle)]
      rfl
    · rw [if_neg idle, run_bind]
      rcases (Probe.resolve t r _ _ w.computed).run ended.2 with ⟨probed, s'⟩
      cases probed with
      | error f => rfl
      | ok constants => rfl

theorem run_eq_gather {r : Request} {c : Collection} (compiled : r.collection = .ok c) (t : Toolchain) (s : Session) :
    (run t r).run s =
      match ((SearchPath.discover t).run s).1 with
      | .error u => (.error (.search u), ((SearchPath.discover t).run s).2)
      | .ok _ => (gather t r c (searched t s)).run ((SearchPath.discover t).run s).2 := by
  rw [run, compiled]
  dsimp only
  rw [run_bind, searched]
  rcases (SearchPath.discover t).run s with ⟨_ | paths, s'⟩
  · rfl
  · rfl

theorem computed_nodup (c : Collection) (us : List HeaderUnit) : (walkAll c {} us).computed.Nodup := by
  have consistent := Collector.consistent_walkAll c us
  exact (List.nodup_append.mp (consistent.seen.nodup_iff.mp consistent.distinct)).2.1

/-- Beyond the path and the headers themselves a result depends only on the answers to the probe. -/
theorem run_of_collection {r : Request} {c : Collection} (compiled : r.collection = .ok c) (t : Toolchain)
    (s : Session) :
    ((run t r).run s).1 =
      match ((SearchPath.discover t).run s).1 with
      | .error u => .error (.search u)
      | .ok _ =>
        match (allVisits c {} (unitsOf t (located t r s))).findSome? (Visit.fault? c) with
        | some f => .error (.collector f)
        | none =>
          let w := walkAll c {} (unitsOf t (located t r s))
          match Probe.answer t.evaluator s.checks (s.runs.drop 1) (parsed t (located t r s)) w.computed with
          | .error f => .error (.probe f)
          | .ok constants => .ok (assemble r (parsed t (located t r s)) w constants) := by
  obtain ⟨runs, checks⟩ := harvested_answers t r c s
  rw [run_eq_gather compiled, gather_eq_resolve]
  cases ((SearchPath.discover t).run s).1 with
  | error u => rfl
  | ok _ =>
    dsimp only
    cases (allVisits c {} (unitsOf t (located t r s))).findSome? (Visit.fault? c) with
    | some f => rfl
    | none =>
      dsimp only
      rw [Probe.resolve_run t r _ _ _ _ (computed_nodup c _), runs, checks]

theorem run_eq_ok_iff {r : Request} {c : Collection} (compiled : r.collection = .ok c) (t : Toolchain) (s : Session)
    (ds : List Declaration) :
    ((run t r).run s).1 = .ok ds ↔
      (∃ paths, ((SearchPath.discover t).run s).1 = .ok paths) ∧
      (allVisits c {} (unitsOf t (located t r s))).findSome? (Visit.fault? c) = none ∧
      ∃ ks, Probe.answer t.evaluator s.checks (s.runs.drop 1) (parsed t (located t r s))
          (walkAll c {} (unitsOf t (located t r s))).computed = .ok ks ∧
        assemble r (parsed t (located t r s)) (walkAll c {} (unitsOf t (located t r s))) ks = ds := by
  rw [run_of_collection compiled]
  cases ((SearchPath.discover t).run s).1 with
  | error u => simp
  | ok paths =>
    cases (allVisits c {} (unitsOf t (located t r s))).findSome? (Visit.fault? c) with
    | some f => simp
    | none =>
      dsimp only
      cases Probe.answer t.evaluator s.checks (s.runs.drop 1) (parsed t (located t r s))
          (walkAll c {} (unitsOf t (located t r s))).computed with
      | error f => simp
      | ok ks => simp

end CBindings.Extraction
