import CBindings.Load
import CBindings.Proofs.Extraction.Harvest
import CBindings.Proofs.Registry.Silence

/-! What a quiet request still says. No part of it writes an informational message but the reader of the probe's
output, which lists the macros that the output has no value for, quiet or not. -/
namespace CBindings

namespace Session

variable {α β : Type}

/-- The computation writes no informational message. -/
def Silent (x : Work α) : Prop := ∀ s, (x.run s).2.log.infos = s.log.infos

theorem silent_pure (a : α) : Silent (pure a) := fun _ => rfl

theorem Silent.bind {x : Work α} {f : α → Work β} (first : Silent x) (second : ∀ a, Silent (f a)) :
    Silent (x >>= f) := by
  intro s
  rw [run_bind, second, first]

theorem silent_append {entries : Log} (none : entries.infos = []) :
    Silent (modify fun s => { s with log := s.log ++ entries }) := by
  intro s
  change (s.log ++ entries).infos = s.log.infos
  rw [Log.infos_append, none, List.append_nil]

theorem silent_write {level : LogLevel} (other : level ≠ .info) (source : LogSource) (message : String) :
    Silent (write level source message) :=
  silent_append (by simp [Log.infos, other])

theorem silent_forM {f : α → Work Unit} (each : ∀ a, Silent (f a)) (xs : List α) : Silent (xs.forM f) := by
  induction xs with
  | nil => exact silent_pure ()
  | cons x rest ih => exact (each x).bind fun _ => ih

theorem silent_run (command : List String) (source : Option String) : Silent (run command source) := by
  rintro ⟨checks, runs, parses, commands, log⟩
  cases runs with
  | nil => rfl
  | cons outcome rest =>
    cases outcome with
    | unable message => rfl
    | uncaught u => rfl
    | exited code output errors => rfl

theorem silent_parse (t : Toolchain) (path : String) (arguments : List String) : Silent (parse t path arguments) :=
  fun _ => rfl

theorem silent_check (path text : String) (arguments : List String) : Silent (check path text arguments) :=
  fun _ => rfl

theorem silent_discover (t : Toolchain) : Silent (SearchPath.discover t) := by
  have asked : Silent (SearchPath.query t) := by
    unfold SearchPath.query
    split
    · exact (silent_run _ _).bind fun _ => silent_pure _
    · exact (silent_run _ _).bind fun _ => silent_pure _
  refine asked.bind fun answer => ?_
  split
  · exact silent_pure _
  · exact (silent_write (by simp) _ _).bind fun _ => silent_pure _
  · exact (silent_write (by simp) _ _).bind fun _ => silent_pure _

end Session

open Session (Silent silent_pure silent_append silent_write silent_forM silent_run silent_parse silent_check
  silent_discover run_bind)

namespace Probe

variable {e : Evaluator} {r : Request}

/-- The message about names that have no value; none if all have one. -/
def noValue (names : List String) : Log :=
  if names.isEmpty then [] else [⟨.info, .probe, "No probe value for " ++ Text.join ", " names⟩]

theorem noValue_eq_nil_iff (names : List String) : noValue names = [] ↔ names = [] := by
  unfold noValue
  split
  · rename_i empty
    simpa using empty
  · rename_i some
    simpa using some

/-- The output can be read, and no segment of it gives a value for the name. -/
def Unread (e : Evaluator) (output name : String) : Prop :=
  ∀ segment ∈ segments output, (∃ read, readSegment e segment = .ok read) ∧
    ∀ reading, readSegment e segment = .ok (.ok reading) → reading.name ≠ name

/-- The probe asks for the value of the name, runs, and prints something that has none. -/
def Unanswered (e : Evaluator) (checks : List (Option HeaderUnit)) (runs : List RunOutcome)
    (headers names : List String) (name : String) : Prop :=
  name ∈ (pruned checks pruneLimit ⟨headers, names⟩).names ∧
    ∃ output, outputOf runs = .ok (some output) ∧ Unread e output name

@[simp] theorem infos_warn (log : Log) (message : String) : Log.infos (log ++ [warn message]) = log.infos := by
  simp [Log.infos, warn]

theorem addSegments_infos (e : Evaluator) (names : List String) (f : Findings) (ss : List String) :
    (addSegments e names f ss).1.log.infos = f.log.infos := by
  fun_induction addSegments e names f ss with
  | case1 => rfl
  | case2 f segment rest _ ih => exact ih
  | case3 => rfl
  | case4 f segment rest _ fault _ ih => exact ih.trans (infos_warn _ _)
  | case5 f segment rest _ reading _ _ ih => exact ih.trans (infos_warn _ _)
  | case6 f segment rest _ reading _ _ ih => exact ih

/- Every requested name that a segment reads as is found: there or before. -/
theorem addSegments_has (e : Evaluator) (names : List String) (f : Findings) (ss : List String) (name : String)
    (ended : (addSegments e names f ss).2 = none) (requested : name ∈ names) :
    (addSegments e names f ss).1.has name = true ↔
      f.has name = true ∨
        ∃ segment ∈ ss, ∃ reading, readSegment e segment = .ok (.ok reading) ∧ reading.name = name := by
  fun_induction addSegments e names f ss with
  | case1 => simp
  | case2 f segment rest blank ih =>
    rw [ih ended]
    simp [readSegment_of_blank blank]
  | case3 => cases ended
  | case4 f segment rest _ fault read ih =>
    rw [ih ended]
    simp [read, Findings.has]
  | case5 f segment rest _ reading read dropped ih =>
    have before : reading.name = name → f.has name = true := by
      rintro rfl
      simpa [requested] using dropped
    rw [ih ended]
    constructor
    · rintro (old | ⟨other, later, rest⟩)
      · exact .inl old
      · exact .inr ⟨other, List.mem_cons_of_mem _ later, rest⟩
    · rintro (old | ⟨other, inside, reading', read', named⟩)
      · exact .inl old
      · rcases List.mem_cons.mp inside with rfl | later
        · cases read.symm.trans read'
          exact .inl (before named)
        · exact .inr ⟨other, later, reading', read', named⟩
  | case6 f segment rest _ reading read _ ih =>
    rw [ih ended]
    simp [read, Findings.has, Reading.constant, or_assoc]

theorem readOutput_infos (e : Evaluator) (output : String) (names : List String) :
    ∃ missing, (∀ name, name ∈ missing ↔ name ∈ names ∧ Unread e output name) ∧
      (readOutput e output names).2.infos = noValue missing := by
  have faulty := addSegments_fault e names {} (segments output)
  have quiet := addSegments_infos e names {} (segments output)
  have found := addSegments_has e names {} (segments output)
  unfold readOutput
  generalize addSegments e names {} (segments output) = added at faulty quiet found ⊢
  obtain ⟨f, fault?⟩ := added
  cases fault? with
  | some fault =>
    obtain ⟨segment, inside, bad⟩ := List.exists_of_findSome?_eq_some faulty.symm
    refine ⟨[], fun name => ?_, quiet⟩
    refine iff_of_false List.not_mem_nil fun both => ?_
    obtain ⟨read, good⟩ := (both.2 segment inside).1
    cases good.symm.trans (fault?_eq_some_iff.mp bad)
  | none =>
    have readable : ∀ segment ∈ segments output, ∃ read, readSegment e segment = .ok read := by
      intro segment inside
      exact fault?_eq_none_iff.mp (List.findSome?_eq_none_iff.mp faulty.symm segment inside)
    refine ⟨names.filter (!f.has ·), fun name => ?_, ?_⟩
    · rw [List.mem_filter]
      refine and_congr_right fun requested => ?_
      rw [Bool.not_eq_true', ← Bool.not_eq_true, found name rfl requested]
      simp only [Findings.has, List.any_nil, Bool.false_eq_true, false_or]
      constructor
      · intro unread segment inside
        exact ⟨readable segment inside, fun reading read named => unread ⟨segment, inside, reading, read, named⟩⟩
      · rintro unread ⟨segment, inside, reading, read, named⟩
        exact (unread segment inside).2 reading read named
    · dsimp only
      rw [noValue]
      split
      · exact quiet
      · rw [Log.infos_append, quiet]
        rfl

theorem silent_note (quiet : r.quiet = true) (message : String) : Silent (note r message) := by
  unfold note
  rw [if_pos quiet]
  exact silent_pure ()

theorem silent_pruneFor (quiet : r.quiet = true) (arguments : List String) (passes : Nat) (p : Program) :
    Silent (pruneFor r arguments passes p) := by
  induction passes generalizing p with
  | zero => exact silent_pure p
  | succ passes ih =>
    unfold pruneFor
    split
    · exact silent_pure p
    · refine (silent_check sourceName p.source arguments).bind fun checked => ?_
      cases checked with
      | none => exact (silent_write (by simp) _ _).bind fun _ => silent_pure p
      | some u =>
        dsimp only
        split
        · exact silent_pure p
        · exact (silent_note quiet _).bind fun _ => ih _

theorem silent_prune (quiet : r.quiet = true) (searchPath : List String) (p : Program) :
    Silent (prune r searchPath p) :=
  silent_pruneFor quiet _ pruneLimit p

theorem silent_execute (t : Toolchain) (r : Request) (p : Program) : Silent (execute t r p) := by
  unfold execute
  refine (silent_write (by simp) _ _).bind fun _ => (silent_run _ _).bind fun built => ?_
  cases built with
  | error f => exact silent_pure _
  | ok _ =>
    refine (silent_run _ _).bind fun ran => ?_
    cases ran with
    | error f => exact silent_pure _
    | ok printed => exact silent_pure _

/- The output is read without asking whether the request is quiet. -/
theorem resolve_infos (quiet : r.quiet = true) (t : Toolchain) (headers searchPath names : List String) (s : Session)
    (distinct : names.Nodup) :
    ∃ missing, (∀ name, name ∈ missing ↔ Unanswered t.evaluator s.checks s.runs headers names name) ∧
      ((resolve t r headers searchPath names).run s).2.log.infos = s.log.infos ++ noValue missing := by
  unfold resolve
  dsimp only
  rw [foldl_addNew_eq distinct]
  by_cases empty : names.isEmpty = true
  · rw [if_pos empty]
    refine ⟨[], fun name => ?_, (List.append_nil _).symm⟩
    rw [List.isEmpty_iff] at empty
    simp [Unanswered, pruned_of_nil, empty]
  · rw [if_neg empty, run_bind]
    obtain ⟨left, runs⟩ := prune_run r searchPath ⟨headers, names⟩ s
    have hushed := silent_prune quiet searchPath ⟨headers, names⟩ s
    rw [left, ← hushed]
    unfold Unanswered
    generalize ((prune r searchPath ⟨headers, names⟩).run s).2 = s₁ at runs ⊢
    generalize pruned s.checks pruneLimit ⟨headers, names⟩ = p
    by_cases bare : p.names.isEmpty = true
    · rw [if_pos bare]
      refine ⟨[], fun name => ?_, (List.append_nil _).symm⟩
      rw [List.isEmpty_iff] at bare
      simp [bare]
    · rw [if_neg bare, run_bind]
      have printed := execute_run t r p s₁
      have hushed' := silent_execute t r p s₁
      rw [runs] at printed
      rw [← printed, ← hushed']
      rcases (execute t r p).run s₁ with ⟨u | failure | output, s₂⟩
      · refine ⟨[], fun name => ?_, (List.append_nil _).symm⟩
        simp [Except.map]
      · have failed : Silent (do Session.write .error .probe failure.message; return .ok [] :
            Work (Except Fault (List Constant))) :=
          (silent_write (by simp) _ _).bind fun _ => silent_pure _
        refine ⟨[], fun name => by simp [Except.map, Except.toOption], ?_⟩
        exact (failed s₂).trans (List.append_nil _).symm
      · obtain ⟨missing, which, infos⟩ := readOutput_infos t.evaluator output p.names
        refine ⟨missing, fun name => ?_, ?_⟩
        · simp [which, Except.map, Except.toOption]
        · change (s₂.log ++ (readOutput t.evaluator output p.names).2).infos = _
          rw [Log.infos_append, infos]

end Probe

namespace Collector

variable {c : Collection}

theorem addAll_log (s : Collector) (ds : List Declaration) : (s.addAll ds).log = s.log := by
  have one (s : Collector) (d : Declaration) : (s.add d).log = s.log := by
    unfold add
    split
    · split
      · rfl
      · rfl
    · rfl
  induction ds generalizing s with
  | nil => rfl
  | cons d rest ih => exact (ih (s.add d)).trans (one s d)

theorem take_log (quiet : c.quiet = true) (s : Collector) (name : String) (g : Gain) :
    (s.take c name g).log = s.log := by
  cases g with
  | nothing => rfl
  | refused reason =>
    rw [take, note, if_pos quiet]
  | computed => rfl
  | declared ds => exact addAll_log s ds

theorem Visit.after_log (quiet : c.quiet = true) (v : Visit) : (v.after c).log = v.before.log := by
  obtain ⟨n, same⟩ := nameFor_same v.before v.unit v.cursor v.following
  unfold Visit.after
  dsimp only
  rw [same]
  split
  · exact take_log quiet _ _ _
  · rfl

theorem walk_log (quiet : c.quiet = true) (s : Collector) (u : HeaderUnit) : (walk c s u).log = [] := by
  rw [walk_eq_leftBy]
  exact leftBy_invariant (P := fun w => w.log = []) (fun v start => (v.after_log quiet).trans start) u _ _ rfl

end Collector

namespace Extraction

open Collector (Visit allVisits walkAll)
open Probe (noValue noValue_eq_nil_iff)

variable {r : Request} {c : Collection}

theorem silent_collectUnit (quiet : c.quiet = true) (u : HeaderUnit) (w : Collector) :
    Silent (collectUnit c u w) := by
  have nothing : (Collector.walk c w u).log.infos = [] := by
    rw [Collector.walk_log quiet]
    rfl
  exact (silent_append nothing).bind fun _ => silent_pure _

theorem silent_harvest (quiet : c.quiet = true) (t : Toolchain) (arguments paths : List String) (h : Harvest) :
    Silent (harvest t c arguments h paths) := by
  induction paths generalizing h with
  | nil => exact silent_pure _
  | cons path rest ih =>
    refine (silent_parse t path arguments).bind fun unit => ?_
    cases unit with
    | none => exact (silent_write (by simp) _ _).bind fun _ => ih h
    | some u =>
      refine (silent_forM (fun d => silent_write (by simp) _ _) u.errors).bind fun _ => ?_
      refine (silent_collectUnit quiet u h.collector).bind fun collected => ?_
      cases collected with
      | error f => exact silent_pure _
      | ok collector => exact ih _

/-- The headers are looked for and collected without a fault, and the probe for what is left to compute does not answer
for the name. -/
def Unanswered (t : Toolchain) (r : Request) (s : Session) (name : String) : Prop :=
  ∃ c, r.collection = .ok c ∧ (∃ paths, ((SearchPath.discover t).run s).1 = .ok paths) ∧
    (allVisits c {} (unitsOf t (located t r s))).findSome? (Visit.fault? c) = none ∧
    Probe.Unanswered t.evaluator s.checks (s.runs.drop 1) (parsed t (located t r s))
      (walkAll c {} (unitsOf t (located t r s))).computed name

theorem quiet_of_collection (compiled : r.collection = .ok c) : c.quiet = r.quiet := by
  unfold Request.collection at compiled
  obtain ⟨filter, -, given⟩ := Outcome.bind_eq_ok_iff.mp compiled
  cases given
  rfl

theorem unanswered_iff (compiled : r.collection = .ok c) (t : Toolchain) (s : Session) (name : String) :
    Unanswered t r s name ↔ (∃ paths, ((SearchPath.discover t).run s).1 = .ok paths) ∧
      (allVisits c {} (unitsOf t (located t r s))).findSome? (Visit.fault? c) = none ∧
        Probe.Unanswered t.evaluator s.checks (s.runs.drop 1) (parsed t (located t r s))
          (walkAll c {} (unitsOf t (located t r s))).computed name := by
  constructor
  · rintro ⟨c', given, rest⟩
    cases compiled.symm.trans given
    exact rest
  · exact fun rest => ⟨c, compiled, rest⟩

theorem run_infos (quiet : r.quiet = true) (t : Toolchain) (s : Session) :
    ∃ missing, (∀ name, name ∈ missing ↔ Unanswered t r s name) ∧
      ((run t r).run s).2.log.infos = s.log.infos ++ noValue missing := by
  cases compiled : r.collection with
  | error f =>
    refine ⟨[], fun name => iff_of_false List.not_mem_nil ?_, ?_⟩
    · rintro ⟨c, given, -⟩
      cases compiled.symm.trans given
    · rw [run_of_filterFault compiled]
      exact (List.append_nil _).symm
  | ok c =>
    have hushed : c.quiet = true := (quiet_of_collection compiled).trans quiet
    have before : (harvested t r c s).log.infos = s.log.infos :=
      (silent_harvest hushed t _ _ {} _).trans (silent_discover t s)
    obtain ⟨runs, checks⟩ := harvested_answers t r c s
    simp only [unanswered_iff compiled]
    rw [run_eq_gather compiled, gather_eq_resolve]
    cases asked : ((SearchPath.discover t).run s).1 with
    | error u =>
      refine ⟨[], fun name => iff_of_false List.not_mem_nil ?_, ?_⟩
      · rintro ⟨⟨paths, found⟩, -⟩
        cases found
      · exact (silent_discover t s).trans (List.append_nil _).symm
    | ok paths =>
      rw [← before]
      cases (allVisits c {} (unitsOf t (located t r s))).findSome? (Visit.fault? c) with
      | some f =>
        refine ⟨[], fun name => iff_of_false List.not_mem_nil ?_, (List.append_nil _).symm⟩
        rintro ⟨-, clean, -⟩
        cases clean
      | none =>
        have resolved := Probe.resolve_infos quiet t (parsed t (located t r s)) (searched t s)
          (walkAll c {} (unitsOf t (located t r s))).computed (harvested t r c s) (computed_nodup c _)
        rw [runs, checks] at resolved
        simpa using resolved

end Extraction

section Loading

open Extraction (Unanswered)
open Probe (noValue noValue_eq_nil_iff)

variable {r : Request}

theorem loadInto_log (quiet : r.quiet = true) (t : Toolchain) (registry : Registry) (s : Session) :
    ((loadInto t r registry).run s).2.log.infos = ((Extraction.run t r).run s).2.log.infos := by
  rw [loadInto, run_bind]
  rcases (Extraction.run t r).run s with ⟨result, s'⟩
  cases result with
  | error f => rfl
  | ok ds =>
    have hushed := (Register.hushes_register ds { registry with quiet := r.quiet, log := [] }).1 quiet
    change (s'.log ++ ((Register.register ds).run { registry with quiet := r.quiet, log := [] }).2.log).infos = _
    rw [Log.infos_append, hushed.2]
    exact List.append_nil _

/-- A quiet request, from whatever registry it starts and whatever the outside answers, adds an informational message
exactly if the probe runs and leaves a macro without a value; then it adds one, about all macros of which that is
so. -/
theorem loadInto_infos_iff (quiet : r.quiet = true) (t : Toolchain) (registry : Registry) (s : Session) :
    (((loadInto t r registry).run s).2.log.infos = s.log.infos ↔ ∀ name, ¬ Unanswered t r s name) ∧
      ∃ names, (∀ name, name ∈ names ↔ Unanswered t r s name) ∧
        ((loadInto t r registry).run s).2.log.infos = s.log.infos ++ noValue names := by
  obtain ⟨names, which, infos⟩ := Extraction.run_infos quiet t s
  rw [loadInto_log quiet]
  refine ⟨?_, names, which, infos⟩
  rw [infos, List.append_right_eq_self, noValue_eq_nil_iff, List.eq_nil_iff_forall_not_mem]
  exact forall_congr' fun name => not_congr (which name)

/-- A macro that the compiler has to compute. -/
def maskHeader : HeaderUnit :=
  { cursors := [{ kind := .macroDefinition, name := "MASK", location := some ⟨"/w/m.h", 1, some 9⟩,
                  tokens := [⟨"MASK", 8, 12⟩, ⟨"1", 13, 14⟩, ⟨"<<", 15, 17⟩, ⟨"4", 18, 19⟩] }],
    top := [0] }

def maskToolchain : Toolchain := { files := ["/w/m.h"], units := [("/w/m.h", maskHeader)] }

def maskRequest : Request := { headers := ["/w/m.h"], quiet := true }

/-- The probe prints this. -/
def maskSession (output : String) : Session := { runs := [.exited 0 "" "", .exited 0 "" "", .exited 0 output ""] }

theorem maskRequest_answered :
    maskRequest.quiet = true ∧
      ((loadInto maskToolchain maskRequest {}).run
        (maskSession "\n@@cinclude@@const MASK = 16\n")).2.log.infos = [] ∧
      ∀ name, ¬ Unanswered maskToolchain maskRequest (maskSession "\n@@cinclude@@const MASK = 16\n") name := by
  have silent : ((loadInto maskToolchain maskRequest {}).run
      (maskSession "\n@@cinclude@@const MASK = 16\n")).2.log.infos = [] := by
    decide +kernel
  exact ⟨rfl, silent, (loadInto_infos_iff rfl maskToolchain {} _).1.mp silent⟩

/- The value is not printed. -/
theorem maskRequest_unanswered :
    maskRequest.quiet = true ∧
      ((loadInto maskToolchain maskRequest {}).run (maskSession "")).2.log.infos =
        [⟨.info, .probe, "No probe value for MASK"⟩] := by
  refine ⟨rfl, ?_⟩
  decide +kernel

end Loading

end CBindings
