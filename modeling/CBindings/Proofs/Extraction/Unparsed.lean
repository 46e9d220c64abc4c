import CBindings.Proofs.Extraction.Harvest

/-! Headers that cannot be parsed. A request does what it would do without them: it asks the same, runs the same
programs and returns the same. All they leave behind is the attempt to parse them and the message about it. -/
namespace CBindings

/-- A parse that gives a unit; the text of a probe is never missing. -/
def ParseCall.isAnswered (t : Toolchain) (call : ParseCall) : Bool :=
  call.unsaved.isSome || (t.units.lookup call.path).isSome

def LogEntry.isUnparsed (e : LogEntry) : Bool := e.level == .error && e.source == .extraction

namespace Session

/-- The sessions differ at most in headers that cannot be parsed. -/
structure Alike (t : Toolchain) (s s' : Session) : Prop where
  checks : s.checks = s'.checks
  runs : s.runs = s'.runs
  commands : s.commands = s'.commands
  parses : s.parses.filter (·.isAnswered t) = s'.parses.filter (·.isAnswered t)
  log : s.log.filter (!·.isUnparsed) = s'.log.filter (!·.isUnparsed)

/-- From alike sessions both computations give the same result, and they leave alike sessions behind. -/
def Matches {α : Type} (t : Toolchain) (x y : Work α) : Prop :=
  ∀ s s', Alike t s s' → (x.run s).1 = (y.run s').1 ∧ Alike t (x.run s).2 (y.run s').2

variable {t : Toolchain} {α β : Type}

theorem Alike.refl (t : Toolchain) (s : Session) : Alike t s s := ⟨rfl, rfl, rfl, rfl, rfl⟩

theorem matches_pure (a : α) : Matches t (pure a) (pure a) := by
  intro s s' alike
  exact ⟨rfl, alike⟩

theorem Matches.bind {x y : Work α} {f g : α → Work β} (first : Matches t x y)
    (second : ∀ a, Matches t (f a) (g a)) : Matches t (x >>= f) (y >>= g) := by
  intro s s' alike
  obtain ⟨same, next⟩ := first s s' alike
  rw [run_bind, run_bind, same]
  exact second _ _ _ next

theorem Matches.after {x : Work α} {f g : α → Work β} (s : Session)
    (rest : Matches t (f (x.run s).1) (g (x.run s).1)) :
    ((x >>= f).run s).1 = ((x >>= g).run s).1 ∧ Alike t ((x >>= f).run s).2 ((x >>= g).run s).2 :=
  rest _ _ (Alike.refl t (x.run s).2)

theorem matches_append (entries : Log) :
    Matches t (modify fun s => { s with log := s.log ++ entries })
      (modify fun s => { s with log := s.log ++ entries }) := by
  intro s s' alike
  refine ⟨rfl, alike.checks, alike.runs, alike.commands, alike.parses, ?_⟩
  change (s.log ++ entries).filter _ = (s'.log ++ entries).filter _
  rw [List.filter_append, List.filter_append, alike.log]

theorem matches_write (level : LogLevel) (source : LogSource) (message : String) :
    Matches t (write level source message) (write level source message) :=
  matches_append [⟨level, source, message⟩]

theorem matches_forM {f : α → Work Unit} (each : ∀ a, Matches t (f a) (f a)) (xs : List α) :
    Matches t (xs.forM f) (xs.forM f) := by
  induction xs with
  | nil => exact matches_pure ()
  | cons x rest ih => exact (each x).bind fun _ => ih

theorem matches_run (command : List String) (source : Option String) :
    Matches t (run command source) (run command source) := by
  rintro ⟨checks, runs, parses, commands, log⟩ ⟨checks', runs', parses', commands', log'⟩ alike
  obtain ⟨rfl, rfl, rfl, parses, log⟩ := alike
  cases runs with
  | nil => exact ⟨rfl, rfl, rfl, rfl, parses, log⟩
  | cons outcome rest =>
    cases outcome with
    | unable message => exact ⟨rfl, rfl, rfl, rfl, parses, log⟩
    | uncaught u => exact ⟨rfl, rfl, rfl, rfl, parses, log⟩
    | exited code output errors => exact ⟨rfl, rfl, rfl, rfl, parses, log⟩

theorem matches_parse (path : String) (arguments : List String) {f g : Option HeaderUnit → Work β}
    (rest : Matches t (f (t.units.lookup path)) (g (t.units.lookup path))) :
    Matches t (parse t path arguments >>= f) (parse t path arguments >>= g) := by
  intro s s' alike
  apply rest
  refine ⟨alike.checks, alike.runs, alike.commands, ?_, alike.log⟩
  change List.filter _ (s.parses ++ _) = List.filter _ (s'.parses ++ _)
  rw [List.filter_append, List.filter_append, alike.parses]

theorem matches_check (path text : String) (arguments : List String) :
    Matches t (check path text arguments) (check path text arguments) := by
  rintro ⟨checks, runs, parses, commands, log⟩ ⟨checks', runs', parses', commands', log'⟩ alike
  obtain ⟨rfl, rfl, rfl, parses, log⟩ := alike
  refine ⟨rfl, rfl, rfl, rfl, ?_, log⟩
  change List.filter _ (_ ++ _) = List.filter _ (_ ++ _)
  rw [List.filter_append, List.filter_append, parses]

/- Only here do the two sides differ: one of them tries to parse a header, fails, and says so. -/

theorem matches_failedParse {x : Work β} {f : Option HeaderUnit → Work β} {path : String}
    (missing : t.units.lookup path = none) (arguments : List String) (rest : Matches t x (f none)) :
    Matches t x (parse t path arguments >>= f) := by
  intro s s' alike
  have answer : ((parse t path arguments).run s').1 = none := missing
  rw [run_bind, answer]
  apply rest
  refine ⟨alike.checks, alike.runs, alike.commands, ?_, alike.log⟩
  change _ = List.filter _ (s'.parses ++ [_])
  rw [List.filter_append, alike.parses]
  simp [ParseCall.isAnswered, missing]

theorem matches_unparsedMessage {x y : Work β} (message : String) (rest : Matches t x y) :
    Matches t x (do write .error .extraction message; y) := by
  intro s s' alike
  apply rest
  refine ⟨alike.checks, alike.runs, alike.commands, alike.parses, ?_⟩
  change _ = List.filter _ (s'.log ++ [_])
  rw [List.filter_append, alike.log]
  simp [LogEntry.isUnparsed]

end Session

namespace Probe

open Session (Matches matches_pure matches_write matches_check matches_run matches_append)

variable {t : Toolchain}

theorem matches_note (r : Request) (message : String) : Matches t (note r message) (note r message) := by
  unfold note
  split
  · exact matches_pure _
  · exact matches_write _ _ _

theorem matches_pruneFor (r : Request) (arguments : List String) (passes : Nat) (p : Program) :
    Matches t (pruneFor r arguments passes p) (pruneFor r arguments passes p) := by
  induction passes generalizing p with
  | zero => exact matches_pure p
  | succ passes ih =>
    unfold pruneFor
    by_cases empty : p.names.isEmpty = true
    · rw [if_pos empty]
      exact matches_pure p
    · rw [if_neg empty]
      apply (matches_check sourceName p.source arguments).bind
      intro checked
      cases checked with
      | none => exact (matches_write _ _ _).bind fun _ => matches_pure p
      | some u =>
        dsimp only
        by_cases blameless : (blamed p u).isEmpty = true
        · rw [if_pos blameless]
          exact matches_pure p
        · rw [if_neg blameless]
          exact (matches_note r _).bind fun _ => ih _

theorem matches_execute (r : Request) (p : Program) : Matches t (execute t r p) (execute t r p) := by
  unfold execute
  refine (matches_write _ _ _).bind fun _ => (matches_run _ _).bind fun built => ?_
  cases built with
  | error f => exact matches_pure _
  | ok _ =>
    refine (matches_run _ _).bind fun ran => ?_
    cases ran with
    | error f => exact matches_pure _
    | ok printed => exact matches_pure _

theorem matches_resolve (r : Request) (headers searchPath names : List String) :
    Matches t (resolve t r headers searchPath names) (resolve t r headers searchPath names) := by
  unfold resolve
  dsimp only
  split
  · exact matches_pure _
  · refine (matches_pruneFor r _ pruneLimit _).bind fun p => ?_
    by_cases bare : p.names.isEmpty = true
    · rw [if_pos bare]
      exact matches_pure _
    · rw [if_neg bare]
      refine (matches_execute r p).bind fun executed => ?_
      rcases executed with u | failure | output
      · exact matches_pure _
      · exact (matches_write _ _ _).bind fun _ => matches_pure _
      · exact (matches_append _).bind fun _ => matches_pure _

end Probe

namespace Extraction

open Session (Alike Matches matches_pure matches_write matches_parse matches_forM matches_append
  matches_failedParse matches_unparsedMessage)

theorem matches_collectUnit {t : Toolchain} (c : Collection) (u : HeaderUnit) (w : Collector) :
    Matches t (collectUnit c u w) (collectUnit c u w) :=
  (matches_append _).bind fun _ => matches_pure _

theorem harvest_matches (t : Toolchain) (c : Collection) (arguments paths : List String) (h : Harvest) :
    Matches t (harvest t c arguments h (parsed t paths)) (harvest t c arguments h paths) := by
  induction paths generalizing h with
  | nil => exact matches_pure _
  | cons path rest ih =>
    cases found : t.units.lookup path with
    | none =>
      have kept : parsed t (path :: rest) = parsed t rest := by simp [parsed, found]
      rw [kept, harvest]
      exact matches_failedParse found arguments (matches_unparsedMessage _ (ih h))
    | some u =>
      have kept : parsed t (path :: rest) = path :: parsed t rest := by simp [parsed, found]
      rw [kept, harvest, harvest]
      apply matches_parse path arguments
      rw [found]
      refine (matches_forM (fun d => matches_write _ _ _) u.errors).bind fun _ => ?_
      refine (matches_collectUnit c u h.collector).bind fun collected => ?_
      cases collected with
      | error f => exact matches_pure _
      | ok collector => exact ih _

/-- The request for those headers that can be parsed where they are found. -/
def parseable (t : Toolchain) (s : Session) (r : Request) : Request :=
  { r with headers := r.headers.filter fun header =>
      (t.units.lookup (SearchPath.locate t (searched t s) header)).isSome }

theorem located_parseable (t : Toolchain) (r : Request) (s : Session) :
    located t (parseable t s r) s = parsed t (located t r s) := by
  rw [located, located, parsed, parseable, List.filter_map]
  rfl

theorem gather_matches (t : Toolchain) (r : Request) (c : Collection) (s : Session) :
    Matches t (gather t (parseable t s r) c (searched t s)) (gather t r c (searched t s)) := by
  have headers : (parseable t s r).headers.map (SearchPath.locate t (searched t s)) = _ := located_parseable t r s
  unfold gather
  dsimp only
  rw [headers]
  refine (harvest_matches t c _ _ {}).bind fun harvested => ?_
  cases harvested with
  | error f => exact matches_pure _
  | ok h =>
    -- the probe is handed the headers to include, and never reads them off the request
    have probe : Probe.resolve t (parseable t s r) = Probe.resolve t r := rfl
    rw [probe]
    dsimp only
    split
    · exact matches_pure _
    · refine (Probe.matches_resolve r _ _ _).bind fun probed => ?_
      cases probed with
      | error f => exact matches_pure _
      | ok constants => exact matches_pure _

/-- A request ends, with the same declarations or the same fault, as it would without the headers that cannot be
parsed; the programs that are run, the source text of the probe among them, and the answers that are taken are the
same. -/
theorem run_parseable (t : Toolchain) (r : Request) (s : Session) :
    ((run t (parseable t s r)).run s).1 = ((run t r).run s).1 ∧
      Alike t ((run t (parseable t s r)).run s).2 ((run t r).run s).2 := by
  have collection : (parseable t s r).collection = r.collection := rfl
  rw [run, run, collection]
  cases r.collection with
  | error f => exact ⟨rfl, Alike.refl t s⟩
  | ok c =>
    refine Matches.after s ?_
    cases found : ((SearchPath.discover t).run s).1 with
    | error u => exact matches_pure _
    | ok paths =>
      have path : searched t s = paths := by rw [searched, found, Except.toOption, Option.getD_some]
      exact path ▸ gather_matches t r c s

end Extraction

end CBindings
