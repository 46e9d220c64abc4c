import CBindings.Proofs.Collector.Faults
import CBindings.Proofs.Extraction.Harvest
import CBindings.Proofs.Probe.Escape

/-! How a request can end: with declarations, with the refusal of a pattern, or with one of five faults that
nothing on the way catches. -/
namespace CBindings

/-- The patterns of a request in the order in which they are compiled; an empty `drop` is none. -/
def Request.patterns (r : Request) : List (FilterOption × String) :=
  r.keep.toList.map (.keep, ·) ++ (r.drop.filter (· != "")).toList.map (.drop, ·)

def patternFault? (pattern : FilterOption × String) : Option FilterFault :=
  match Pattern.compile pattern.2 with
  | .ok _ => none
  | .error fault => some ⟨pattern.1, pattern.2, fault⟩

theorem compileOne_error_iff (option : FilterOption) (text : Option String) (f : FilterFault) :
    FilterTexts.compileOne option text = .error f ↔
      (text.toList.map (option, ·)).findSome? patternFault? = some f := by
  cases text with
  | none => simp [FilterTexts.compileOne]
  | some text =>
    cases compiled : Pattern.compile text with
    | ok p => simp [FilterTexts.compileOne, patternFault?, compiled]
    | error fault => simp [FilterTexts.compileOne, patternFault?, compiled]

theorem Request.collection_error_iff (r : Request) (f : FilterFault) :
    r.collection = .error f ↔ r.patterns.findSome? patternFault? = some f := by
  have first := compileOne_error_iff .keep r.keep
  have second := compileOne_error_iff .drop (r.drop.filter (· != ""))
  rw [collection, Outcome.bind_eq_error_iff]
  · have opened : r.filter = FilterTexts.compile { keep := r.keep, drop := r.drop.filter (· != "") } := rfl
    rw [opened, FilterTexts.compile, patterns, List.findSome?_append]
    cases keep : FilterTexts.compileOne .keep r.keep with
    | error f' =>
      rw [(first f').mp keep]
      simp [bind, Except.bind]
    | ok p =>
      have passed : (r.keep.toList.map (FilterOption.keep, ·)).findSome? patternFault? = none := by
        rw [Option.eq_none_iff_forall_ne_some]
        intro f' fault
        simp [(first f').mpr fault] at keep
      rw [passed, Option.none_or, ← second]
      exact Outcome.bind_eq_error_iff fun _ => ⟨_, rfl⟩
  · intro filter
    exact ⟨_, rfl⟩

theorem Request.refused_iff (r : Request) :
    (∃ f, r.collection = .error f) ↔ ∃ q ∈ r.patterns, ∃ fault, Pattern.compile q.2 = .error fault := by
  have invalid (q : FilterOption × String) :
      (patternFault? q).isSome = true ↔ ∃ fault, Pattern.compile q.2 = .error fault := by
    unfold patternFault?
    cases Pattern.compile q.2 with
    | ok p => simp
    | error fault => simp
  calc (∃ f, r.collection = .error f)
      ↔ ∃ f, r.patterns.findSome? patternFault? = some f := exists_congr r.collection_error_iff
    _ ↔ (r.patterns.findSome? patternFault?).isSome = true := Option.isSome_iff_exists.symm
    _ ↔ ∃ q ∈ r.patterns, (patternFault? q).isSome = true := List.findSome?_isSome_iff
    _ ↔ ∃ q ∈ r.patterns, ∃ fault, Pattern.compile q.2 = .error fault := by simp only [invalid]

/-- What follows an opening quote goes to the next quote without a backslash before it, and no further. -/
def closesOnce (quote : Char) : List Char → Bool
  | [] => false
  | ['\\'] => false
  | '\\' :: _ :: rest => closesOnce quote rest
  | c :: rest => if c = quote then rest.isEmpty else closesOnce quote rest

/-- A token with quotes around it is one literal. -/
def SourceToken.isWhole (token : SourceToken) : Bool :=
  ['\'', '"'].all fun quote =>
    (Literal.dropEncoding quote token.text.toList).all fun s => closesOnce quote (s.drop 1)

namespace Extraction

open Collector (Visit allVisits walkAll)
open Outcome (nestingLimit)

/-- Headers and patterns of the usual kind: types and groups are not nested so deep that working through them runs out
of stack, and a quoted token is one literal, not an expression with literals at its ends. -/
structure Ordinary (t : Toolchain) (r : Request) : Prop where
  shallow : ∀ path u, t.units.lookup path = some u → u.Shallow nestingLimit
  whole : ∀ path u, t.units.lookup path = some u → ∀ cursor ∈ u.cursors, ∀ token ∈ cursor.tokens, token.isWhole = true
  plain : ∀ q ∈ r.patterns, q.2.toList.count '(' ≤ nestingLimit

/-- A request ends with declarations or with the refusal of a pattern; it is refused exactly when a pattern cannot
be compiled, before anything is run or parsed. -/
structure Contained (t : Toolchain) (r : Request) (s : Session) : Prop where
  ends : (∃ ds, ((run t r).run s).1 = .ok ds) ∨
    ∃ f, ((run t r).run s).1 = .error (.filter f) ∧ f.isGrammatical = true
  refused : (∃ f, ((run t r).run s).1 = .error (.filter f) ∧ f.isGrammatical = true) ↔
    ∃ q ∈ r.patterns, ∃ fault, Pattern.compile q.2 = .error fault
  untouched : ∀ f, ((run t r).run s).1 = .error (.filter f) → ((run t r).run s).2 = s

/-- The headers are found and collected, and something is left for the probe. -/
structure Probes (t : Toolchain) (r : Request) (s : Session) (c : Collection) : Prop where
  compiled : r.collection = .ok c
  asked : ∀ u, s.runs.head? ≠ some (.uncaught u)
  collected : ∀ v ∈ allVisits c {} (unitsOf t (located t r s)), ¬ v.Oversized c
  left : (Probe.pruned s.checks Probe.pruneLimit
    ⟨parsed t (located t r s), (walkAll c {} (unitsOf t (located t r s))).computed⟩).names ≠ []

/-- Faults that pass through: a pattern beyond the bounds of matching, an oversized macro, a question for the search
path or a run of the probe that ends in a way that is not expected, and a segment of the probe's output that reading
ends at. -/
inductive Escapes (t : Toolchain) (r : Request) (s : Session) : Prop where
  | pattern (f : FilterFault) (first : r.patterns.findSome? patternFault? = some f)
      (beyond : f.isGrammatical = false)
  | search (c : Collection) (compiled : r.collection = .ok c) (u : Uncaught) (ended : s.runs.head? = some (.uncaught u))
  | literal (c : Collection) (compiled : r.collection = .ok c) (asked : ∀ u, s.runs.head? ≠ some (.uncaught u))
      (v : Visit) (visited : v ∈ allVisits c {} (unitsOf t (located t r s))) (oversized : v.Oversized c)
  | run (c : Collection) (probes : Probes t r s c) (u : Uncaught) (ended : Probe.outputOf (s.runs.drop 1) = .error u)
  | segment (c : Collection) (probes : Probes t r s c) (output segment : String)
      (printed : Probe.outputOf (s.runs.drop 1) = .ok (some output)) (part : segment ∈ Probe.segments output)
      (f : Probe.Fault) (ends : Probe.Ends t.evaluator segment f)

theorem run_ne_filterFault {r : Request} {c : Collection} (compiled : r.collection = .ok c) (t : Toolchain)
    (s : Session) (f : FilterFault) : ((run t r).run s).1 ≠ .error (.filter f) := by
  rw [run_of_collection compiled]
  split
  · simp
  · split
    · simp
    · dsimp only
      split <;> simp

theorem run_ok_iff {r : Request} {c : Collection} (compiled : r.collection = .ok c) (t : Toolchain)
    (s : Session) :
    (∃ ds, ((run t r).run s).1 = .ok ds) ↔
      (¬ ∃ u, s.runs.head? = some (.uncaught u)) ∧
      (¬ ∃ f, (allVisits c {} (unitsOf t (located t r s))).findSome? (Visit.fault? c) = some f) ∧
      ¬ ∃ f, Probe.answer t.evaluator s.checks (s.runs.drop 1) (parsed t (located t r s))
        (walkAll c {} (unitsOf t (located t r s))).computed = .error f := by
  simp only [run_eq_ok_iff compiled, ← Session.discover_eq_error_iff t]
  cases ((SearchPath.discover t).run s).1 with
  | error u => simp
  | ok paths =>
    cases (allVisits c {} (unitsOf t (located t r s))).findSome? (Visit.fault? c) with
    | some f => simp
    | none =>
      cases Probe.answer t.evaluator s.checks (s.runs.drop 1) (parsed t (located t r s))
          (walkAll c {} (unitsOf t (located t r s))).computed with
      | error f => simp
      | ok constants => simp

theorem contained_of_ok {t : Toolchain} {r : Request} {s : Session} {ds : List Declaration}
    (returned : ((run t r).run s).1 = .ok ds) : Contained t r s := by
  cases compiled : r.collection with
  | error f => simp [run_of_filterFault compiled t s] at returned
  | ok c =>
    have other := run_ne_filterFault compiled t s
    refine ⟨.inl ⟨ds, returned⟩, iff_of_false ?_ ?_, fun f refused => absurd refused (other f)⟩
    · rintro ⟨f, refused, _⟩
      exact other f refused
    · intro bad
      obtain ⟨f, refused⟩ := r.refused_iff.mpr bad
      simp [compiled] at refused

theorem escapes_iff {r : Request} {c : Collection} (compiled : r.collection = .ok c) (t : Toolchain)
    (s : Session) (acyclic : ∀ u ∈ unitsOf t (located t r s), u.Acyclic) :
    Escapes t r s ↔ ¬ ∃ ds, ((run t r).run s).1 = .ok ds := by
  rw [run_ok_iff compiled, Collector.fault_iff_oversized c _ acyclic, Probe.answer_error_iff]
  simp only [Probe.readSegment_eq_error_iff]
  constructor
  · rintro (⟨f, first, _⟩ | ⟨c', same, u, ended⟩ | ⟨c', same, _, v, visited, oversized⟩ | ⟨c', probes, u, ended⟩ |
      ⟨c', probes, output, segment, printed, part, f, ends⟩)
    · rw [← Request.collection_error_iff, compiled] at first
      cases first
    · exact fun good => good.1 ⟨u, ended⟩
    · cases compiled.symm.trans same
      exact fun good => good.2.1 ⟨v, visited, oversized⟩
    · cases compiled.symm.trans probes.compiled
      exact fun good => good.2.2 ⟨probes.left, .inl ⟨u, ended⟩⟩
    · cases compiled.symm.trans probes.compiled
      exact fun good => good.2.2 ⟨probes.left, .inr ⟨output, printed, segment, part, f, ends⟩⟩
  · intro bad
    by_cases uncaught : ∃ u, s.runs.head? = some (.uncaught u)
    · obtain ⟨u, ended⟩ := uncaught
      exact .search c compiled u ended
    have asked := not_exists.mp uncaught
    by_cases oversized : ∃ v ∈ allVisits c {} (unitsOf t (located t r s)), v.Oversized c
    · obtain ⟨v, visited, oversized⟩ := oversized
      exact .literal c compiled asked v visited oversized
    have collected : ∀ v ∈ allVisits c {} (unitsOf t (located t r s)), ¬ v.Oversized c :=
      fun v visited found => oversized ⟨v, visited, found⟩
    obtain ⟨left, broken⟩ := not_not.mp fun answered => bad ⟨uncaught, oversized, answered⟩
    have probes : Probes t r s c := ⟨compiled, asked, collected, left⟩
    rcases broken with ⟨u, ended⟩ | ⟨output, printed, segment, part, f, ends⟩
    · exact .run c probes u ended
    · exact .segment c probes output segment printed part f ends

/-- A record that points to itself, and a macro for the compiler. -/
def listHeader : HeaderUnit :=
  { cursors := [
      { kind := .record false, name := "list", location := some ⟨"l.h", 1, some 8⟩, isDefinition := true,
        definition := some 0, children := [1] },
      { kind := .field, name := "next", location := some ⟨"l.h", 1, some 28⟩, type := some 0 },
      { kind := .macroDefinition, name := "MARK", location := some ⟨"l.h", 2, some 9⟩,
        tokens := [⟨"MARK", 45, 49⟩, ⟨"'A'", 50, 53⟩, ⟨"+", 54, 55⟩, ⟨"1", 56, 57⟩] }],
    types := [{ kind := .pointer, spelling := "struct list *", pointee := some 1 },
      { kind := .record, spelling := "struct list", declaration := some 0 }],
    top := [0, 2] }

def listHeight : HeaderUnit.Node → Nat
  | .cursor (some 0) => 2
  | .type (some 0) => 1
  | _ => 0

def listToolchain : Toolchain := { units := [("l.h", listHeader)] }

def listRequest : Request := { headers := ["l.h"], keep := some "^[a-z]+$", drop := some "" }

def listSession : Session :=
  { runs := [.exited 0 "" "", .exited 0 "" "", .exited 0 "\n@@cinclude@@const MARK = chr(66)\n" ""] }

/-- A macro whose value is a number that is far too large. -/
def hugeHeader : HeaderUnit :=
  { cursors := [{ kind := .macroDefinition, name := "X", location := some ⟨"a.h", 1, some 1⟩,
                  tokens := [⟨"X", 0, 1⟩, ⟨"0x1p99999", 2, 11⟩] }],
    top := [0] }

def hugeToolchain : Toolchain := { files := ["a.h"], units := [("a.h", hugeHeader)] }

end Extraction

end CBindings
