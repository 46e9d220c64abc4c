import CBindings.Proofs.Probe.Resolve
import CBindings.Proofs.SearchPath

/-! Which entries the checks take out of a program. A line of the text that was checked is the entry of at most one
name, so an error leads back to the name it is about. Each pass takes out the names that its errors are about, and the
passes end at the first that finds none, that cannot be made, or that leaves nothing to check. -/
namespace CBindings.Text

/-- A line of a text that is cut at its newlines, counted from one. -/
def lineAt? (text : String) (line : Int) : Option String :=
  if 1 ≤ line then ((splitOn ['\n'] text.toList)[(line - 1).toNat]?).map String.ofList else none

theorem toList_foldl_append (parts : List String) (s : String) :
    (parts.foldl (· ++ ·) s).toList = s.toList ++ parts.flatMap String.toList := by
  induction parts generalizing s with
  | nil => simp
  | cons part parts ih => simp [ih]

theorem toList_concat (parts : List String) : (concat parts).toList = parts.flatMap String.toList := by
  rw [concat, toList_foldl_append]
  rfl

theorem splitOn_lines {lines : List String} (free : ∀ line ∈ lines, '\n' ∉ line.toList) :
    splitOn ['\n'] (concat (lines.map (· ++ "\n"))).toList = lines.map String.toList ++ [[]] := by
  have joined : ['\n'].intercalate (lines.map String.toList ++ [[]]) =
      (lines.map (· ++ "\n")).flatMap String.toList := by
    induction lines with
    | nil => rfl
    | cons line lines ih =>
      have later := ih fun l inside => free l (List.mem_cons_of_mem _ inside)
      rw [List.map_cons, List.cons_append, List.intercalate_cons_of_ne_nil (by simp), later]
      simp
  rw [toList_concat, ← joined]
  apply splitOn_intercalate List.not_mem_nil (by simp)
  intro piece inside found
  have newline : '\n' ∈ piece := found.subset (List.mem_singleton_self '\n')
  simp only [List.mem_append, List.mem_map, List.mem_singleton] at inside
  rcases inside with ⟨line, member, rfl⟩ | rfl
  · exact free line member newline
  · cases newline

theorem lineAt?_lines {lines : List String} (free : ∀ line ∈ lines, '\n' ∉ line.toList) (line : Int) :
    lineAt? (concat (lines.map (· ++ "\n"))) line = if 1 ≤ line then (lines ++ [""])[(line - 1).toNat]? else none := by
  rw [lineAt?, splitOn_lines free]
  have texts : (lines.map String.toList ++ [[]]).map String.ofList = lines ++ [""] := by
    simp [Function.comp_def]
  rw [← texts, List.getElem?_map]

end CBindings.Text

namespace CBindings.Probe

open Session (run_bind)

variable {p : Program} {name : String}

namespace Program

/- The parts of an entry around the two places of its name. They are named, since a proof that meets a long literal
spells it out. -/
def entryStart : List Char := "    fputs(cinclude_delimiter, stdout); fputs(\"const ".toList

def entryMiddle : List Char := " = \", stdout); cinclude_emit(".toList

def entryEnd : List Char := ");".toList

theorem toList_five (a b c d e : String) : (a ++ b ++ c ++ d ++ e).toList =
    a.toList ++ (b.toList ++ (c.toList ++ (d.toList ++ e.toList))) := by
  simp only [String.toList_append, List.append_assoc]

theorem toList_entry (name : String) :
    (entry name).toList = entryStart ++ (name.toList ++ (entryMiddle ++ (name.toList ++ entryEnd))) :=
  toList_five _ _ _ _ _

theorem entry_injective {a b : String} (same : entry a = entry b) : a = b := by
  have chars := congrArg String.toList same
  rw [toList_entry, toList_entry] at chars
  have lengths := congrArg List.length chars
  simp only [List.length_append] at lengths
  have names := List.append_inj (List.append_cancel_left chars) (by omega)
  exact String.toList_inj.mp names.1

theorem newline_free_entry (free : '\n' ∉ name.toList) : '\n' ∉ (entry name).toList := by
  have fixed : '\n' ∉ entryStart ∧ '\n' ∉ entryMiddle ∧ '\n' ∉ entryEnd := by
    unfold entryStart entryMiddle entryEnd
    rw [String.toList_ofList, String.toList_ofList, String.toList_ofList]
    decide
  rw [toList_entry]
  simp only [List.mem_append, not_or]
  exact ⟨fixed.1, free, fixed.2.1, free, fixed.2.2⟩

/-- A line that does not go on in the next one and does not begin like an entry. -/
def plain (line : List Char) : Bool := !line.contains '\n' && !"    fputs(c".toList.isPrefixOf line

theorem newline_free_of_plain {line : String} (other : plain line.toList = true) : '\n' ∉ line.toList := by
  simp only [plain, Bool.and_eq_true, Bool.not_eq_true', List.contains_eq_mem, decide_eq_false_iff_not] at other
  exact other.1

theorem ne_entry_of_plain {line : String} (other : plain line.toList = true) (name : String) : line ≠ entry name := by
  rintro rfl
  have begins : "    fputs(c".toList <+: entryStart := by
    unfold entryStart
    rw [String.toList_ofList, String.toList_ofList]
    decide
  rw [toList_entry] at other
  simp only [plain, Bool.and_eq_true, Bool.not_eq_true', Bool.eq_false_iff, ne_eq, List.isPrefixOf_iff_prefix] at other
  exact other.2 (begins.trans (List.prefix_append _ _))

def closingLines : List String := ["    fputs(\"\\n\", stdout);", "    return 0;", "\x7d", ""]

/- Line by line, with the text of each as a list of its characters: reading a long literal from its bytes is slow. -/
theorem fixedLines_plain : ∀ line ∈ preludeLines ++ (["\x7d", "", "int main(void) \x7b"] ++ closingLines),
    plain line.toList = true := by
  simp only [preludeLines, closingLines, List.cons_append, List.nil_append, List.forall_mem_cons]
  repeat' apply And.intro
  all_goals first
    | rw [String.toList_ofList]
      decide +kernel
    | exact List.forall_mem_nil _

theorem newline_free_inCString (text : String) : '\n' ∉ (inCString text).toList := by
  rw [inCString, String.toList_ofList, List.mem_flatMap]
  rintro ⟨c, _, inside⟩
  by_cases marked : (c == '\\' || c == '"') = true
  · rw [if_pos marked] at inside
    have same : c = '\n' := by simpa [eq_comm] using inside
    subst same
    cases marked
  rw [if_neg marked] at inside
  by_cases newline : (c == '\n') = true
  · rw [if_pos newline] at inside
    simp at inside
  · rw [if_neg newline, List.mem_singleton] at inside
    exact newline (by rw [← inside]; rfl)

theorem includeLine_plain (header : String) : plain (includeLine header).toList = true := by
  have shape : (includeLine header).toList =
      "#include \"".toList ++ (inCString (Path.absolute header)).toList ++ "\"".toList := by
    simp only [includeLine, String.toList_append]
  have free : '\n' ∉ (includeLine header).toList := by
    rw [shape]
    simp only [List.mem_append, not_or]
    exact ⟨⟨by decide, newline_free_inCString _⟩, by decide⟩
  have begins : "    fputs(c".toList.isPrefixOf (includeLine header).toList = false := by
    rw [shape]
    rfl
  simp only [plain, begins, List.contains_eq_mem, free, decide_false, Bool.not_false, Bool.and_self]

theorem linesBeforeEntries_plain (p : Program) : ∀ line ∈ p.linesBeforeEntries, plain line.toList = true := by
  intro line inside
  simp only [linesBeforeEntries, List.mem_append, List.mem_map] at inside
  rcases inside with (inside | ⟨header, _, rfl⟩) | inside
  · exact fixedLines_plain line (List.mem_append_left _ inside)
  · exact includeLine_plain header
  · exact fixedLines_plain line (List.mem_append_right _ (List.mem_append_left _ inside))

theorem closingLines_plain : ∀ line ∈ closingLines, plain line.toList = true :=
  fun line inside => fixedLines_plain line (List.mem_append_right _ (List.mem_append_right _ inside))

theorem lines_closed (p : Program) :
    p.lines ++ [""] = p.linesBeforeEntries ++ (p.names.map entry ++ closingLines) := by
  simp [lines, closingLines]

theorem lines_newline_free (free : ∀ n ∈ p.names, '\n' ∉ n.toList) : ∀ line ∈ p.lines, '\n' ∉ line.toList := by
  intro line inside
  have member : line ∈ p.lines ++ [""] := List.mem_append_left _ inside
  rw [lines_closed] at member
  simp only [List.mem_append, List.mem_map] at member
  rcases member with inside | ⟨name, member, rfl⟩ | inside
  · exact newline_free_of_plain (p.linesBeforeEntries_plain line inside)
  · exact newline_free_entry (free name member)
  · exact newline_free_of_plain (closingLines_plain line inside)

theorem numberedFrom_find? (names : List String) (k : Nat) (line : Int) :
    ((numberedFrom names k).find? fun e => (e.1 : Int) == line).map (·.2) =
      if (k : Int) ≤ line then names[(line - k).toNat]? else none := by
  induction names generalizing k with
  | nil => simp [numberedFrom]
  | cons n rest ih =>
    rw [numberedFrom, List.find?_cons]
    by_cases here : (k : Int) = line
    · simp [here]
    · have apart : ((k : Int) == line) = false := by simpa using here
      rw [apart]
      dsimp only
      rw [ih]
      by_cases behind : ((k + 1 : Nat) : Int) ≤ line
      · have next : (line - k).toNat = (line - (k + 1 : Nat)).toNat + 1 := by omega
        rw [if_pos behind, if_pos (by omega), next, List.getElem?_cons_succ]
      · rw [if_neg behind, if_neg (by omega)]

theorem getElem?_entries {before after : List String} (names : List String) (name : String)
    (other : ∀ line ∈ before ++ after, line ≠ entry name) (i : Nat) :
    (before ++ (names.map entry ++ after))[i]? = some (entry name) ↔
      before.length ≤ i ∧ names[i - before.length]? = some name := by
  rw [List.getElem?_append]
  split
  · rename_i early
    refine iff_of_false (fun found => ?_) (fun late => by omega)
    exact other _ (List.mem_append_left _ (List.mem_of_getElem? found)) rfl
  · rename_i late
    rw [List.getElem?_append]
    split
    · rw [List.getElem?_map, Option.map_eq_some_iff]
      constructor
      · rintro ⟨n, found, same⟩
        exact ⟨by omega, entry_injective same ▸ found⟩
      · rintro ⟨_, found⟩
        exact ⟨name, found, rfl⟩
    · rename_i later
      rw [List.length_map] at later
      refine iff_of_false (fun found => ?_) (fun inside => ?_)
      · exact other _ (List.mem_append_right _ (List.mem_of_getElem? found)) rfl
      · rw [List.getElem?_eq_none (by omega)] at inside
        cases inside.2

theorem nameAt?_eq_some_iff (free : ∀ n ∈ p.names, '\n' ∉ n.toList) (line : Int) (name : String) :
    p.nameAt? line = some name ↔ Text.lineAt? p.source line = some (entry name) := by
  have other : ∀ line ∈ p.linesBeforeEntries ++ closingLines, line ≠ entry name := by
    intro line inside
    rcases List.mem_append.mp inside with inside | inside
    · exact ne_entry_of_plain (p.linesBeforeEntries_plain line inside) name
    · exact ne_entry_of_plain (closingLines_plain line inside) name
  rw [source, Text.lineAt?_lines (lines_newline_free free), nameAt?, entryLines, numberedFrom_find?, lines_closed]
  split
  · rename_i inside
    have index : (line - (p.linesBeforeEntries.length + 1 : Nat)).toNat =
        (line - 1).toNat - p.linesBeforeEntries.length := by
      omega
    rw [if_pos (by omega), getElem?_entries p.names name other, index]
    exact ⟨fun found => ⟨by omega, found⟩, And.right⟩
  · rename_i outside
    refine iff_of_false (by simp) ?_
    split
    · rw [getElem?_entries p.names name other]
      rintro ⟨late, _⟩
      omega
    · simp

end Program

/-- One check of a program: the text that was handed over, and the answer. -/
structure Pass where
  text : String
  answer : Option HeaderUnit

namespace Pass

/-- Some error in the program's file lies on the line that is the entry of this name. -/
def blames (pass : Pass) (name : String) : Bool :=
  pass.answer.any fun u => u.diagnostics.any fun d => d.severity ≥ 3 && d.location.any fun l =>
    Path.base l.file == sourceName && Text.lineAt? pass.text l.line == some (Program.entry name)

def call (arguments : List String) (pass : Pass) : ParseCall :=
  ⟨sourceName, arguments, false, some sourceName, some pass.text⟩

end Pass

def Program.pass (p : Program) (answer : Option HeaderUnit) : Pass := ⟨p.source, answer⟩

theorem Program.pass_text (p : Program) (answer : Option HeaderUnit) : (p.pass answer).text = p.source := by
  simp only [Program.pass]

/-- The program without the names that some pass blames. -/
def Program.remaining (p : Program) (passes : List Pass) : Program :=
  { p with names := p.names.filter fun n => passes.all fun pass => !pass.blames n }

/-- The passes that a program goes through when its checks are answered so. -/
structure Checked (limit : Nat) (p : Program) (answers : List (Option HeaderUnit)) (passes : List Pass) : Prop where
  most : passes.length ≤ limit
  begins : passes = [] ↔ limit = 0 ∨ p.names = []
  submits : ∀ before pass after, passes = before ++ pass :: after →
    pass.text = (p.remaining before).source ∧ pass.answer = answers[before.length]?.getD (some {})
  ends : ∀ before pass after, passes = before ++ pass :: after →
    (after = [] ↔ before.length + 1 = limit ∨ pass.answer = none ∨ (∀ n, pass.blames n = false) ∨
      (p.remaining (before ++ [pass])).names = [])

theorem mem_foldl_addNew (names taken : List String) :
    name ∈ names.foldl SearchPath.addNew taken ↔ name ∈ taken ∨ name ∈ names := by
  rw [SearchPath.foldl_addNew, List.mem_append, List.mem_eraseDups, List.mem_filter]
  by_cases known : name ∈ taken
  · simp [known]
  · simp [known]

section OneLine

variable (free : ∀ n ∈ p.names, '\n' ∉ n.toList)
include free

theorem pointedAt?_eq_some_iff (d : Diagnostic) :
    pointedAt? p d = some name ↔ ∃ l, d.location = some l ∧ Path.base l.file = sourceName ∧
      Text.lineAt? p.source l.line = some (Program.entry name) := by
  unfold pointedAt?
  split
  · rename_i l placed
    simp [placed, ← Program.nameAt?_eq_some_iff free]
  · rename_i unplaced
    simp [unplaced]

theorem mem_blamed_iff (u : HeaderUnit) : name ∈ blamed p u ↔ (p.pass (some u)).blames name = true := by
  simp only [blamed, List.mem_mergeSort, mem_foldl_addNew, List.not_mem_nil, false_or, List.mem_filterMap,
    HeaderUnit.errors, List.mem_filter, pointedAt?_eq_some_iff free, Pass.blames, Program.pass, Option.any_some,
    List.any_eq_true, Bool.and_eq_true, Option.any_eq_true, beq_iff_eq, and_assoc]

theorem blamed_isEmpty_iff (u : HeaderUnit) :
    (blamed p u).isEmpty = true ↔ ∀ n, (p.pass (some u)).blames n = false := by
  simp only [List.isEmpty_iff, List.eq_nil_iff_forall_not_mem, mem_blamed_iff free, Bool.not_eq_true]

theorem without_blamed (u : HeaderUnit) : p.without (blamed p u) = p.remaining [p.pass (some u)] := by
  have same : ∀ n, (blamed p u).contains n = (p.pass (some u)).blames n := by
    intro n
    rw [Bool.eq_iff_iff, List.contains_iff_mem, mem_blamed_iff free]
  simp only [Program.without, Program.remaining, same, List.all_cons, List.all_nil, Bool.and_true]

end OneLine

namespace Program

theorem remaining_nil (p : Program) : p.remaining [] = p := by
  simp [remaining]

theorem remaining_append (p : Program) (passes more : List Pass) :
    (p.remaining passes).remaining more = p.remaining (passes ++ more) := by
  simp [remaining, List.filter_filter, Bool.and_comm]

theorem remaining_quiet {pass : Pass} (quiet : ∀ n, pass.blames n = false) (p : Program) : p.remaining [pass] = p := by
  simp [remaining, quiet]

end Program

namespace Checked

variable {limit : Nat} {answers : List (Option HeaderUnit)} {pass : Pass} {passes : List Pass}

theorem empty (done : limit = 0 ∨ p.names = []) : Checked limit p answers [] where
  most := Nat.zero_le limit
  begins := iff_of_true rfl done
  submits := by simp
  ends := by simp

theorem eq_of_singleton {before after : List Pass} {other : Pass} (split : [pass] = before ++ other :: after) :
    before = [] ∧ other = pass ∧ after = [] := by
  cases before with
  | nil =>
    obtain ⟨rfl, rfl⟩ := List.cons.inj split
    exact ⟨rfl, rfl, rfl⟩
  | cons first before => simp at split

theorem last (filled : p.names ≠ []) (text : pass.text = p.source) (answer : pass.answer = answers.head?.getD (some {}))
    (quiet : ∀ n, pass.blames n = false) : Checked (limit + 1) p answers [pass] where
  most := by simp
  begins := iff_of_false (List.cons_ne_nil _ _) (by simp [filled])
  submits := by
    intro before pass' after split
    obtain ⟨rfl, rfl, rfl⟩ := eq_of_singleton split
    exact ⟨by rw [Program.remaining_nil, text], by simpa [List.head?_eq_getElem?] using answer⟩
  ends := by
    intro before pass' after split
    obtain ⟨rfl, rfl, rfl⟩ := eq_of_singleton split
    exact iff_of_true rfl (.inr (.inr (.inl quiet)))

/- The passes behind the first are those of the program that the first one leaves. -/
theorem cons (filled : p.names ≠ []) (text : pass.text = p.source) (answer : pass.answer = answers.head?.getD (some {}))
    (known : pass.answer ≠ none) (found : ¬ ∀ n, pass.blames n = false)
    (later : Checked limit (p.remaining [pass]) (answers.drop 1) passes) :
    Checked (limit + 1) p answers (pass :: passes) where
  most := Nat.succ_le_succ later.most
  begins := iff_of_false (List.cons_ne_nil _ _) (by simp [filled])
  submits := by
    intro before pass' after split
    cases before with
    | nil =>
      obtain ⟨rfl, rfl⟩ := List.cons.inj split
      exact ⟨by rw [Program.remaining_nil, text], by simpa [List.head?_eq_getElem?] using answer⟩
    | cons first before =>
      obtain ⟨rfl, rest⟩ := List.cons.inj split
      obtain ⟨text', answer'⟩ := later.submits before pass' after rest
      rw [Program.remaining_append] at text'
      exact ⟨text', by simpa [Nat.add_comm] using answer'⟩
  ends := by
    intro before pass' after split
    cases before with
    | nil =>
      obtain ⟨rfl, rfl⟩ := List.cons.inj split
      rw [later.begins, or_iff_right known, or_iff_right found, List.nil_append, List.length_nil]
      exact or_congr (by omega) Iff.rfl
    | cons first before =>
      obtain ⟨rfl, rest⟩ := List.cons.inj split
      have ended := later.ends before pass' after rest
      rw [Program.remaining_append] at ended
      simpa using ended

end Checked

theorem note_parses (r : Request) (message : String) (s : Session) :
    ((note r message).run s).2.parses = s.parses := by
  unfold note
  split <;> rfl

theorem check_run (p : Program) (arguments : List String) (s : Session) :
    ((Session.check sourceName p.source arguments).run s).1 = s.checks.head?.getD (some {}) ∧
    ((Session.check sourceName p.source arguments).run s).2.parses =
      s.parses ++ [(p.pass (s.checks.head?.getD (some {}))).call arguments] ∧
    ((Session.check sourceName p.source arguments).run s).2.checks = s.checks.drop 1 := by
  rw [Pass.call, Program.pass_text]
  exact ⟨rfl, rfl, rfl⟩

/- What one pass leaves goes through the passes behind it. -/
theorem pruneFor_checked (r : Request) (arguments : List String) (limit : Nat) (p : Program) (s : Session)
    (free : ∀ n ∈ p.names, '\n' ∉ n.toList) : ∃ passes, Checked limit p s.checks passes ∧
      ((pruneFor r arguments limit p).run s).1 = p.remaining passes ∧
      ((pruneFor r arguments limit p).run s).2.parses = s.parses ++ passes.map (Pass.call arguments) := by
  induction limit generalizing p s with
  | zero => exact ⟨[], .empty (.inl rfl), p.remaining_nil.symm, (List.append_nil _).symm⟩
  | succ limit ih =>
    unfold pruneFor
    by_cases bare : p.names = []
    · rw [if_pos (List.isEmpty_iff.mpr bare)]
      exact ⟨[], .empty (.inr bare), p.remaining_nil.symm, (List.append_nil _).symm⟩
    rw [if_neg (by simpa using bare), run_bind]
    obtain ⟨answer, parses, checks⟩ := check_run p arguments s
    generalize ((Session.check sourceName p.source arguments).run s).2 = s₁ at parses checks ⊢
    rw [answer]
    generalize told : s.checks.head?.getD (some {}) = checked at parses
    cases checked with
    | none =>
      have quiet : ∀ n, (p.pass none).blames n = false := fun _ => rfl
      exact ⟨[p.pass none], .last bare (p.pass_text _) told.symm quiet, (p.remaining_quiet quiet).symm, parses⟩
    | some u =>
      dsimp only
      have blameless := blamed_isEmpty_iff free u
      by_cases quiet : (blamed p u).isEmpty = true
      · rw [if_pos quiet]
        rw [blameless] at quiet
        exact ⟨[p.pass (some u)], .last bare (p.pass_text _) told.symm quiet, (p.remaining_quiet quiet).symm, parses⟩
      · rw [if_neg quiet, run_bind]
        rw [blameless] at quiet
        have left := without_blamed free u
        have noted := note_answers r ("Can't probe " ++ Text.join ", " (blamed p u)) s₁
        have parses' := note_parses r ("Can't probe " ++ Text.join ", " (blamed p u)) s₁
        generalize (StateT.run (note r ("Can't probe " ++ Text.join ", " (blamed p u))) s₁).2 = s₂ at noted parses' ⊢
        have free' : ∀ n ∈ (p.remaining [p.pass (some u)]).names, '\n' ∉ n.toList :=
          fun n inside => free n (List.mem_of_mem_filter inside)
        obtain ⟨passes, checked, result, later⟩ := ih (p.remaining [p.pass (some u)]) s₂ free'
        rw [noted.2, checks] at checked
        rw [Program.remaining_append] at result
        rw [parses', parses, List.append_assoc] at later
        rw [left]
        have known : (p.pass (some u)).answer ≠ none := Option.some_ne_none u
        exact ⟨p.pass (some u) :: passes, .cons bare (p.pass_text _) told.symm known quiet checked, result, later⟩

def checkArguments (r : Request) (searchPath headers : List String) : List String :=
  ["-x", "c++", standard] ++ preprocessorArguments r headers ++ SearchPath.arguments searchPath

/-- At most three checks are made, each of the text of what the ones before it leave. What is left in the end are the
names, in their order, that none of them blames. -/
theorem prune_takes_out_blamed (r : Request) (searchPath : List String) (p : Program) (s : Session)
    (free : ∀ n ∈ p.names, '\n' ∉ n.toList) : ∃ passes, Checked 3 p s.checks passes ∧
      ((prune r searchPath p).run s).1 = p.remaining passes ∧
      ((prune r searchPath p).run s).2.parses =
        s.parses ++ passes.map (Pass.call (checkArguments r searchPath p.headers)) :=
  pruneFor_checked r (checkArguments r searchPath p.headers) 3 p s free

def limitsRequest : Request := { headers := ["limits.h"] }

def limitsProgram : Program := ⟨limitsRequest.headers, ["LO", "MID", "HI"]⟩

/- A warning about the second entry and an error. -/
def limitsUnit (file : String) (line : Int) : HeaderUnit :=
  { diagnostics := [⟨2, "unused", some ⟨sourceName, 42, none⟩⟩, ⟨3, "undeclared", some ⟨file, line, none⟩⟩] }

/- Line 41 is the entry of `LO` in the first pass and of `MID` in the second. -/
def limitsSession : Session :=
  { checks := [some (limitsUnit sourceName 41), some (limitsUnit ("/tmp/" ++ sourceName) 41),
      some (limitsUnit "limits.h" 41)] }

theorem limitsProgram_takes_out_blamed :
    (∀ n ∈ limitsProgram.names, '\n' ∉ n.toList) ∧
    (∃ passes, Checked 3 limitsProgram limitsSession.checks passes ∧
      ((prune limitsRequest [] limitsProgram).run limitsSession).1 = limitsProgram.remaining passes ∧
      ((prune limitsRequest [] limitsProgram).run limitsSession).2.parses =
        limitsSession.parses ++ passes.map (Pass.call (checkArguments limitsRequest [] limitsProgram.headers))) ∧
    ((prune limitsRequest [] limitsProgram).run limitsSession).1 = ⟨["limits.h"], ["HI"]⟩ ∧
    ((prune limitsRequest [] limitsProgram).run limitsSession).2.parses.length = 3 := by
  have free : ∀ n ∈ limitsProgram.names, '\n' ∉ n.toList := by decide
  exact ⟨free, prune_takes_out_blamed _ [] limitsProgram limitsSession free, by decide +kernel, by decide +kernel⟩

end CBindings.Probe
