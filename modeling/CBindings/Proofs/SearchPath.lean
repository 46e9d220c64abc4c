import CBindings.Proofs.Session
import CBindings.Proofs.Text.Lines

/-! The directories that a compiler lists. A listing stands between two marks in the middle of other output, with one
entry to a line; its directories come in their order behind the default ones, each once. -/
namespace CBindings.SearchPath

open Text

variable {t : Toolchain} {s : Session} {ds : List String} {d entry line before after text rest : List Char}
  {more done : List (List Char)}

/-- A text that has a line of its own, but for white space around it. -/
@[mk_iff]
structure Entry (entry : List Char) : Prop where
  filled : entry ≠ []
  trimmed : trim entry = entry
  oneLine : OneLine entry

/-- A directory that can be listed. -/
@[mk_iff]
structure Listable (d : List Char) : Prop extends Entry d where
  not_start : ¬ startMark <:+: d
  not_end : d ≠ endMark
  not_framework : ¬ frameworkMark <:+ d

instance (entry : List Char) : Decidable (Entry entry) :=
  decidable_of_iff (entry ≠ [] ∧ trim entry = entry ∧ entry.all (fun c => !isLineEnd c) = true)
    (by simp [entry_iff, OneLine])

instance (d : List Char) : Decidable (Listable d) :=
  decidable_of_iff (Entry d ∧ ¬ occursIn startMark d = true ∧ d ≠ endMark ∧ ¬ frameworkMark.isSuffixOf d = true)
    (by rw [listable_iff, occursIn_iff, List.isSuffixOf_iff_suffix])

/-- A listing from behind its start mark, with whatever comes after its last line. -/
inductive Listing : List String → List Char → Prop
  | closed {gap after} (between : Gap gap) (ended : after = [] ∨ ∃ gap' more, Gap gap' ∧ after = gap' ++ more) :
      Listing [] (gap ++ (endMark ++ after))
  | framework {ds gap entry rest} (between : Gap gap) (named : Entry entry) (marked : frameworkMark <:+ entry)
      (onward : Listing ds rest) : Listing ds (gap ++ (entry ++ rest))
  | directory {d ds gap rest} (between : Gap gap) (named : Listable d.toList) (onward : Listing ds rest) :
      Listing (d :: ds) (gap ++ (d.toList ++ rest))

/-- An output with a listing of these directories. Its start mark is the first one. -/
def Prints (ds : List String) (text : List Char) : Prop :=
  ∃ before rest, text = before ++ (startMark ++ rest) ∧ ¬ startMark <:+: before ∧ Listing ds rest

theorem Entry.snug (named : Entry entry) : Snug isBlank entry := by
  obtain ⟨_, _, _, _, _, snug⟩ := exists_strip isBlank entry
  have trimmed : strip isBlank entry = entry := named.trimmed
  rwa [trimmed] at snug

theorem Entry.trim_padded (named : Entry entry) (padded : Blank before) (padded' : Blank after) :
    trim (before ++ (entry ++ after)) = entry :=
  strip_around named.snug padded padded'

theorem startMark_entry : Entry startMark := by decide +kernel

/- The end mark is read like any entry, with white space around it. -/
theorem endMark_entry : Entry endMark ∧ ¬ occursIn startMark endMark = true := by decide +kernel

theorem not_start_padded (free : ¬ startMark <:+: entry) (padded : Blank before) (padded' : Blank after) :
    ¬ startMark <:+: before ++ (entry ++ after) :=
  fun found => free (startMark_entry.snug.infix_of_padded startMark_entry.filled padded padded' found)

theorem listed_start {started : Bool} (found : startMark <:+: line) :
    listed started (line :: more) = listed true more := by
  rw [listed, if_pos ((occursIn_iff _ _).mpr found)]

theorem listed_inside (free : ¬ startMark <:+: line) : listed true (line :: more) =
    if trim line == endMark then []
    else if isDirectory (trim line) then trim line :: listed true more else listed true more := by
  rw [listed, if_neg (mt (occursIn_iff _ _).mp free)]
  rfl

theorem listed_before (free : ∀ line ∈ done, ¬ startMark <:+: line) :
    listed false (done ++ more) = listed false more := by
  induction done with
  | nil => rfl
  | cons line done ih =>
    obtain ⟨this, others⟩ := List.forall_mem_cons.mp free
    rw [List.cons_append, listed, if_neg (mt (occursIn_iff _ _).mp this)]
    exact ih others

theorem listed_passed (unlisted : isDirectory (trim line) = false) (other : trim line ≠ endMark) :
    listed true (line :: more) = listed true more := by
  by_cases found : startMark <:+: line
  · exact listed_start found
  · simp [listed_inside found, unlisted, other]

theorem listed_blank (blank : ∀ line ∈ done, Blank line) : listed true (done ++ more) = listed true more := by
  induction done with
  | nil => rfl
  | cons line done ih =>
    obtain ⟨this, others⟩ := List.forall_mem_cons.mp blank
    have empty : trim line = [] := strip_append (snug_of_none (List.forall_mem_nil _)) this
    rw [List.cons_append, listed_passed (by rw [empty]; rfl) (by rw [empty]; exact endMark_entry.1.filled.symm)]
    exact ih others

theorem listed_framework (named : Entry entry) (marked : frameworkMark <:+ entry) (padded : Blank before)
    (padded' : Blank after) : listed true ((before ++ (entry ++ after)) :: more) = listed true more := by
  have trimmed := named.trim_padded padded padded'
  apply listed_passed
  · rw [trimmed, isDirectory, List.isSuffixOf_iff_suffix.mpr marked, Bool.not_true, Bool.and_false]
  · rw [trimmed]
    rintro rfl
    exact absurd (List.isSuffixOf_iff_suffix.mpr marked) (by decide +kernel)

theorem listed_directory (named : Listable d) (padded : Blank before) (padded' : Blank after) :
    listed true ((before ++ (d ++ after)) :: more) = d :: listed true more := by
  have kept : isDirectory d = true := by
    simp [isDirectory, named.filled, ← Bool.not_eq_true, named.not_framework]
  rw [listed_inside (not_start_padded named.not_start padded padded'), named.trim_padded padded padded']
  simp [named.not_end, kept]

theorem listed_end (padded : Blank before) (padded' : Blank after) :
    listed true ((before ++ (endMark ++ after)) :: more) = [] := by
  obtain ⟨named, free⟩ := endMark_entry
  rw [occursIn_iff] at free
  rw [listed_inside (not_start_padded free padded padded'), named.trim_padded padded padded']
  simp

/- A gap closes the line of the mark or the entry before it, and the entry behind it is read into a line with an indent
of its own. -/
theorem exists_lines_entry {gap : List Char} (between : Gap gap) (named : Entry entry) (line rest : List Char) :
    ∃ pad more indent, Blank pad ∧ Blank indent ∧
      linesFrom false line.reverse (gap ++ (entry ++ rest)) = (line ++ pad) :: more ∧
      listed true more = listed true (linesFrom false (indent ++ entry).reverse rest) := by
  obtain ⟨pad, done, back, indent, blank, passed, blank', same⟩ := between.exists_linesFrom line
  refine ⟨pad, _, indent, blank, blank', same _, ?_⟩
  rw [listed_blank passed, named.oneLine.linesFrom (.inl named.filled)]

theorem Listing.exists_lines (listing : Listing ds rest) (line : List Char) :
    ∃ pad more, Blank pad ∧ linesFrom false line.reverse rest = (line ++ pad) :: more ∧
      listed true more = ds.map String.toList := by
  induction listing generalizing line with
  | @closed gap after between ended =>
    obtain ⟨pad, more, indent, blank, blank', lines, onward⟩ := exists_lines_entry between endMark_entry.1 line after
    refine ⟨pad, more, blank, lines, onward.trans ?_⟩
    -- The end mark is on the last line of all, or a gap closes its line and more may come.
    rcases ended with rfl | ⟨gap', behind, between', rfl⟩
    · have last : indent ++ endMark ≠ [] := List.append_ne_nil_of_right_ne_nil indent endMark_entry.1.filled
      have alone : listed true [indent ++ (endMark ++ [])] = [] := listed_end blank' (List.forall_mem_nil _)
      rw [linesFrom_nil last, ← List.append_nil endMark]
      exact alone
    · obtain ⟨pad', done, back, _, blank'', -, -, same⟩ := between'.exists_linesFrom (indent ++ endMark)
      rw [same, List.append_assoc, listed_end blank' blank'']
      rfl
  | @framework ds gap entry rest between named marked _ ih =>
    obtain ⟨pad, more, indent, blank, blank', lines, onward⟩ := exists_lines_entry between named line rest
    obtain ⟨pad', more', behind, lines', others⟩ := ih (indent ++ entry)
    refine ⟨pad, more, blank, lines, ?_⟩
    rw [onward, lines', List.append_assoc, listed_framework named marked blank' behind, others]
  | @directory d ds gap rest between named _ ih =>
    obtain ⟨pad, more, indent, blank, blank', lines, onward⟩ := exists_lines_entry between named.toEntry line rest
    obtain ⟨pad', more', behind, lines', others⟩ := ih (indent ++ d.toList)
    refine ⟨pad, more, blank, lines, ?_⟩
    rw [onward, lines', List.append_assoc, listed_directory named blank' behind, others, List.map_cons]

theorem Prints.listed (printed : Prints ds text) : listed false (lines text) = ds.map String.toList := by
  obtain ⟨before, rest, rfl, free, listing⟩ := printed
  obtain ⟨done, back, line, parts, -, same⟩ := exists_linesFrom_append before false [] (by simp)
  obtain ⟨pad, more, -, opened, others⟩ := listing.exists_lines (line ++ startMark)
  have split : lines (before ++ (startMark ++ rest)) = done ++ (line ++ startMark ++ pad) :: more := by
    rw [← opened, ← startMark_entry.oneLine.linesFrom (.inl startMark_entry.filled)]
    exact same (startMark ++ rest)
  rw [split, listed_before fun l inside found => free (found.trans (parts l inside)), listed_start ⟨line, pad, rfl⟩,
    others]

theorem Prints.ofListing {output : String} (printed : Prints ds output.toList) : ofListing output = ds := by
  rw [SearchPath.ofListing, printed.listed]
  simp [Function.comp_def]

/- New names are added in the order in which they first come. -/
theorem foldl_addNew (found taken : List String) :
    found.foldl addNew taken = taken ++ (found.filter fun path => !taken.contains path).eraseDups := by
  induction found generalizing taken with
  | nil => simp
  | cons path found ih =>
    rw [List.foldl_cons, ih, addNew]
    cases known : taken.contains path with
    | true => rw [if_pos rfl, List.filter_cons_of_neg (by simp only [known]; decide)]
    | false =>
      have others : (fun other => !(taken ++ [path]).contains other) =
          fun other => !other == path && !taken.contains other := by
        funext other
        rw [List.contains_append, List.contains_cons, List.contains_nil, Bool.or_false, Bool.not_or, Bool.and_comm]
      rw [if_neg Bool.false_ne_true, List.filter_cons_of_pos (by simp only [known]; decide), List.eraseDups_cons,
        List.filter_filter, others, List.append_assoc, List.singleton_append]

theorem query_succeeded {output errors : String} (elsewhere : t.platform ≠ "darwin")
    (answer : s.runs.head? = some (.exited 0 output errors)) :
    (query t).run s = (.ok (ofListing (errors ++ "\n" ++ output)),
      { s with
        runs := s.runs.drop 1
        commands := s.commands ++ [⟨[t.setting "CC" "cc", "-E", "-v", "-x", "c", "/dev/null"], none⟩] }) := by
  have other : ¬ t.isDarwin = true := by simpa [Toolchain.isDarwin] using elsewhere
  rw [query, if_neg other, Session.run_bind, Session.run_succeeded answer]
  rfl

/-- Where the compiler is asked and prints a listing, the directories of the listing come after the default one, each
once, in the order in which they are first listed. What else it prints does not count. -/
theorem discover_listing {output errors : String} (elsewhere : t.platform ≠ "darwin")
    (answer : s.runs.head? = some (.exited 0 output errors))
    (printed : Prints ds (errors ++ "\n" ++ output).toList) :
    ((discover t).run s).1 = .ok ("/usr/include" :: (ds.filter (· ≠ "/usr/include")).eraseDups) ∧
    ((discover t).run s).2.commands =
      s.commands ++ [⟨[t.setting "CC" "cc", "-E", "-v", "-x", "c", "/dev/null"], none⟩] := by
  have asked := query_succeeded elsewhere answer
  rw [printed.ofListing] at asked
  have paths := Session.discover_paths t s
  rw [asked] at paths
  have merged : ds.foldl addNew defaults = "/usr/include" :: (ds.filter (· ≠ "/usr/include")).eraseDups := by
    have other : (fun path => !defaults.contains path) = fun path => decide (path ≠ "/usr/include") := by
      funext path
      simp [defaults]
    rw [foldl_addNew, other]
    rfl
  refine ⟨paths.trans (congrArg Except.ok merged), ?_⟩
  rw [discover, Session.run_bind, asked]
  rfl

/-- Two directories are listed, one of them twice, with a blank line and a framework between them. The compiler says
more before the listing and after it. -/
def verboseErrors : String :=
  "cc\n#include <...> search starts here:\n /a\n\n\t(framework directory)\r\n /usr/include\n /a \n" ++
    "End of search list.\n/b"

theorem verboseErrors_prints :
    Prints ["/a", "/usr/include", "/a"] (verboseErrors ++ "\n" ++ "/c").toList := by
  have closed : Listing [] (" \n".toList ++ (endMark ++ ("\n".toList ++ "/b\n/c".toList))) :=
    .closed (by decide +kernel) (.inr ⟨_, _, by decide +kernel, rfl⟩)
  have twice : Listing ["/usr/include", "/a"]
      ("\r\n ".toList ++ ("/usr/include".toList ++ ("\n ".toList ++ ("/a".toList ++ _)))) :=
    .directory (by decide +kernel) (by decide +kernel) (.directory (by decide +kernel) (by decide +kernel) closed)
  have framework : Listing ["/usr/include", "/a"] ("\n\n\t".toList ++ (frameworkMark ++ _)) :=
    .framework (by decide +kernel) (by decide +kernel) (List.suffix_refl _) twice
  refine ⟨"cc\n".toList, "\n ".toList ++ ("/a".toList ++ _), by decide +kernel, ?_,
    .directory (by decide +kernel) (by decide +kernel) framework⟩
  rw [← occursIn_iff]
  decide +kernel

theorem verboseErrors_discovered :
    Prints ["/a", "/usr/include", "/a"] (verboseErrors ++ "\n" ++ "/c").toList ∧
    ((discover {}).run { runs := [.exited 0 "/c" verboseErrors] }).1 = .ok ["/usr/include", "/a"] := by
  have answer : ({ runs := [.exited 0 "/c" verboseErrors] } : Session).runs.head? =
      some (.exited 0 "/c" verboseErrors) := rfl
  exact ⟨verboseErrors_prints, (discover_listing (by decide) answer verboseErrors_prints).1⟩

end CBindings.SearchPath
