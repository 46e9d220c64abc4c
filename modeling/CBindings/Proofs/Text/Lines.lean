import CBindings.Proofs.Text.Cutting

/-! The lines of a text that is put together from parts. What is read of a part ends some lines and leaves one open, and
white space with a line end in it closes the line before it and opens a blank one. -/
namespace CBindings.Text

variable {p : Char → Bool} {back : Bool} {c : Char} {s part before after line rest gap : List Char}

def Blank (s : List Char) : Prop := ∀ c ∈ s, isBlank c = true

/-- A text that a line can hold. -/
def OneLine (s : List Char) : Prop := ∀ c ∈ s, isLineEnd c = false

/-- What stands between two lines: white space with the end of a line in it. Several ends make blank lines. -/
structure Gap (gap : List Char) : Prop where
  blank : Blank gap
  ends : ∃ c ∈ gap, isLineEnd c = true

instance (gap : List Char) : Decidable (Gap gap) :=
  decidable_of_iff (gap.all isBlank = true ∧ gap.any isLineEnd = true)
    (by rw [List.all_eq_true, List.any_eq_true]; exact ⟨fun h => ⟨h.1, h.2⟩, fun h => ⟨h.1, h.2⟩⟩)

theorem linesFrom_inside (inside : isLineEnd c = false) :
    linesFrom back line (c :: rest) = linesFrom false (c :: line) rest := by
  have other : (c == '\n') = false := by
    rw [beq_eq_false_iff_ne]
    rintro rfl
    cases inside
  simp [linesFrom, other, inside]

theorem linesFrom_end (ends : isLineEnd c = true) (single : ¬ (back && c == '\n') = true) :
    linesFrom back line (c :: rest) = line.reverse :: linesFrom (c == '\r') [] rest := by
  rw [linesFrom, if_neg single, if_pos ends]

theorem linesFrom_nil (filled : line ≠ []) : linesFrom back line.reverse [] = [line] := by
  simp [linesFrom, filled]

theorem OneLine.linesFrom (single : OneLine s) (filled : s ≠ [] ∨ back = false) :
    linesFrom back line.reverse (s ++ rest) = linesFrom false (line ++ s).reverse rest := by
  induction s generalizing back line with
  | nil =>
    rcases filled with filled | rfl
    · exact absurd rfl filled
    · rw [List.append_nil, List.nil_append]
  | cons c s ih =>
    obtain ⟨inside, others⟩ := List.forall_mem_cons.mp single
    have later : linesFrom false (line ++ [c]).reverse (s ++ rest) = linesFrom false (line ++ [c] ++ s).reverse rest :=
      ih others (.inr rfl)
    rw [List.cons_append, linesFrom_inside inside]
    simpa using later

/- A part of a text ends some lines and leaves one open. The flag goes with an empty line: a line feed that only follows
a return is dropped there, and nothing is joined across it. -/
theorem exists_linesFrom_append (s : List Char) (back : Bool) (line : List Char) (fresh : back = true → line = []) :
    ∃ done back' line', (∀ l ∈ done, l <:+: line ++ s) ∧ line' <:+: line ++ s ∧
      ∀ rest, linesFrom back line.reverse (s ++ rest) = done ++ linesFrom back' line'.reverse rest := by
  induction s generalizing back line with
  | nil => exact ⟨[], back, line, by simp, by simp, fun _ => rfl⟩
  | cons c s ih =>
    have behind : s <:+: line ++ c :: s := ⟨line ++ [c], [], by simp⟩
    by_cases returned : (back && c == '\n') = true
    · obtain ⟨done, back', line', parts, opened, same⟩ := ih false [] (by simp)
      refine ⟨done, back', line', fun l inside => (parts l inside).trans behind, opened.trans behind, fun rest => ?_⟩
      rw [List.cons_append, linesFrom, if_pos returned, fresh (Bool.and_eq_true_iff.mp returned).1]
      exact same rest
    by_cases ends : isLineEnd c = true
    · obtain ⟨done, back', line', parts, opened, same⟩ := ih (c == '\r') [] (by simp)
      refine ⟨line :: done, back', line', ?_, opened.trans behind, fun rest => ?_⟩
      · exact List.forall_mem_cons.mpr
          ⟨(List.prefix_append _ _).isInfix, fun l inside => (parts l inside).trans behind⟩
      · have later : linesFrom (c == '\r') [] (s ++ rest) = done ++ linesFrom back' line'.reverse rest := same rest
        rw [List.cons_append, linesFrom_end ends returned, later, List.reverse_reverse, List.cons_append]
    · obtain ⟨done, back', line', parts, opened, same⟩ := ih false (line ++ [c]) (by simp)
      rw [List.append_assoc] at parts opened
      refine ⟨done, back', line', parts, opened, fun rest => ?_⟩
      rw [List.cons_append, linesFrom_inside (Bool.not_eq_true _ ▸ ends), ← same rest, List.reverse_concat]

/- The first line end of a gap closes the line that was open, and all others close blank ones. -/
theorem Gap.exists_linesFrom (between : Gap gap) (line : List Char) :
    ∃ pad done back indent, Blank pad ∧ (∀ l ∈ done, Blank l) ∧ Blank indent ∧ ∀ rest,
      linesFrom false line.reverse (gap ++ rest) = (line ++ pad) :: (done ++ linesFrom back indent.reverse rest) := by
  obtain ⟨c, found⟩ := Option.isSome_iff_exists.mp (List.find?_isSome.mpr between.ends)
  obtain ⟨ends, pad, others, rfl, single⟩ := List.find?_eq_some_iff_append.mp found
  obtain ⟨done, back, indent, parts, opened, same⟩ := exists_linesFrom_append others (c == '\r') [] (by simp)
  have blank : Blank pad ∧ Blank others := by
    have all := between.blank
    simp only [Blank, List.forall_mem_append, List.forall_mem_cons] at all
    exact ⟨all.1, all.2.2⟩
  have oneLine : OneLine pad := by simpa [OneLine] using single
  refine ⟨pad, done, back, indent, blank.1, fun l inside c member => blank.2 c ((parts l inside).subset member),
    fun c member => blank.2 c (opened.subset member), fun rest => ?_⟩
  have later : linesFrom (c == '\r') [] (others ++ rest) = done ++ linesFrom back indent.reverse rest := same rest
  rw [List.append_assoc, oneLine.linesFrom (.inr rfl), List.cons_append, linesFrom_end ends (by simp), later,
    List.reverse_reverse]

theorem infix_of_padded_left (head : ∀ c, part.head? = some c → p c = false) (filled : part ≠ [])
    (padded : ∀ c ∈ before, p c = true) (found : part <:+: before ++ s) : part <:+: s := by
  induction before with
  | nil => exact found
  | cons c before ih =>
    obtain ⟨padding, others⟩ := List.forall_mem_cons.mp padded
    rw [List.cons_append, List.infix_cons_iff] at found
    rcases found with start | later
    · obtain ⟨d, more, rfl⟩ := List.exists_cons_of_ne_nil filled
      have kept := head d rfl
      rw [(List.cons_prefix_cons.mp start).1, padding] at kept
      cases kept
    · exact ih others later

/- What is put around a text cannot complete a part whose ends are other characters. -/
theorem Snug.infix_of_padded (snug : Snug p part) (filled : part ≠ []) (padded : ∀ c ∈ before, p c = true)
    (padded' : ∀ c ∈ after, p c = true) (found : part <:+: before ++ (s ++ after)) : part <:+: s := by
  have right := infix_of_padded_left snug.head filled padded found
  rw [← List.reverse_infix, List.reverse_append] at right
  rw [← List.reverse_infix]
  refine infix_of_padded_left ?_ (by simpa using filled) (fun c inside => padded' c (List.mem_reverse.mp inside)) right
  intro c last
  rw [List.head?_reverse] at last
  exact snug.last c last

end CBindings.Text
