import CBindings.Text.Blank
import Mathlib.Data.List.Forall2
import Mathlib.Data.List.TakeWhile

/-! Cutting a text: what stripping leaves of a text whose ends are to stay, and the pieces of a text that was put
together with a separator. -/
namespace CBindings.Text

variable {p : Char → Bool} {s rest : List Char}

/-- Neither end of the text is one of these characters. -/
structure Snug (p : Char → Bool) (s : List Char) : Prop where
  head : ∀ c, s.head? = some c → p c = false
  last : ∀ c, s.getLast? = some c → p c = false

theorem snug_of_none (none : ∀ c ∈ s, p c = false) : Snug p s :=
  ⟨fun c first => none c (List.mem_of_head? first), fun c last => none c (List.mem_of_getLast? last)⟩

theorem snug_of_ends {a b : Char} (first : s.head? = some a) (last : s.getLast? = some b) (keepFirst : p a = false)
    (keepLast : p b = false) : Snug p s := by
  constructor
  · intro c head
    rwa [Option.some.inj (head.symm.trans first)]
  · intro c ends
    rwa [Option.some.inj (ends.symm.trans last)]

theorem stripStart_eq_self (head : ∀ c, s.head? = some c → p c = false) : stripStart p s = s := by
  cases s with
  | nil => rfl
  | cons c rest =>
    have kept := head c rfl
    simp [stripStart, kept]

theorem stripEnd_cons {c : Char} (kept : p c = false) (s : List Char) : stripEnd p (c :: s) = c :: stripEnd p s := by
  rw [stripEnd, List.reverse_cons, List.dropWhile_append]
  split
  · rename_i none
    simp [stripEnd, kept, List.isEmpty_iff.mp none]
  · simp [stripEnd]

/- A run of such characters ends where another one stands. -/
theorem takeWhile_run (run : ∀ c ∈ s, p c = true) (stop : ∀ c, rest.head? = some c → p c = false) :
    (s ++ rest).takeWhile p = s := by
  rw [List.takeWhile_append_of_pos run]
  cases rest with
  | nil => simp
  | cons c more => simp [stop c rfl]

theorem dropWhile_run (run : ∀ c ∈ s, p c = true) (stop : ∀ c, rest.head? = some c → p c = false) :
    (s ++ rest).dropWhile p = rest := by
  rw [List.dropWhile_append_of_pos run]
  exact stripStart_eq_self stop

/- Whatever is stripped may stand behind the text. -/
theorem strip_append (snug : Snug p s) (stripped : ∀ c ∈ rest, p c = true) : strip p (s ++ rest) = s := by
  have back : ∀ c, s.reverse.head? = some c → p c = false := by
    intro c last
    rw [List.head?_reverse] at last
    exact snug.last c last
  have front : stripStart p (s ++ rest) = if s.isEmpty then [] else s ++ rest := by
    cases s with
    | nil => exact List.dropWhile_eq_nil_iff.mpr stripped
    | cons c more =>
      have kept := snug.head c rfl
      simp [stripStart, kept]
  rw [strip, front]
  split
  · rename_i empty
    rw [List.isEmpty_iff.mp empty]
    rfl
  · rw [stripEnd, List.reverse_append,
      List.dropWhile_append_of_pos fun c inside => stripped c (List.mem_reverse.mp inside)]
    have kept : s.reverse.dropWhile p = s.reverse := stripStart_eq_self back
    rw [kept, List.reverse_reverse]

theorem strip_eq_self (snug : Snug p s) : strip p s = s := by
  have nothing : ∀ c ∈ ([] : List Char), p c = true := by simp
  simpa using strip_append snug nothing

theorem strip_around {before : List Char} (snug : Snug p s) (blank : ∀ c ∈ before, p c = true)
    (stripped : ∀ c ∈ rest, p c = true) : strip p (before ++ (s ++ rest)) = s := by
  have start : stripStart p (before ++ (s ++ rest)) = stripStart p (s ++ rest) := List.dropWhile_append_of_pos blank
  rw [strip, start]
  exact strip_append snug stripped

theorem not_of_head?_dropWhile {c : Char} (first : (s.dropWhile p).head? = some c) : p c = false := by
  have kept := List.head?_dropWhile_not p s
  rwa [first] at kept

/- What is stripped stands around what is left. -/
theorem exists_strip (p : Char → Bool) (s : List Char) : ∃ before after, s = before ++ (strip p s ++ after) ∧
    (∀ c ∈ before, p c = true) ∧ (∀ c ∈ after, p c = true) ∧ Snug p (strip p s) := by
  obtain ⟨start, begins⟩ : ∃ start, stripStart p s = start := ⟨_, rfl⟩
  have whole : start = stripEnd p start ++ (start.reverse.takeWhile p).reverse := by
    rw [stripEnd, ← List.reverse_append, List.takeWhile_append_dropWhile, List.reverse_reverse]
  refine ⟨s.takeWhile p, (start.reverse.takeWhile p).reverse, ?_, fun c => List.mem_takeWhile_imp, ?_, ?_, ?_⟩
  · rw [strip, begins, ← whole, ← begins]
    exact List.takeWhile_append_dropWhile.symm
  · intro c inside
    exact List.mem_takeWhile_imp (List.mem_reverse.mp inside)
  · intro c first
    rw [strip, begins] at first
    have head : start.head? = some c := by
      rw [whole, List.head?_append, first]
      rfl
    rw [← begins] at head
    exact not_of_head?_dropWhile head
  · intro c last
    rw [strip, begins, stripEnd, List.getLast?_reverse] at last
    exact not_of_head?_dropWhile last

theorem occursIn_iff (part s : List Char) : occursIn part s = true ↔ part <:+: s := by
  induction s with
  | nil => simp [occursIn]
  | cons c s ih => rw [occursIn, Bool.or_eq_true, List.isPrefixOf_iff_prefix, ih, List.infix_cons_iff]

section Splitting

variable {c : Char} {more : List Char}

/- A separator is looked for only where its first character stands. -/
theorem splitFrom_free (free : c ∉ s) (piece : List Char) :
    splitFrom (c :: more) 0 piece (s ++ rest) = splitFrom (c :: more) 0 (s.reverse ++ piece) rest := by
  induction s generalizing piece with
  | nil => rfl
  | cons x s ih =>
    have other : c ≠ x := fun same => free (same ▸ List.mem_cons_self)
    have later := ih (fun inside => free (List.mem_cons_of_mem x inside)) (x :: piece)
    have passed : (c :: more).isPrefixOf (x :: (s ++ rest)) = false := by simp [List.isPrefixOf, other]
    simpa [splitFrom, passed] using later

theorem splitFrom_skip (sep piece s rest : List Char) :
    splitFrom sep s.length piece (s ++ rest) = splitFrom sep 0 piece rest := by
  induction s with
  | nil => rfl
  | cons x s ih => simpa [splitFrom] using ih

theorem splitFrom_sep (piece : List Char) :
    splitFrom (c :: more) 0 piece (c :: more ++ rest) = piece.reverse :: splitFrom (c :: more) 0 [] rest := by
  have found : (c :: more).isPrefixOf (c :: (more ++ rest)) = true := by simp [List.isPrefixOf]
  have skipped := splitFrom_skip (c :: more) [] more rest
  simpa [splitFrom, found] using skipped

/- The pieces come back. The first character of the separator alone, at the end, stays with the last one. -/
theorem splitFrom_pieces (c d : Char) (more : List Char) {pieces : List (List Char)}
    (free : ∀ piece ∈ pieces, c ∉ piece) (first : List Char) :
    List.Forall₂ (fun part piece => part = piece ∨ part = piece ++ [c])
      (splitFrom (c :: d :: more) 0 first.reverse (pieces.flatMap (c :: d :: more ++ ·) ++ [c])) (first :: pieces) := by
  induction pieces generalizing first with
  | nil =>
    have whole : splitFrom (c :: d :: more) 0 first.reverse [c] = [first ++ [c]] := by
      simp [splitFrom, List.isPrefixOf]
    simp only [List.flatMap_nil, List.nil_append, whole]
    exact .cons (.inr rfl) .nil
  | cons piece pieces ih =>
    have clean := free piece List.mem_cons_self
    have later := ih (fun other inside => free other (List.mem_cons_of_mem piece inside)) piece
    have cut : splitFrom (c :: d :: more) 0 first.reverse
        ((piece :: pieces).flatMap (c :: d :: more ++ ·) ++ [c]) =
          first :: splitFrom (c :: d :: more) 0 piece.reverse (pieces.flatMap (c :: d :: more ++ ·) ++ [c]) := by
      rw [List.flatMap_cons, List.append_assoc, List.append_assoc, splitFrom_sep, splitFrom_free clean,
        List.reverse_reverse, List.append_nil]
    rw [cut]
    exact .cons (.inl rfl) later

/- Otherwise the separator would reach into the next one, and so hold its first character twice. -/
theorem not_prefix_before (once : c ∉ more) {piece : List Char} {x : Char} (free : ¬ c :: more <:+: x :: piece)
    {next : List Char} (starts : next.head? = some c) : (c :: more).isPrefixOf (x :: piece ++ next) = false := by
  rw [Bool.eq_false_iff, ne_eq, List.isPrefixOf_iff_prefix]
  intro found
  rcases List.prefix_or_prefix_of_prefix found (List.prefix_append (x :: piece) next) with inside | ⟨behind, whole⟩
  · exact free inside.isInfix
  · rw [← whole, List.prefix_append_right_inj] at found
    cases behind with
    | nil =>
      rw [List.append_nil] at whole
      exact free (whole ▸ List.infix_refl (x :: piece))
    | cons d behind =>
      obtain ⟨after, rfl⟩ := found
      have same : d = c := Option.some.inj starts
      have tail : piece ++ d :: behind = more := (List.cons.inj whole).2
      apply once
      rw [← tail, same]
      exact List.mem_append_right piece List.mem_cons_self

theorem splitFrom_piece (once : c ∉ more) {piece : List Char} (free : ¬ c :: more <:+: piece) (before : List Char) :
    splitFrom (c :: more) 0 before (piece ++ (c :: more ++ rest)) =
      (before.reverse ++ piece) :: splitFrom (c :: more) 0 [] rest := by
  induction piece generalizing before with
  | nil => simpa using splitFrom_sep before
  | cons x piece ih =>
    have starts : (c :: (more ++ rest)).head? = some c := rfl
    have passed := not_prefix_before once free starts
    have later := ih (fun inside => free (inside.trans (List.suffix_cons x piece).isInfix)) (x :: before)
    rw [List.cons_append] at passed
    rw [List.cons_append, splitFrom, List.cons_append, passed]
    simpa using later

theorem splitFrom_last {sep piece : List Char} (free : ¬ sep <:+: piece) (before : List Char) :
    splitFrom sep 0 before piece = [before.reverse ++ piece] := by
  induction piece generalizing before with
  | nil => simp [splitFrom]
  | cons x piece ih =>
    have passed : sep.isPrefixOf (x :: piece) = false := by
      rw [Bool.eq_false_iff, ne_eq, List.isPrefixOf_iff_prefix]
      exact fun found => free found.isInfix
    have later := ih (fun inside => free (inside.trans (List.suffix_cons x piece).isInfix)) (x :: before)
    simpa [splitFrom, passed] using later

theorem splitOn_intercalate (once : c ∉ more) {pieces : List (List Char)} (filled : pieces ≠ [])
    (free : ∀ piece ∈ pieces, ¬ c :: more <:+: piece) :
    splitOn (c :: more) ((c :: more).intercalate pieces) = pieces := by
  unfold splitOn
  induction pieces with
  | nil => exact absurd rfl filled
  | cons piece pieces ih =>
    have first := free piece List.mem_cons_self
    cases pieces with
    | nil => simpa using splitFrom_last first []
    | cons next pieces =>
      have later := ih (List.cons_ne_nil _ _) fun other inside => free other (List.mem_cons_of_mem piece inside)
      rw [List.intercalate_cons_cons, List.append_assoc, splitFrom_piece once first, later]
      rfl

/- Of several places where a separator stands one is the first. -/
theorem exists_first {sep : List Char} (filled : sep ≠ []) (found : sep <:+: s) :
    ∃ before after, before ++ sep ++ after = s ∧ ¬ sep <:+: before := by
  induction size : s.length using Nat.strongRecOn generalizing s with
  | ind n ih =>
    obtain ⟨before, after, whole⟩ := found
    by_cases earlier : sep <:+: before
    · have shorter : before.length < n := by
        have some := List.length_pos_of_ne_nil filled
        have lengths := congrArg List.length whole
        simp only [List.length_append] at lengths
        omega
      obtain ⟨front, back, rfl, free⟩ := ih before.length shorter earlier rfl
      exact ⟨front, back ++ sep ++ after, by simpa using whole, free⟩
    · exact ⟨before, after, whole, earlier⟩

theorem exists_pieces {sep : List Char} (filled : sep ≠ []) (s : List Char) :
    ∃ pieces, pieces ≠ [] ∧ sep.intercalate pieces = s ∧ ∀ piece ∈ pieces, ¬ sep <:+: piece := by
  induction size : s.length using Nat.strongRecOn generalizing s with
  | ind n ih =>
    by_cases found : sep <:+: s
    · obtain ⟨before, after, rfl, free⟩ := exists_first filled found
      have shorter : after.length < n := by
        have some := List.length_pos_of_ne_nil filled
        simp only [List.length_append] at size
        omega
      obtain ⟨pieces, more, joined, clean⟩ := ih after.length shorter after rfl
      refine ⟨before :: pieces, List.cons_ne_nil _ _, ?_, List.forall_mem_cons.mpr ⟨free, clean⟩⟩
      rw [List.intercalate_cons_of_ne_nil more, joined]
    · exact ⟨[s], List.cons_ne_nil _ _, List.intercalate_singleton, List.forall_mem_singleton.mpr found⟩

/-- The pieces of a text are those that give it when they are put together with the separator and do not hold it. -/
theorem splitOn_eq_iff (once : c ∉ more) (s : List Char) (pieces : List (List Char)) :
    splitOn (c :: more) s = pieces ↔
      pieces ≠ [] ∧ (c :: more).intercalate pieces = s ∧ ∀ piece ∈ pieces, ¬ c :: more <:+: piece := by
  constructor
  · rintro rfl
    obtain ⟨pieces, filled, rfl, free⟩ := exists_pieces (List.cons_ne_nil c more) s
    rw [splitOn_intercalate once filled free]
    exact ⟨filled, rfl, free⟩
  · rintro ⟨filled, rfl, free⟩
    exact splitOn_intercalate once filled free

end Splitting

end CBindings.Text
