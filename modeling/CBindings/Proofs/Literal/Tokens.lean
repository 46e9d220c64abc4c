import CBindings.Proofs.Literal.Oversized
import CBindings.Proofs.Text.Cutting

/-! Token lists that spell out a literal: one number or character, a signed number, or adjacent strings, in any number
of parentheses. The parentheses around all tokens never count, whatever they stand around. -/
namespace CBindings.Literal

/-- Tokens in so many pairs of parentheses. -/
def enclosed (depth : Nat) (tokens : List String) : List String :=
  List.replicate depth "(" ++ tokens ++ List.replicate depth ")"

/-- What stands inside the parentheses of a literal, and what it is read as. -/
inductive Core : List String → Parsed → Prop
  | number {t : String} {p : Parsed} (read : readNumber t.toList = .ok (some p)) : Core [t] p
  | char {t : String} {p : Parsed} (read : readChar t.toList = some p) : Core [t] p
  | positive {t : String} {p : Parsed} (read : readNumber t.toList = .ok (some p)) : Core ["+", t] p
  | negative {t : String} {p : Parsed} (read : readNumber t.toList = .ok (some p)) : Core ["-", t] (p.1.neg, p.2)
  | strings {ts : List String} {p : Parsed} (nonempty : ts ≠ []) (read : readStrings (ts.map String.toList) = some p) :
      Core ts p

variable {tokens core ts rest : List String} {p : Parsed} {t : String}

/-- There are tokens, and none of them is a parenthesis. -/
structure Bare (tokens : List String) : Prop where
  nonempty : tokens ≠ []
  noOpening : "(" ∉ tokens
  noClosing : ")" ∉ tokens

theorem enclosed_succ (depth : Nat) (tokens : List String) :
    enclosed (depth + 1) tokens = "(" :: enclosed depth tokens ++ [")"] := by
  rw [enclosed, enclosed, List.replicate_succ, List.replicate_succ']
  simp

section Stripping

theorem closesEarly_step (depth : Nat) (t : String) (more : rest ≠ []) :
    closesEarly depth (t :: rest) =
      let depth := if t == "(" then depth + 1 else if t == ")" then depth - 1 else depth
      depth == 0 || closesEarly depth rest := by
  cases rest with
  | nil => exact absurd rfl more
  | cons t' rest => rfl

theorem closesEarly_opening (opened depth : Nat) (more : rest ≠ []) :
    closesEarly depth (List.replicate opened "(" ++ rest) = closesEarly (depth + opened) rest := by
  induction opened generalizing depth with
  | zero => rfl
  | succ opened ih =>
    rw [List.replicate_succ, List.cons_append, closesEarly_step depth "(" (by simp [more])]
    simp [ih, Nat.add_assoc, Nat.add_comm 1]

theorem closesEarly_bare {depth : Nat} (opened : depth ≠ 0) (noOpening : "(" ∉ core) (noClosing : ")" ∉ core)
    (more : rest ≠ []) : closesEarly depth (core ++ rest) = closesEarly depth rest := by
  induction core with
  | nil => rfl
  | cons t core ih =>
    have later := ih (fun inside => noOpening (.tail t inside)) (fun inside => noClosing (.tail t inside))
    have plain : t ≠ "(" ∧ t ≠ ")" :=
      ⟨fun same => noOpening (same ▸ .head core), fun same => noClosing (same ▸ .head core)⟩
    rw [List.cons_append, closesEarly_step depth t (by simp [more])]
    simp [plain, opened, later]

theorem closesEarly_closing {closed depth : Nat} (enough : closed ≤ depth) :
    closesEarly depth (List.replicate closed ")") = false := by
  induction closed generalizing depth with
  | zero => rfl
  | succ closed ih =>
    cases closed with
    | zero => rfl
    | succ closed =>
      have later : closesEarly (depth - 1) (List.replicate (closed + 1) ")") = false := ih (by omega)
      have opened : depth - 1 ≠ 0 := by omega
      rw [List.replicate_succ, closesEarly_step depth ")" (by simp [List.replicate_succ])]
      simpa [opened] using later

/- The first parenthesis is closed by the last one. -/
theorem closesEarly_enclosed (bare : Bare core) (depth : Nat) :
    closesEarly 0 ("(" :: enclosed depth core ++ [")"]) = false := by
  have closing : List.replicate (depth + 1) ")" ≠ [] := by simp
  have all : "(" :: enclosed depth core ++ [")"] =
      List.replicate (depth + 1) "(" ++ (core ++ List.replicate (depth + 1) ")") := by
    rw [← enclosed_succ, enclosed, List.append_assoc]
  rw [all, closesEarly_opening _ _ (by simp [bare.nonempty]),
    closesEarly_bare (by omega) bare.noOpening bare.noClosing closing]
  exact closesEarly_closing (by omega)

theorem stripParentheses_wrapped (some : tokens ≠ []) (around : closesEarly 0 ("(" :: tokens ++ [")"]) = false) :
    stripParentheses ("(" :: tokens ++ [")"]) = stripParentheses tokens := by
  have long := List.length_pos_of_ne_nil some
  rw [stripParentheses, dif_pos]
  · simp
  · refine ⟨by simp; omega, rfl, List.getLast?_concat .., by rw [around]; rfl⟩

theorem stripParentheses_enclosed (bare : Bare core) (depth : Nat) :
    stripParentheses (enclosed depth core) = core := by
  induction depth with
  | zero =>
    have first : core.head? ≠ some "(" := fun first => bare.noOpening (List.mem_of_head? first)
    rw [stripParentheses, dif_neg]
    · simp [enclosed]
    · simp [enclosed, first]
  | succ depth ih =>
    have some : enclosed depth core ≠ [] := by simp [enclosed, bare.nonempty]
    rw [enclosed_succ, stripParentheses_wrapped some (closesEarly_enclosed bare depth), ih]

/- Nothing but pairs of parentheses is lost. -/
theorem eq_enclosed_stripParentheses (tokens : List String) :
    ∃ depth, tokens = enclosed depth (stripParentheses tokens) := by
  fun_induction stripParentheses tokens with
  | case1 tokens around ih =>
    obtain ⟨depth, inner⟩ := ih
    obtain ⟨long, first, last, -⟩ := around
    refine ⟨depth + 1, ?_⟩
    rw [enclosed_succ, ← inner]
    cases tokens with
    | nil => cases first
    | cons t rest =>
      obtain rfl : t = "(" := Option.some.inj first
      have some : rest ≠ [] := by
        rintro rfl
        simp at long
      rw [List.getLast?_cons_of_ne_nil some] at last
      rw [List.drop_one, List.tail_cons, List.cons_append, List.dropLast_append_getLast? _ last]
  | case2 tokens => exact ⟨0, by simp [enclosed]⟩

end Stripping

section Reading

variable {s body : List Char} {c quote : Char}

/-- Neither a number nor white space before one begins with the character. -/
def beginsNoNumber (c : Char) : Bool :=
  c.toNat < 127 && !Text.isPlainBlank c && !Text.isDigit c && !c.isDigit && !(['_', '+', '-', '.'].contains c) &&
    !(['0', 'i', 'n'].contains c.toLower)

theorem inAscii_head (low : c.toNat < 127) (rest : List Char) :
    Number.inAscii (c :: rest) = (Number.inAscii rest).map (c :: ·) := by
  have ascii : c.toNat < 128 := by omega
  simp only [Number.inAscii, List.all_cons, ascii, decide_true, Bool.true_and, List.mapM_cons, low, if_true,
    Option.bind_eq_bind, Option.bind_some]
  split
  · rfl
  · rw [Option.map_eq_bind]
    rfl

/- The text keeps its first character up to the place where digits are looked for. -/
theorem readDecimal_of_head (head : beginsNoNumber c = true) (rest : List Char) :
    Number.readDecimal (c :: rest) = none := by
  simp only [beginsNoNumber, List.contains_cons, List.contains_nil, Bool.or_false, Bool.not_or, Bool.and_eq_true,
    decide_eq_true_eq, Bool.not_eq_true', beq_eq_false_iff_ne] at head
  obtain ⟨⟨⟨⟨⟨low, blank⟩, -⟩, digit⟩, underscore, plus, minus, point⟩, -, letter, letter'⟩ := head
  have begins (s : List Char) : Number.dropUnderscores ' ' (c :: s) = (Number.dropUnderscores c s).map (c :: ·) := by
    simp [Number.dropUnderscores, underscore]
  have unsigned (s : List Char) : Number.splitSign (c :: s) = (false, c :: s) := by
    simp [Number.splitSign, plus, minus]
  have noDigits (s : List Char) : Number.splitPoint Char.isDigit (c :: s) = ([], [], c :: s) := by
    simp [Number.splitPoint, digit, point]
  rw [Number.readDecimal, inAscii_head low]
  cases Number.inAscii rest with
  | none => rfl
  | some s =>
    simp only [Option.map_some, Option.bind_eq_bind, Option.bind_some, Text.strip, Text.stripStart, List.dropWhile_cons,
      blank, Bool.false_eq_true, if_false, Text.stripEnd_cons blank, begins]
    cases Number.dropUnderscores c (Text.stripEnd Text.isPlainBlank s) with
    | none => rfl
    | some s => simp [unsigned, noDigits, letter, letter']

theorem dropFloatSuffix_start (s : List Char) : dropFloatSuffix s <+: s := by
  unfold dropFloatSuffix
  split
  · split
    · exact List.dropLast_prefix s
    · exact List.prefix_rfl
  · exact List.prefix_rfl

theorem dropSuffix_start (s : List Char) : dropSuffix s <+: s := by
  unfold dropSuffix
  dsimp only
  split
  · exact List.take_prefix _ s
  · exact List.prefix_rfl

theorem readWhole_of_head (head : beginsNoNumber c = true) (rest : List Char) : readWhole (c :: rest) = none := by
  simp only [beginsNoNumber, List.contains_cons, List.contains_nil, Bool.or_false, Bool.not_or, Bool.and_eq_true,
    decide_eq_true_eq, Bool.not_eq_true', beq_eq_false_iff_ne] at head
  obtain ⟨⟨⟨⟨-, digit⟩, -⟩, -⟩, zero, -⟩ := head
  have other : c ≠ '0' := by
    rintro rfl
    exact zero rfl
  have noMark : isHexadecimal (c :: rest) = false ∧ isBinary (c :: rest) = false := by
    simp [isHexadecimal, isBinary, List.isPrefixOf, Ne.symm zero]
  rcases List.prefix_cons_iff.mp (dropSuffix_start (c :: rest)) with empty | ⟨more, starts, -⟩
  · simp [readWhole, noMark, empty]
  · simp [readWhole, noMark, starts, other, digit]

theorem readNumber_of_head (head : beginsNoNumber c = true) (rest : List Char) :
    readNumber (c :: rest) = .ok none := by
  have zero : c.toLower ≠ '0' := by
    intro same
    simp [beginsNoNumber, same] at head
  have noMark : isHexadecimal (c :: rest) = false := by simp [isHexadecimal, List.isPrefixOf, Ne.symm zero]
  have fraction : readFraction (c :: rest) = .ok none := by
    rcases List.prefix_cons_iff.mp (dropFloatSuffix_start (c :: rest)) with empty | ⟨more, starts, -⟩
    · simp [readFraction, noMark, empty, Number.readDecimal, Number.inAscii, Text.strip, Text.stripStart, Text.stripEnd,
        Number.dropUnderscores, Number.splitSign, Number.splitPoint]
    · simp [readFraction, noMark, starts, readDecimal_of_head head]
  rw [readNumber, fraction, readWhole_of_head head]
  split
  · rfl
  · rfl

/- A quoted token has its quote behind the encoding mark. -/
theorem dropEncoding_some (dropped : dropEncoding quote s = some body) :
    ∃ mark ∈ encodingMarks, s = mark.toList ++ body ∧ body.head? = some quote := by
  simp only [dropEncoding, Option.map_eq_some_iff] at dropped
  obtain ⟨mark, found, rfl⟩ := dropped
  have fits := List.find?_some found
  simp only [Bool.and_eq_true, List.isPrefixOf_iff_prefix] at fits
  obtain ⟨rest, rfl⟩ := fits.1.1
  have rest' : ((mark.toList ++ [quote]) ++ rest).drop mark.length = quote :: rest := by
    rw [List.append_assoc, ← String.length_toList, List.drop_left]
    rfl
  exact ⟨mark, List.mem_of_find?_eq_some found, by rw [rest', List.append_assoc]; rfl, by rw [rest']; rfl⟩

theorem readNumber_of_dropEncoding (quoted : quote = '\'' ∨ quote = '"') (dropped : dropEncoding quote s = some body) :
    readNumber s = .ok none := by
  obtain ⟨mark, known, rfl, first⟩ := dropEncoding_some dropped
  obtain ⟨rest, rfl⟩ := List.head?_eq_some_iff.mp first
  simp only [encodingMarks, List.mem_cons, List.not_mem_nil, or_false] at known
  rcases known with rfl | rfl | rfl | rfl | rfl
  · rcases quoted with rfl | rfl
    · exact readNumber_of_head (by decide) _
    · exact readNumber_of_head (by decide) _
  · exact readNumber_of_head (by decide) _
  · exact readNumber_of_head (by decide) _
  · exact readNumber_of_head (by decide) _
  · exact readNumber_of_head (by decide) _

/- No encoding mark holds a quote. -/
theorem firstQuote_of_dropEncoding (quoted : quote = '\'' ∨ quote = '"') (dropped : dropEncoding quote s = some body) :
    s.find? (fun c => c == '\'' || c == '"') = some quote := by
  obtain ⟨mark, known, rfl, first⟩ := dropEncoding_some dropped
  obtain ⟨rest, rfl⟩ := List.head?_eq_some_iff.mp first
  have free : ∀ mark ∈ encodingMarks, mark.toList.find? (fun c => c == '\'' || c == '"') = none := by decide
  rw [List.find?_append, free mark known]
  rcases quoted with rfl | rfl
  · rfl
  · rfl

theorem mem_of_mapM {α β : Type} {f : α → Option β} {xs : List α} {ys : List β} (read : xs.mapM f = some ys) {x : α}
    (inside : x ∈ xs) : ∃ y, f x = some y := by
  induction xs generalizing ys with
  | nil => cases inside
  | cons x' xs ih =>
    simp only [List.mapM_cons, Option.bind_eq_bind, Option.bind_eq_some_iff] at read
    obtain ⟨y, first, ys', later, -⟩ := read
    rcases List.mem_cons.mp inside with rfl | inside
    · exact ⟨y, first⟩
    · exact ih later inside

theorem quoted_of_readStrings (read : readStrings (ts.map String.toList) = some p) (inside : t ∈ ts) :
    ∃ body, dropEncoding '"' t.toList = some body := by
  simp only [readStrings, Option.bind_eq_bind, Option.bind_eq_some_iff] at read
  obtain ⟨parts, each, -⟩ := read
  obtain ⟨part, whole⟩ := mem_of_mapM each (List.mem_map_of_mem inside)
  obtain ⟨body, dropped, -⟩ := Option.bind_eq_some_iff.mp whole
  exact ⟨body, dropped⟩

theorem quoted_of_readChar (read : readChar s = some p) : ∃ body, dropEncoding '\'' s = some body := by
  simp only [readChar, Option.bind_eq_bind, Option.bind_eq_some_iff] at read
  obtain ⟨body, dropped, -⟩ := read
  exact ⟨body, dropped⟩

end Reading

section Grammar

theorem not_parenthesis_of_number (read : readNumber t.toList ≠ .ok none) : t ≠ "(" ∧ t ≠ ")" := by
  constructor
  · rintro rfl
    exact read (readNumber_of_head (by decide) [])
  · rintro rfl
    exact read (readNumber_of_head (by decide) [])

theorem not_parenthesis_of_quoted {quote : Char} {body : List Char} (quoted : quote = '\'' ∨ quote = '"')
    (dropped : dropEncoding quote t.toList = some body) : t ≠ "(" ∧ t ≠ ")" ∧ t ≠ "-" ∧ t ≠ "+" := by
  refine ⟨?_, ?_, ?_, ?_⟩ <;>
  · rintro rfl
    rcases quoted with rfl | rfl
    · cases dropped
    · cases dropped

theorem bare_single (plain : t ≠ "(" ∧ t ≠ ")") : Bare [t] :=
  ⟨by simp, by simp [Ne.symm plain.1], by simp [Ne.symm plain.2]⟩

theorem bare_signed {sign : String} (signs : sign = "-" ∨ sign = "+") (plain : t ≠ "(" ∧ t ≠ ")") : Bare [sign, t] := by
  rcases signs with rfl | rfl
  · exact ⟨by simp, by simp [Ne.symm plain.1], by simp [Ne.symm plain.2]⟩
  · exact ⟨by simp, by simp [Ne.symm plain.1], by simp [Ne.symm plain.2]⟩

theorem Core.bare (spelled : Core core p) : Bare core := by
  cases spelled with
  | number read => exact bare_single (not_parenthesis_of_number (by simp [read]))
  | char read =>
    obtain ⟨body, dropped⟩ := quoted_of_readChar read
    have plain := not_parenthesis_of_quoted (.inl rfl) dropped
    exact bare_single ⟨plain.1, plain.2.1⟩
  | positive read => exact bare_signed (.inr rfl) (not_parenthesis_of_number (by simp [read]))
  | negative read => exact bare_signed (.inl rfl) (not_parenthesis_of_number (by simp [read]))
  | strings nonempty read =>
    refine ⟨nonempty, fun inside => ?_, fun inside => ?_⟩
    · obtain ⟨body, dropped⟩ := quoted_of_readStrings read inside
      exact (not_parenthesis_of_quoted (.inr rfl) dropped).1 rfl
    · obtain ⟨body, dropped⟩ := quoted_of_readStrings read inside
      exact (not_parenthesis_of_quoted (.inr rfl) dropped).2.1 rfl

/- The three kinds of literal do not overlap, so the order in which they are tried does not show. -/
theorem ofTokens_of_core (spelled : Core core p) (inner : stripParentheses tokens = core) :
    ofTokens tokens = .ok (some p) := by
  unfold ofTokens
  rw [inner]
  cases spelled with
  | number read => simp [read, bind, Except.bind, pure, Except.pure]
  | @char t p read =>
    obtain ⟨body, dropped⟩ := quoted_of_readChar read
    have none := readNumber_of_dropEncoding (.inl rfl) dropped
    simp [none, read, bind, Except.bind, pure, Except.pure]
  | positive read => simp [read, bind, Except.bind, pure, Except.pure]
  | negative read => simp [read, bind, Except.bind, pure, Except.pure]
  | strings nonempty read =>
    split
    · exact absurd rfl nonempty
    · rename_i t
      obtain ⟨body, dropped⟩ := quoted_of_readStrings read (List.mem_singleton_self t)
      have none := readNumber_of_dropEncoding (.inr rfl) dropped
      have noChar : readChar t.toList = .none := by
        rw [Option.eq_none_iff_forall_ne_some]
        intro q char
        obtain ⟨body', dropped'⟩ := quoted_of_readChar char
        have double := firstQuote_of_dropEncoding (.inr rfl) dropped
        rw [firstQuote_of_dropEncoding (.inl rfl) dropped'] at double
        exact absurd double (by decide)
      simpa [none, noChar, bind, Except.bind, pure, Except.pure] using read
    · rename_i sign t
      obtain ⟨body, dropped⟩ := quoted_of_readStrings read List.mem_cons_self
      have plain := not_parenthesis_of_quoted (.inr rfl) dropped
      simpa [plain] using read
    · rw [read]

theorem core_of_ofTokens (read : ofTokens tokens = .ok (some p)) : Core (stripParentheses tokens) p := by
  unfold ofTokens at read
  split at read
  · cases read
  · rename_i t inner
    rw [inner]
    obtain ⟨found, number, rest⟩ := Outcome.bind_eq_ok_iff.mp read
    cases found with
    | some q =>
      obtain rfl : q = p := Option.some.inj (Except.ok.inj rest)
      exact .number number
    | none =>
      cases char : readChar t.toList with
      | some q =>
        rw [char] at rest
        obtain rfl : q = p := Option.some.inj (Except.ok.inj rest)
        exact .char char
      | none =>
        rw [char] at rest
        exact .strings (List.cons_ne_nil t []) (Except.ok.inj rest)
  · rename_i sign t inner
    rw [inner]
    split at read
    · rename_i signs
      obtain ⟨found, number, rest⟩ := Outcome.bind_eq_ok_iff.mp read
      obtain ⟨q, rfl, rfl⟩ := Option.map_eq_some_iff.mp (Except.ok.inj rest)
      simp only [Bool.or_eq_true, beq_iff_eq] at signs
      rcases signs with rfl | rfl
      · exact .negative number
      · exact .positive number
    · exact .strings (List.cons_ne_nil sign [t]) (Except.ok.inj read)
  · rename_i nonempty _ _
    exact .strings nonempty (Except.ok.inj read)

/- Whatever is not simply unread has no parentheses inside. -/
theorem bare_of_answer (answer : ofTokens tokens ≠ .ok none) : Bare (stripParentheses tokens) := by
  cases read : ofTokens tokens with
  | ok found =>
    cases found with
    | none => exact absurd read answer
    | some p => exact (core_of_ofTokens read).bare
  | error f =>
    cases f with
    | floatTooLarge =>
      obtain ⟨t, oversized, inner⟩ := (ofTokens_error_iff tokens).mp read
      have fails := (readNumber_error_iff t.toList).mpr oversized
      have plain := not_parenthesis_of_number (t := t) (by simp [fails])
      rcases inner with inner | inner | inner
      · exact inner ▸ bare_single plain
      · exact inner ▸ bare_signed (.inl rfl) plain
      · exact inner ▸ bare_signed (.inr rfl) plain

theorem unread_of_kept (kept : stripParentheses ("(" :: rest) = "(" :: rest) : ofTokens ("(" :: rest) = .ok none := by
  apply Classical.byContradiction
  intro answer
  have bare := bare_of_answer answer
  rw [kept] at bare
  exact bare.noOpening List.mem_cons_self

/- Parentheses that belong together go away. Those that do not hide a literal neither with nor without one pair more. -/
theorem ofTokens_wrapped (tokens : List String) : ofTokens ("(" :: tokens ++ [")"]) = ofTokens tokens := by
  cases early : closesEarly 0 ("(" :: tokens ++ [")"]) with
  | false =>
    cases tokens with
    | nil =>
      have unread : ofTokens [] = .ok none := by simp [ofTokens, stripParentheses]
      rw [unread]
      exact unread_of_kept (by simp [stripParentheses])
    | cons t rest =>
      have inner := stripParentheses_wrapped (List.cons_ne_nil t rest) early
      unfold ofTokens
      rw [inner]
  | true =>
    have unread : ofTokens tokens = .ok none := by
      apply Classical.byContradiction
      intro answer
      obtain ⟨depth, whole⟩ := eq_enclosed_stripParentheses tokens
      rw [whole, closesEarly_enclosed (bare_of_answer answer) depth] at early
      cases early
    have kept : stripParentheses ("(" :: tokens ++ [")"]) = "(" :: tokens ++ [")"] := by
      rw [stripParentheses, dif_neg]
      rintro ⟨-, -, -, around⟩
      rw [early] at around
      cases around
    rw [unread]
    exact unread_of_kept kept

/-- Tokens are read as a value exactly if they are a core in so many parentheses, and the value is that of the core.
Only a number that cannot be read makes them fail, and further parentheses around them change nothing. -/
theorem ofTokens_iff_enclosed (tokens : List String) :
    (∀ p, ofTokens tokens = .ok (some p) ↔ ∃ depth core, tokens = enclosed depth core ∧ Core core p) ∧
      (∀ f, ofTokens tokens = .error f → ∃ t ∈ tokens, readNumber t.toList = .error f) ∧
      ∀ depth, ofTokens (enclosed depth tokens) = ofTokens tokens := by
  refine ⟨fun p => ⟨?_, ?_⟩, ?_, ?_⟩
  · intro read
    obtain ⟨depth, whole⟩ := eq_enclosed_stripParentheses tokens
    exact ⟨depth, _, whole, core_of_ofTokens read⟩
  · rintro ⟨depth, core, rfl, spelled⟩
    exact ofTokens_of_core spelled (stripParentheses_enclosed spelled.bare depth)
  · rintro ⟨⟩ read
    obtain ⟨t, oversized, inner⟩ := (ofTokens_error_iff tokens).mp read
    obtain ⟨depth, whole⟩ := eq_enclosed_stripParentheses tokens
    refine ⟨t, ?_, (readNumber_error_iff t.toList).mpr oversized⟩
    rw [whole, enclosed]
    rcases inner with inner | inner | inner
    · simp [inner]
    · simp [inner]
    · simp [inner]
  · intro depth
    induction depth with
    | zero => simp [enclosed]
    | succ depth ih => rw [enclosed_succ, ofTokens_wrapped, ih]

end Grammar

end CBindings.Literal
