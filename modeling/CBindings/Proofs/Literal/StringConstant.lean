import CBindings.Proofs.Literal.Escapes

/-! What a string literal of C is read as. The text is the one that its bytes are in UTF-8 if every escape is read as
its byte. An escaped backslash in front of a `u` looks like the escape of a code point; then every byte is read as
the character of its number instead. -/
namespace CBindings.Literal

variable {c : Char} {e : Element} {es : List Element} {ns : List Nat}

section Numbers

/- Two hexadecimal digits make a byte. -/
theorem ofDigits_pair_lt {a b : Char} {x y : Nat} (first : Number.IsDigit 16 a x) (second : Number.IsDigit 16 b y) :
    Nat.ofDigits 16 [y, x] < 256 := by
  have small := first.1
  have small' := second.1
  simp only [Nat.ofDigits_cons, Nat.ofDigits_nil]
  omega

theorem Element.byte_lt (e : Element) : e.byte < 256 := by
  cases e with
  | plain c ascii => exact Nat.lt_trans ascii (by decide)
  | simple letter byte listed =>
    have bytes : ∀ p ∈ simpleEscapes, p.2 < 256 := by decide
    exact bytes _ listed
  | octal chars digits spelled short fits => exact fits
  | hexadecimal chars digits spelled nonempty fits => exact fits

theorem Element.numbers_eq (complete : e.Complete) (exact : e.Exact) : e.numbers = [e.byte] := by
  cases e with
  | plain => rfl
  | simple letter byte listed => exact if_neg exact
  | octal => rfl
  | hexadecimal chars digits spelled =>
    have two : digits.length = 2 := Nat.le_antisymm exact complete
    have drop : chars.drop 2 = [] := List.drop_eq_nil_of_le (by rw [spelled.length_eq, two])
    simp [numbers, byte, drop, List.take_of_length_le exact]

/- Digits that a hexadecimal escape does not take are read as characters. Its value is a byte, so the first two of
more than two are no more than 15 together, and are read as a character of ASCII too. -/
theorem Element.numbers_inexact (inexact : ¬ e.Exact) : 2 ≤ e.numbers.countP (· < 128) := by
  cases e with
  | plain => exact absurd trivial inexact
  | simple letter byte listed =>
    have mark : letter = '?' := Decidable.not_not.mp inexact
    rw [numbers, if_pos mark]
    decide
  | octal => exact absurd trivial inexact
  | hexadecimal chars digits spelled nonempty fits =>
    rcases spelled with _ | @⟨_, x, _, _, _, _ | @⟨_, y, _, _, _, _ | @⟨c, z, chars, digits, third, _⟩⟩⟩
    · exact absurd (by simp [Exact]) inexact
    · exact absurd (by simp [Exact]) inexact
    · exact absurd (by simp [Exact]) inexact
    · have ascii := ordinary_of_isDigit (by decide) third
      have leading : Nat.ofDigits 16 [z, y, x] ≤ Nat.ofDigits 16 (x :: y :: z :: digits).reverse := by
        rw [List.reverse_cons, List.reverse_cons, List.reverse_cons, List.append_assoc, List.append_assoc,
          Nat.ofDigits_append]
        exact Nat.le_trans (Nat.le_mul_of_pos_left _ (Nat.pow_pos (by decide))) (Nat.le_add_left _ _)
      have small : Nat.ofDigits 16 [y, x] < 128 := by
        simp only [Nat.ofDigits_cons, Nat.ofDigits_nil] at leading ⊢
        omega
      change 2 ≤ (Nat.ofDigits 16 [y, x] :: c.toNat :: chars.map Char.toNat).countP (· < 128)
      simp only [List.countP_cons, small, ascii.2.1, decide_true, if_true]
      omega

theorem Element.numbers_lt (complete : e.Complete) : ∀ n ∈ e.numbers, n < 256 := by
  by_cases exact : e.Exact
  · rw [e.numbers_eq complete exact]
    simpa using e.byte_lt
  · cases e with
    | plain => exact absurd trivial exact
    | simple letter byte listed =>
      rw [numbers, if_pos (Decidable.not_not.mp exact)]
      decide
    | octal => exact absurd trivial exact
    | hexadecimal chars digits spelled =>
      rcases spelled with _ | @⟨a, x, chars, digits, first, _ | @⟨b, y, chars, digits, second, spelled⟩⟩
      · exact absurd complete (by simp [Complete])
      · exact absurd complete (by simp [Complete])
      · change ∀ n ∈ Nat.ofDigits 16 [y, x] :: chars.map Char.toNat, n < 256
        rw [List.forall_mem_cons, List.forall_mem_map]
        refine ⟨ofDigits_pair_lt first second, fun c inside => ?_⟩
        have ascii := ordinary_of_spelled (by decide) spelled c inside
        omega

/- What is read of an inexact element has more characters of ASCII than its byte. -/
theorem countP_byte_le (complete : ∀ e ∈ es, e.Complete) :
    (es.map Element.byte).countP (· < 128) ≤ (es.flatMap Element.numbers).countP (· < 128) ∧
      ((es.map Element.byte).countP (· < 128) = (es.flatMap Element.numbers).countP (· < 128) → ∀ e ∈ es, e.Exact) := by
  induction es with
  | nil => simp
  | cons e es ih =>
    rw [List.forall_mem_cons] at complete
    obtain ⟨fewer, all⟩ := ih complete.2
    rw [List.map_cons, List.flatMap_cons, List.countP_append, List.countP_cons]
    by_cases exact : e.Exact
    · rw [e.numbers_eq complete.1 exact, List.countP_singleton]
      refine ⟨by omega, fun same => List.forall_mem_cons.mpr ⟨exact, all (by omega)⟩⟩
    · have more := Element.numbers_inexact exact
      refine ⟨?_, fun same => ?_⟩
      · split <;> omega
      · split at same <;> omega

end Numbers

section CodePoints

variable {a b : Char} {s rest : List Char}

theorem occursIn_pair :
    Text.occursIn [a, b] (c :: s) = true ↔ c = a ∧ s.head? = some b ∨ Text.occursIn [a, b] s = true := by
  rw [Text.occursIn, Bool.or_eq_true]
  refine or_congr ?_ Iff.rfl
  cases s with
  | nil => simp
  | cons d s => simp [@eq_comm Char a, @eq_comm Char b]

theorem occursIn_skip (other : ∀ c ∈ s, c ≠ a) :
    Text.occursIn [a, b] (s ++ rest) = true ↔ Text.occursIn [a, b] rest = true := by
  induction s with
  | nil => rfl
  | cons c s ih =>
    rw [List.forall_mem_cons] at other
    rw [List.cons_append, occursIn_pair, ih other.2]
    simp [other.1]

/- The second backslash of an escaped one is the only one that a letter can follow. -/
theorem Element.occursIn_text (e : Element) (letter : b = 'u' ∨ b = 'U') :
    Text.occursIn ['\\', b] (e.text ++ rest) = true ↔
      e.text = ['\\', '\\'] ∧ rest.head? = some b ∨ Text.occursIn ['\\', b] rest = true := by
  cases e with
  | plain c ascii free =>
    have other : c ≠ '\\' := fun same => free (by simp [same])
    simp [text, occursIn_pair, other]
  | simple c byte listed =>
    have letters : ∀ p ∈ simpleEscapes, p.1 ≠ 'u' ∧ p.1 ≠ 'U' := by decide
    have other : c ≠ b := by
      rintro rfl
      have apart := letters _ listed
      simp [apart] at letter
    simp [text, occursIn_pair, other]
  | octal chars digits spelled short =>
    rcases spelled with _ | @⟨c, d, chars, digits, digit, spelled⟩
    · exact absurd short.1 (by decide)
    · have other : c ≠ b := by
        have place := (Number.isDigit_iff_toNat (by decide)).mp digit
        rcases letter with rfl | rfl
        · rintro rfl
          simp only [Char.reduceToNat] at place
          omega
        · rintro rfl
          simp only [Char.reduceToNat] at place
          omega
      have notBackslash := (ordinary_of_isDigit (by decide) digit).2.2
      have skip : Text.occursIn ['\\', b] (chars ++ rest) = true ↔ Text.occursIn ['\\', b] rest = true :=
        occursIn_skip fun c inside => (ordinary_of_spelled (by decide) spelled c inside).2.2
      simp [text, occursIn_pair, other, notBackslash, skip]
  | hexadecimal chars digits spelled =>
    have other : 'x' ≠ b := by
      rcases letter with rfl | rfl <;> decide
    have skip : Text.occursIn ['\\', b] (chars ++ rest) = true ↔ Text.occursIn ['\\', b] rest = true :=
      occursIn_skip fun c inside => (ordinary_of_spelled (by decide) spelled c inside).2.2
    simp [text, occursIn_pair, other, skip]

theorem Element.head_text_iff (e : Element) (letter : b = 'u' ∨ b = 'U') :
    (e.text ++ rest).head? = some b ↔ e.text = [b] := by
  have other : '\\' ≠ b := by
    rcases letter with rfl | rfl <;> decide
  cases e with
  | plain => simp [text]
  | simple => simp [text, other]
  | octal => simp [text, other]
  | hexadecimal => simp [text, other]

/-- An escaped backslash in front of the letter. -/
def BackslashBefore (b : Char) (es : List Element) : Prop :=
  ∃ before e f after, es = before ++ e :: f :: after ∧ e.text = ['\\', '\\'] ∧ f.text = [b]

theorem backslashBefore_cons_iff : BackslashBefore b (e :: es) ↔
    e.text = ['\\', '\\'] ∧ (∃ f after, es = f :: after ∧ f.text = [b]) ∨ BackslashBefore b es := by
  constructor
  · rintro ⟨before, e', f, after, whole, backslash, follows⟩
    rcases List.cons_eq_append_iff.mp whole with ⟨rfl, same⟩ | ⟨before, rfl, rfl⟩
    · obtain ⟨rfl, rfl⟩ := List.cons.inj same
      exact .inl ⟨backslash, f, after, rfl, follows⟩
    · exact .inr ⟨before, e', f, after, rfl, backslash, follows⟩
  · rintro (⟨backslash, f, after, rfl, follows⟩ | ⟨before, e', f, after, rfl, backslash, follows⟩)
    · exact ⟨[], e, f, after, rfl, backslash, follows⟩
    · exact ⟨e :: before, e', f, after, rfl, backslash, follows⟩

theorem occursIn_elements_iff (letter : b = 'u' ∨ b = 'U') :
    Text.occursIn ['\\', b] (es.flatMap Element.text ++ ['"']) = true ↔ BackslashBefore b es := by
  induction es with
  | nil => simp [BackslashBefore, Text.occursIn]
  | cons e es ih =>
    rw [List.flatMap_cons, List.append_assoc, e.occursIn_text letter, ih, backslashBefore_cons_iff]
    refine or_congr (and_congr_right fun _ => ?_) Iff.rfl
    cases es with
    | nil =>
      rcases letter with rfl | rfl
      · simp
      · simp
    | cons f after =>
      rw [List.flatMap_cons, List.append_assoc, f.head_text_iff letter]
      simp

end CodePoints

section Texts

variable (small : ∀ n ∈ ns, n < 256)

include small

theorem map_toNat_ofNat : (ns.map Char.ofNat).map Char.toNat = ns := by
  rw [List.map_map, List.map_congr_left fun n inside => ?_, List.map_id]
  exact Text.Utf8.toNat_ofNat_of_valid (.inl (Nat.lt_trans (small n inside) (by decide)))

theorem countP_ofNat : (ns.map Char.ofNat).countP (·.toNat < 128) = ns.countP (· < 128) := by
  rw [List.countP_map]
  refine List.countP_congr fun n inside => ?_
  have valid : n.isValidChar := .inl (Nat.lt_trans (small n inside) (by decide))
  rw [Function.comp_apply, Text.Utf8.toNat_ofNat_of_valid valid]

theorem countP_decode : (Text.Utf8.decode (ns.map Nat.toUInt8)).countP (·.toNat < 128) = ns.countP (· < 128) := by
  rw [List.countP_eq_length_filter, Text.Utf8.filter_ascii_decode, List.length_map, ← List.countP_eq_length_filter,
    List.countP_map]
  refine List.countP_congr fun n inside => ?_
  have same : n.toUInt8.toNat = n := Nat.mod_eq_of_lt (small n inside)
  have place : (128 : UInt8).toNat = 128 := rfl
  rw [Function.comp_apply, decide_eq_true_iff, decide_eq_true_iff, UInt8.lt_iff_toNat_lt, same, place]

end Texts

namespace StringConstant

variable (s : StringConstant)

/-- The text holds what looks like the escape of a code point, an escaped backslash and a `u`. -/
def LooksNamed : Prop := BackslashBefore 'u' s.elements ∨ BackslashBefore 'U' s.elements

/-- The literal is read as C reads it: no escape is read as something else, and no byte as a character of its own
beyond ASCII. -/
structure Faithful : Prop where
  exact : ∀ e ∈ s.elements, e.Exact
  ascii : s.LooksNamed → ∀ b ∈ s.bytes, b < 128

variable {s}

theorem bytes_eq : s.bytes = (s.elements.map Element.byte).map Nat.toUInt8 := by
  rw [bytes, List.map_map]
  rfl

theorem numbers_eq (readable : s.Readable) (exact : ∀ e ∈ s.elements, e.Exact) :
    s.numbers = s.elements.map Element.byte := by
  rw [numbers, ← List.flatMap_singleton' (s.elements.map Element.byte), List.flatMap_map]
  exact List.flatMap_congr fun e inside => e.numbers_eq (readable.complete e inside) (exact e inside)

theorem numbers_lt (readable : s.Readable) : ∀ n ∈ s.numbers, n < 256 := by
  intro n inside
  obtain ⟨e, member, inside⟩ := List.mem_flatMap.mp inside
  exact e.numbers_lt (readable.complete e member) n inside

theorem looksNamed_iff :
    (Text.occursIn ['\\', 'u'] s.text || Text.occursIn ['\\', 'U'] s.text) = true ↔ s.LooksNamed := by
  rw [Bool.or_eq_true, text, occursIn_pair, occursIn_pair, body, occursIn_elements_iff (.inl rfl),
    occursIn_elements_iff (.inr rfl)]
  simp [LooksNamed]

theorem flatMap_escapeBeyondAscii (s : StringConstant) : s.text.flatMap escapeBeyondAscii = s.text := by
  refine (List.flatMap_congr fun c inside => ?_).trans (List.flatMap_singleton' s.text)
  exact if_pos (mem_text inside).1

theorem evaluateString_named (readable : s.Readable) (named : s.LooksNamed) :
    evaluateString s.text = some ((s.numbers.map Char.ofNat).map Char.toNat) := by
  have small := numbers_lt readable
  have evaluated : evaluate s.text = some (.text s.numbers) := by
    have characters : s.numbers.all (· < 0x110000) = true :=
      List.all_eq_true.mpr fun n inside => decide_eq_true (Nat.lt_trans (small n inside) (by decide))
    have read := s.evaluate_text false readable
    rwa [denoted, if_neg Bool.false_ne_true, if_pos characters] at read
  rw [evaluateString, if_pos (looksNamed_iff.mpr named), evaluateText, evaluated, map_toNat_ofNat small]

theorem evaluateString_unnamed (readable : s.Readable) (unnamed : ¬ s.LooksNamed) :
    evaluateString s.text = some ((Text.Utf8.decode (s.numbers.map Nat.toUInt8)).map Char.toNat) := by
  have evaluated : evaluate ('b' :: s.text) = some (.bytes (s.numbers.map Nat.toUInt8)) := s.evaluate_text true readable
  rw [evaluateString, if_neg (looksNamed_iff.not.mpr unnamed), s.flatMap_escapeBeyondAscii, evaluated]

theorem evaluateString_none (unreadable : ¬ s.Readable) : evaluateString s.text = none := by
  have asText : evaluate s.text = none := s.evaluate_text_none false unreadable
  have asBytes : evaluate ('b' :: s.text) = none := s.evaluate_text_none true unreadable
  unfold evaluateString
  split
  · rw [evaluateText, asText]
  · rw [s.flatMap_escapeBeyondAscii, asBytes]

theorem readStrings_singleton (s : StringConstant) :
    readStrings [s.text] = (evaluateString s.text).map fun codes => (.ofPoints codes, .string) := by
  have last : ('"' :: (s.body ++ ['"'])).getLast? = some '"' := by
    rw [← List.cons_append, List.getLast?_concat]
  have unmarked : dropEncoding '"' s.text = some s.text := by
    simp [dropEncoding, encodingMarks, text, last]
  cases read : evaluateString s.text with
  | none => simp [readStrings, unmarked, read]
  | some codes => simp [readStrings, unmarked, read]

/- Characters of ASCII can be counted on either side, and every inexact element brings more of them than its byte. -/
theorem exact_of_decode (readable : s.Readable) {t : List Char}
    (count : t.countP (·.toNat < 128) = s.numbers.countP (· < 128)) (same : t = Text.Utf8.decode s.bytes) :
    ∀ e ∈ s.elements, e.Exact := by
  have small : ∀ n ∈ s.elements.map Element.byte, n < 256 := by
    rw [List.forall_mem_map]
    exact fun e _ => e.byte_lt
  apply (countP_byte_le readable.complete).2
  rw [← countP_decode small, ← bytes_eq, ← same, count, numbers]

theorem evaluateString_exists_iff :
    (∃ t : List Char, evaluateString s.text = some (t.map Char.toNat)) ↔ s.Readable := by
  constructor
  · rintro ⟨t, read⟩
    by_contra unreadable
    rw [evaluateString_none unreadable] at read
    cases read
  · intro readable
    by_cases named : s.LooksNamed
    · exact ⟨_, evaluateString_named readable named⟩
    · exact ⟨_, evaluateString_unnamed readable named⟩

/- Whatever is read is made of characters. -/
theorem exists_chars {codes : List Nat} (read : evaluateString s.text = some codes) :
    ∃ t : List Char, codes = t.map Char.toNat := by
  have readable : s.Readable := by
    by_contra unreadable
    rw [evaluateString_none unreadable] at read
    cases read
  obtain ⟨t, read'⟩ := evaluateString_exists_iff.mpr readable
  exact ⟨t, Option.some.inj (read.symm.trans read')⟩

/-- With every escape exact, what is left to go wrong is the reading of bytes as characters. -/
theorem evaluateString_eq_iff {t : List Char} (read : evaluateString s.text = some (t.map Char.toNat)) :
    t = Text.Utf8.decode s.bytes ↔ s.Faithful := by
  have readable := evaluateString_exists_iff.mp ⟨t, read⟩
  have alone {t' : List Char} (read' : evaluateString s.text = some (t'.map Char.toNat)) : t' = t :=
    List.map_injective_iff.mpr (fun _ _ => Char.toNat_inj.mp) (Option.some.inj (read'.symm.trans read))
  by_cases named : s.LooksNamed
  · obtain rfl := alone (evaluateString_named readable named)
    have characters : (∀ e ∈ s.elements, e.Exact) →
        s.numbers.map Char.ofNat = s.bytes.map fun b => Char.ofNat b.toNat := by
      intro exact
      rw [numbers_eq readable exact, bytes, List.map_map, List.map_map]
      refine List.map_congr_left fun e _ => ?_
      have same : e.byte.toUInt8.toNat = e.byte := Nat.mod_eq_of_lt e.byte_lt
      rw [Function.comp_apply, Function.comp_apply, same]
    constructor
    · intro same
      have exact := exact_of_decode readable (countP_ofNat (numbers_lt readable)) same
      refine ⟨exact, fun _ => (Text.Utf8.decode_eq_numbers_iff s.bytes).mp ?_⟩
      rw [← same, characters exact]
    · intro faithful
      rw [characters faithful.exact, Text.Utf8.decode_ascii (faithful.ascii named)]
  · obtain rfl := alone (evaluateString_unnamed readable named)
    constructor
    · intro same
      exact ⟨exact_of_decode readable (countP_decode (numbers_lt readable)) same, fun found => absurd found named⟩
    · intro faithful
      rw [numbers_eq readable faithful.exact, bytes_eq]

end StringConstant

/-- A string literal is read exactly if it has no zero, no carriage return and no hexadecimal escape of one digit. It
is then the text that its bytes are in UTF-8 exactly if no escape is read as something else, and an escaped backslash
in front of a `u` stands only among bytes of ASCII. -/
theorem readStrings_denotes_bytes (s : StringConstant) :
    ((∃ v, readStrings [s.text] = some v) ↔ s.Readable) ∧
    ∀ v, readStrings [s.text] = some v →
      (v = (.text (String.ofList (Text.Utf8.decode s.bytes)), .string) ↔ s.Faithful) := by
  rw [s.readStrings_singleton]
  simp only [Option.map_eq_some_iff]
  refine ⟨?_, ?_⟩
  · rw [← StringConstant.evaluateString_exists_iff]
    constructor
    · rintro ⟨v, codes, read, -⟩
      obtain ⟨t, rfl⟩ := StringConstant.exists_chars read
      exact ⟨t, read⟩
    · rintro ⟨t, read⟩
      exact ⟨_, _, read, rfl⟩
  · rintro _ ⟨codes, read, rfl⟩
    obtain ⟨t, rfl⟩ := StringConstant.exists_chars read
    rw [← StringConstant.evaluateString_eq_iff read, Value.ofPoints_toNat, Prod.mk.injEq, Value.text.injEq,
      String.ofList_inj]
    simp

/-- `"what\?"` -/
def questionConstant : StringConstant where
  elements := [.plain 'w' (by decide) (by decide), .plain 'h' (by decide) (by decide),
    .plain 'a' (by decide) (by decide), .plain 't' (by decide) (by decide), .simple '?' 63 (by decide)]
  separate := ⟨trivial, trivial, trivial, trivial, trivial, trivial⟩

/-- The backslash in front of a question mark stays in the text. -/
theorem readStrings_question :
    questionConstant.text = ['"', 'w', 'h', 'a', 't', '\\', '?', '"'] ∧
    readStrings [['"', 'w', 'h', 'a', 't', '\\', '?', '"']] =
      some (.text (String.ofList ['w', 'h', 'a', 't', '\\', '?']), .string) ∧
    Text.Utf8.decode questionConstant.bytes = ['w', 'h', 'a', 't', '?'] := by
  refine ⟨rfl, ?_, rfl⟩
  rfl

end CBindings.Literal
