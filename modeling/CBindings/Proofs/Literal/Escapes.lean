import CBindings.Literal.Basic
import CBindings.Proofs.Literal.Bytes
import CBindings.Proofs.Number.Positional

/-! String literals of C, element by element, and how each element is read. Most stand for one byte and are read as
it. A question mark behind a backslash keeps the backslash, and a hexadecimal escape ends behind its second digit
instead of taking all that follow. -/
namespace CBindings.Literal

/-- The letters that stand for one byte behind a backslash. -/
def simpleEscapes : List (Char × Nat) :=
  [('\'', 39), ('"', 34), ('?', 63), ('\\', 92), ('a', 7), ('b', 8), ('f', 12), ('n', 10), ('r', 13), ('t', 9),
    ('v', 11)]

/-- A character between the quotes that stands for itself, or an escape. -/
inductive Element where
  | plain (c : Char) (ascii : c.toNat < 128) (free : c ∉ ['"', '\\', '\n'])
  | simple (letter : Char) (byte : Nat) (listed : (letter, byte) ∈ simpleEscapes)
  | octal (chars : List Char) (digits : List Nat) (spelled : Number.Spelled 8 chars digits)
      (short : 1 ≤ digits.length ∧ digits.length ≤ 3) (fits : Nat.ofDigits 8 digits.reverse < 256)
  | hexadecimal (chars : List Char) (digits : List Nat) (spelled : Number.Spelled 16 chars digits)
      (nonempty : 1 ≤ digits.length) (fits : Nat.ofDigits 16 digits.reverse < 256)

namespace Element

def text : Element → List Char
  | plain c .. => [c]
  | simple letter .. => ['\\', letter]
  | octal chars .. => '\\' :: chars
  | hexadecimal chars .. => '\\' :: 'x' :: chars

/-- The byte that C gives the element. -/
def byte : Element → Nat
  | plain c .. => c.toNat
  | simple _ byte _ => byte
  | octal _ digits .. => Nat.ofDigits 8 digits.reverse
  | hexadecimal _ digits .. => Nat.ofDigits 16 digits.reverse

/-- An escape takes all the digits it can, so what follows starts with none that it could take. -/
def Ends : Element → List Char → Prop
  | plain .., _ => True
  | simple .., _ => True
  | octal _ digits .., rest => digits.length < 3 → ∀ c ∈ rest.head?, ¬ ∃ d, Number.IsDigit 8 c d
  | hexadecimal .., rest => ∀ c ∈ rest.head?, ¬ ∃ d, Number.IsDigit 16 c d

/-- A hexadecimal escape needs two digits. -/
def Complete : Element → Prop
  | hexadecimal _ digits .. => 2 ≤ digits.length
  | _ => True

/-- The numbers that the element is read as. -/
def numbers : Element → List Nat
  | plain c .. => [c.toNat]
  | simple letter byte _ => if letter = '?' then [92, 63] else [byte]
  | octal _ digits .. => [Nat.ofDigits 8 digits.reverse]
  | hexadecimal chars digits .. => Nat.ofDigits 16 (digits.take 2).reverse :: (chars.drop 2).map Char.toNat

/-- The element is read as its byte. -/
def Exact : Element → Prop
  | simple letter .. => letter ≠ '?'
  | hexadecimal _ digits .. => digits.length ≤ 2
  | _ => True

end Element

/-- Every element ends before the text of those behind it. -/
def Separate : List Element → Prop
  | [] => True
  | e :: rest => e.Ends (rest.flatMap Element.text) ∧ Separate rest

structure StringConstant where
  elements : List Element
  separate : Separate elements

namespace StringConstant

def body (s : StringConstant) : List Char := s.elements.flatMap Element.text

def text (s : StringConstant) : List Char := '"' :: (s.body ++ ['"'])

def bytes (s : StringConstant) : List UInt8 := s.elements.map fun e => e.byte.toUInt8

def numbers (s : StringConstant) : List Nat := s.elements.flatMap Element.numbers

/-- What the literal needs to be read at all. A carriage return would end the line. -/
structure Readable (s : StringConstant) : Prop where
  noZero : '\x00' ∉ s.text
  noReturn : '\r' ∉ s.text
  complete : ∀ e ∈ s.elements, e.Complete

end StringConstant

variable {base d : Nat} {c : Char} {e : Element} {asBytes : Bool} {chars rest acc : List Char}

section Characters

/- Digits are no control characters, no quotes and no backslash. -/
theorem ordinary_of_isDigit (most : base ≤ 16) (digit : Number.IsDigit base c d) :
    48 ≤ c.toNat ∧ c.toNat < 128 ∧ c ≠ '\\' := by
  have place := (Number.isDigit_iff_toNat most).mp digit
  refine ⟨by omega, by omega, ?_⟩
  rintro rfl
  simp only [Char.reduceToNat] at place
  omega

theorem ordinary_of_spelled (most : base ≤ 16) {digits : List Nat} (spelled : Number.Spelled base chars digits) :
    ∀ c ∈ chars, 48 ≤ c.toNat ∧ c.toNat < 128 ∧ c ≠ '\\' := by
  intro c inside
  obtain ⟨d, digit⟩ := Number.isDigit_of_spelled spelled inside
  exact ordinary_of_isDigit most digit

/- Only a plain character can be one that is not printed. -/
theorem Element.mem_text (inside : c ∈ e.text) : c.toNat < 128 ∧ (c.toNat < 32 → c ≠ '\n' ∧ e.text = [c]) := by
  have other : 32 ≤ c.toNat → c.toNat < 32 → c ≠ '\n' ∧ e.text = [c] := fun low high => by omega
  cases e with
  | plain c' ascii free =>
    obtain rfl := List.mem_singleton.mp inside
    refine ⟨ascii, fun _ => ⟨?_, rfl⟩⟩
    rintro rfl
    exact free (by simp)
  | simple letter byte listed =>
    have letters : ∀ p ∈ simpleEscapes, 32 ≤ p.1.toNat ∧ p.1.toNat < 128 := by decide
    have range : 32 ≤ c.toNat ∧ c.toNat < 128 := by
      rcases List.mem_cons.mp inside with rfl | inside
      · decide
      · exact List.mem_singleton.mp inside ▸ letters _ listed
    exact ⟨range.2, other range.1⟩
  | octal chars digits spelled =>
    have range : 32 ≤ c.toNat ∧ c.toNat < 128 := by
      rcases List.mem_cons.mp inside with rfl | inside
      · decide
      · have place := ordinary_of_spelled (by decide) spelled c inside
        omega
    exact ⟨range.2, other range.1⟩
  | hexadecimal chars digits spelled =>
    have range : 32 ≤ c.toNat ∧ c.toNat < 128 := by
      rcases List.mem_cons.mp inside with rfl | inside
      · decide
      · rcases List.mem_cons.mp inside with rfl | inside
        · decide
        · have place := ordinary_of_spelled (by decide) spelled c inside
          omega
    exact ⟨range.2, other range.1⟩

theorem Element.head_text (e : Element) (rest : List Char) : (e.text ++ rest).head? ≠ some '"' := by
  cases e with
  | plain c ascii free =>
    rintro ⟨⟩
    exact free (by simp)
  | simple => simp [text]
  | octal => simp [text]
  | hexadecimal => simp [text]

end Characters

section Scanning

theorem scan_plains (ordinary : ∀ c ∈ chars, 48 ≤ c.toNat ∧ c.toNat < 128 ∧ c ≠ '\\') :
    scan (.inside false asBytes '"' false acc) (chars ++ rest) =
      scan (.inside false asBytes '"' false (chars.reverse ++ acc)) rest := by
  induction chars generalizing acc with
  | nil => rfl
  | cons c chars ih =>
    rw [List.forall_mem_cons] at ordinary
    obtain ⟨⟨low, -, notBackslash⟩, later⟩ := ordinary
    have notQuote : c ≠ '"' := by
      rintro rfl
      exact absurd low (by decide)
    have notLine : c ≠ '\n' := by
      rintro rfl
      exact absurd low (by decide)
    rw [List.cons_append, scan_plain notQuote notBackslash notLine, ih later]
    simp

/- An element never ends the literal. -/
theorem scan_element (e : Element) :
    scan (.inside false asBytes '"' false acc) (e.text ++ rest) =
      scan (.inside false asBytes '"' false (e.text.reverse ++ acc)) rest := by
  cases e with
  | plain c ascii free =>
    simp only [List.mem_cons, List.not_mem_nil, or_false, not_or] at free
    exact scan_plain free.1 free.2.1 free.2.2
  | simple letter => exact scan_escaped letter
  | octal chars digits spelled short =>
    cases spelled with
    | nil => exact absurd short.1 (by decide)
    | @cons c d chars ds digit spelled =>
      have ordinary := ordinary_of_spelled (by decide) spelled
      change scan _ ('\\' :: c :: (chars ++ rest)) = _
      rw [scan_escaped, scan_plains ordinary]
      simp [Element.text]
  | hexadecimal chars digits spelled =>
    have ordinary := ordinary_of_spelled (by decide) spelled
    rw [Element.text, List.cons_append, List.cons_append, scan_escaped, scan_plains ordinary]
    simp

theorem scan_elements (es : List Element) :
    scan (.inside false asBytes '"' false acc) (es.flatMap Element.text ++ ['"']) =
      some [⟨false, asBytes, acc.reverse ++ es.flatMap Element.text⟩] := by
  induction es generalizing acc with
  | nil => simp [scan]
  | cons e es ih =>
    rw [List.flatMap_cons, List.append_assoc, scan_element, ih]
    simp

end Scanning

section Unescaping

theorem unescape_plains (ordinary : ∀ c ∈ chars, 48 ≤ c.toNat ∧ c.toNat < 128 ∧ c ≠ '\\') :
    unescape asBytes none (chars ++ rest) = (unescape asBytes none rest).map (chars.map Char.toNat ++ ·) := by
  induction chars with
  | nil => simp
  | cons c chars ih =>
    rw [List.forall_mem_cons] at ordinary
    obtain ⟨⟨-, ascii, notBackslash⟩, later⟩ := ordinary
    rw [List.cons_append, unescape_plain asBytes notBackslash ascii, ih later, Option.map_map]
    rfl

theorem unescape_simple {letter : Char} {byte : Nat} (listed : (letter, byte) ∈ simpleEscapes) :
    unescape asBytes none ('\\' :: letter :: rest) =
      (unescape asBytes none rest).map ((if letter = '?' then [92, 63] else [byte]) ++ ·) := by
  simp only [simpleEscapes, List.mem_cons, List.not_mem_nil, or_false, Prod.mk.injEq] at listed
  rcases listed with ⟨rfl, rfl⟩ | ⟨rfl, rfl⟩ | ⟨rfl, rfl⟩ | ⟨rfl, rfl⟩ | ⟨rfl, rfl⟩ | ⟨rfl, rfl⟩ | ⟨rfl, rfl⟩ |
    ⟨rfl, rfl⟩ | ⟨rfl, rfl⟩ | ⟨rfl, rfl⟩ | ⟨rfl, rfl⟩
  all_goals
    rw [unescape.eq_def]
    cases asBytes <;> rfl

theorem isOctal_iff : isOctal c = true ↔ ∃ d, Number.IsDigit 8 c d := by
  have range : isOctal c = true ↔ 48 ≤ c.toNat ∧ c.toNat ≤ 55 := by
    simp only [isOctal, Bool.and_eq_true, decide_eq_true_eq]
    rfl
  rw [range]
  constructor
  · intro inside
    exact ⟨c.toNat - 48, (Number.isDigit_iff_toNat (by decide)).mpr (by omega)⟩
  · rintro ⟨d, digit⟩
    have place := (Number.isDigit_iff_toNat (by decide)).mp digit
    omega

/- Up to three octal digits are taken, fewer only if what follows is none. -/
theorem unescape_octal {digits : List Nat} (spelled : Number.Spelled 8 chars digits)
    (short : 1 ≤ digits.length ∧ digits.length ≤ 3) (fits : Nat.ofDigits 8 digits.reverse < 256)
    (ends : digits.length < 3 → ∀ c ∈ rest.head?, ¬ ∃ d, Number.IsDigit 8 c d) :
    unescape asBytes none ('\\' :: (chars ++ rest)) =
      (unescape asBytes none rest).map (Nat.ofDigits 8 digits.reverse :: ·) := by
  have value : octalValue chars = Nat.ofDigits 8 digits.reverse := Number.digitsValue_spelled (by decide) spelled
  have cut : (if asBytes then octalValue chars % 256 else octalValue chars) = octalValue chars := by
    rw [value, Nat.mod_eq_of_lt fits, ite_self]
  have octal : ∀ c ∈ chars, isOctal c = true :=
    fun c inside => isOctal_iff.mpr (Number.isDigit_of_spelled spelled inside)
  have same := spelled.length_eq
  rw [← value]
  have stop : chars.length < 3 → ∀ d ∈ rest.head?, isOctal d = false := by
    intro fewer d inside
    rw [Bool.eq_false_iff, ne_eq, isOctal_iff]
    exact ends (same ▸ fewer) d inside
  rw [← same] at short
  obtain ⟨c, chars, rfl⟩ := List.exists_cons_of_length_pos short.1
  have notLine : c ≠ '\n' := by
    rintro rfl
    exact absurd (octal '\n' List.mem_cons_self) (by decide)
  have notX : c ≠ 'x' := by
    rintro rfl
    exact absurd (octal 'x' List.mem_cons_self) (by decide)
  rw [List.cons_append, unescape.eq_def]
  simp only [List.forall_mem_cons] at octal
  rcases chars with _ | ⟨d, _ | ⟨e, _ | ⟨f, more⟩⟩⟩
  · rcases rest with _ | ⟨d, _ | ⟨e, rest⟩⟩
    · simp [unescape, octal]
    · simp [octal, stop (by simp) d rfl]
    · simp [octal, notX, stop (by simp) d rfl]
  · rcases rest with _ | ⟨e, rest⟩
    · simp [octal, unescape]
    · simp [octal, notX, stop (by simp) e rfl]
  · simp [octal, notX, cut]
  · exact absurd short.2 (by simp only [List.length_cons]; omega)

theorem unescape_hexadecimal {a b : Char} {x y : Nat} (first : Number.IsDigit 16 a x) (second : Number.IsDigit 16 b y) :
    unescape asBytes none ('\\' :: 'x' :: a :: b :: rest) =
      (unescape asBytes none rest).map (Nat.ofDigits 16 [y, x] :: ·) := by
  have spelled : Number.Spelled 16 [a, b] [x, y] := .cons first (.cons second .nil)
  have digits : [a, b].all Number.isHexDigit = true := by
    rw [List.all_eq_true]
    exact fun c inside => (Number.hasDigit_iff (by decide)).mpr (Number.isDigit_of_spelled spelled inside)
  have value : hexValue? [a, b] = some (Nat.ofDigits 16 [y, x]) := by
    rw [hexValue?, if_pos digits, Number.digitsValue_spelled (by decide) spelled]
    rfl
  simp [unescape, value]

theorem unescape_element (complete : e.Complete) (ends : e.Ends rest) :
    unescape asBytes none (e.text ++ rest) = (unescape asBytes none rest).map (e.numbers ++ ·) := by
  cases e with
  | plain c ascii free =>
    simp only [List.mem_cons, List.not_mem_nil, or_false, not_or] at free
    exact unescape_plain asBytes free.2.1 ascii rest
  | simple letter byte listed => exact unescape_simple listed
  | octal chars digits spelled short fits => exact unescape_octal spelled short fits ends
  | hexadecimal chars digits spelled =>
    rcases spelled with _ | @⟨a, x, chars, digits, first, _ | @⟨b, y, chars, digits, second, spelled⟩⟩
    · exact absurd complete (by simp [Element.Complete])
    · exact absurd complete (by simp [Element.Complete])
    · have ordinary := ordinary_of_spelled (by decide) spelled
      change unescape asBytes none ('\\' :: 'x' :: a :: b :: (chars ++ rest)) = _
      rw [unescape_hexadecimal first second, unescape_plains ordinary, Option.map_map]
      rfl

/- One hexadecimal digit alone is an error. -/
theorem unescape_incomplete (incomplete : ¬ e.Complete) (ends : e.Ends rest) :
    unescape asBytes none (e.text ++ rest) = none := by
  cases e with
  | plain => exact absurd trivial incomplete
  | simple => exact absurd trivial incomplete
  | octal => exact absurd trivial incomplete
  | hexadecimal chars digits spelled nonempty =>
    rcases spelled with _ | @⟨a, x, chars, digits, first, _ | @⟨b, y, chars, digits, second, spelled⟩⟩
    · simp at nonempty
    · cases rest with
      | nil => rfl
      | cons b rest =>
        have other : Number.isHexDigit b = false := by
          rw [Bool.eq_false_iff, ne_eq, Number.isHexDigit, ← Number.hasDigit, Number.hasDigit_iff (by decide)]
          exact ends b rfl
        change unescape asBytes none ('\\' :: 'x' :: a :: b :: rest) = none
        simp [unescape, hexValue?, other]
    · exact absurd (by simp [Element.Complete]) incomplete

theorem unescape_elements {es : List Element} (separate : Separate es) (complete : ∀ e ∈ es, e.Complete) :
    unescape asBytes none (es.flatMap Element.text) = some (es.flatMap Element.numbers) := by
  induction es with
  | nil => rfl
  | cons e es ih =>
    rw [List.forall_mem_cons] at complete
    rw [List.flatMap_cons, unescape_element complete.1 separate.1, ih separate.2 complete.2]
    rfl

theorem unescape_elements_none {es : List Element} (separate : Separate es) (incomplete : ¬ ∀ e ∈ es, e.Complete) :
    unescape asBytes none (es.flatMap Element.text) = none := by
  induction es with
  | nil => simp at incomplete
  | cons e es ih =>
    rw [List.flatMap_cons]
    by_cases complete : e.Complete
    · rw [List.forall_mem_cons, not_and] at incomplete
      rw [unescape_element complete separate.1, ih separate.2 (incomplete complete)]
      rfl
    · exact unescape_incomplete complete separate.1

end Unescaping

section Lines

/-- A carriage return becomes a line feed. -/
def endLine (c : Char) : Char := if c = '\r' then '\n' else c

theorem map_endLine {s : List Char} (noReturn : '\r' ∉ s) : s.map endLine = s := by
  refine (List.map_congr_left fun c inside => ?_).trans (List.map_id s)
  have other : c ≠ '\r' := fun same => noReturn (same ▸ inside)
  exact if_neg other

theorem unifyLineEnds_of_noLine {s : List Char} (noLine : '\n' ∉ s) : unifyLineEnds s = s.map endLine := by
  induction s with
  | nil => rfl
  | cons c s ih =>
    rw [List.mem_cons, not_or] at noLine
    have later := ih noLine.2
    by_cases isReturn : c = '\r'
    · subst isReturn
      cases s with
      | nil => rfl
      | cons d s =>
        have other : d ≠ '\n' := fun same => noLine.2 (same ▸ List.mem_cons_self)
        simp [unifyLineEnds, other, later, endLine]
    · simp [unifyLineEnds, isReturn, later, endLine]

theorem scan_line : scan (.inside false asBytes '"' false acc) ('\n' :: rest) = none := by
  cases rest with
  | nil => simp [scan]
  | cons c rest => simp [scan]

/- The line that a carriage return begins is no longer inside the literal. -/
theorem scan_return {es : List Element} (found : '\r' ∈ es.flatMap Element.text) :
    scan (.inside false asBytes '"' false acc) ((es.flatMap Element.text).map endLine ++ rest) = none := by
  induction es generalizing acc with
  | nil => cases found
  | cons e es ih =>
    by_cases here : '\r' ∈ e.text
    · rw [List.flatMap_cons, ((Element.mem_text here).2 (by decide)).2]
      exact scan_line
    · rw [List.flatMap_cons, List.mem_append] at found
      rw [List.flatMap_cons, List.map_append, map_endLine here, List.append_assoc, scan_element]
      exact ih (found.resolve_left here)

end Lines

section Evaluation

variable (s : StringConstant)

/-- The mark of a literal that denotes bytes. -/
def byteMark (asBytes : Bool) : List Char := if asBytes then ['b'] else []

theorem scan_byteMark (asBytes : Bool) (rest : List Char) :
    scan (.outside []) (byteMark asBytes ++ '"' :: rest) = scan (.outside (byteMark asBytes)) ('"' :: rest) := by
  cases asBytes with
  | false => rfl
  | true => simp [byteMark, scan]

theorem marksOf_byteMark (asBytes : Bool) : marksOf (byteMark asBytes) = some (false, asBytes) := by
  cases asBytes with
  | false => rfl
  | true => rfl

namespace StringConstant

theorem mem_text {s : StringConstant} (inside : c ∈ s.text) : c.toNat < 128 ∧ c ≠ '\n' := by
  simp only [text, List.mem_cons, List.mem_append, List.not_mem_nil, or_false, body, List.mem_flatMap] at inside
  rcases inside with rfl | ⟨e, -, inside⟩ | rfl
  · decide
  · have place := Element.mem_text inside
    refine ⟨place.1, ?_⟩
    rintro rfl
    exact (place.2 (by decide)).1 rfl
  · decide

theorem head_body : s.body.head? ≠ some '"' := by
  unfold body
  cases s.elements with
  | nil => simp
  | cons e es => exact e.head_text _

theorem scan_text (noReturn : '\r' ∉ s.text) :
    scan (.outside []) (unifyLineEnds (byteMark asBytes ++ s.text)) = some [⟨false, asBytes, s.body⟩] := by
  have noReturn' : '\r' ∉ byteMark asBytes ++ s.text := by
    cases asBytes <;> simp [byteMark, noReturn]
  rw [unifyLineEnds_of_none noReturn', text, scan_byteMark, scan_opened (marksOf_byteMark asBytes) s.head_body]
  exact scan_elements s.elements

theorem scan_text_return (found : '\r' ∈ s.text) :
    scan (.outside []) (unifyLineEnds (byteMark asBytes ++ s.text)) = none := by
  have noLine : '\n' ∉ byteMark asBytes ++ s.text := by
    have inside : '\n' ∉ s.text := fun inside => (mem_text inside).2 rfl
    cases asBytes <;> simp [byteMark, inside]
  have inside : '\r' ∈ s.elements.flatMap Element.text := by
    simpa [text, body] using found
  have ended : byteMark asBytes ++ '"' :: (s.body.map endLine ++ ['"']) =
      (byteMark asBytes ++ s.text).map endLine := by
    cases asBytes <;> simp [byteMark, text, endLine]
  have first : (s.body.map endLine).head? ≠ some '"' := by
    rw [List.head?_map, ne_eq, Option.map_eq_some_iff]
    rintro ⟨c, head, quote⟩
    by_cases isReturn : c = '\r'
    · rw [endLine, if_pos isReturn] at quote
      exact absurd quote (by decide)
    · rw [endLine, if_neg isReturn] at quote
      exact s.head_body (quote ▸ head)
  rw [unifyLineEnds_of_noLine noLine, ← ended, scan_byteMark, scan_opened (marksOf_byteMark asBytes) first]
  exact scan_return inside

/-- What a literal is read as, with its escapes as bytes or as characters. -/
theorem evaluate_text (asBytes : Bool) (readable : s.Readable) :
    evaluate (byteMark asBytes ++ s.text) = denoted asBytes s.numbers := by
  have noZero : '\x00' ∉ byteMark asBytes ++ s.text := by
    cases asBytes <;> simp [byteMark, readable.noZero]
  rw [evaluate_of_scan noZero (s.scan_text readable.noReturn), body, unescape_elements s.separate readable.complete]
  rfl

theorem evaluate_text_none (asBytes : Bool) (unreadable : ¬ s.Readable) :
    evaluate (byteMark asBytes ++ s.text) = none := by
  by_cases zero : '\x00' ∈ byteMark asBytes ++ s.text
  · simp [evaluate, zero]
  · by_cases found : '\r' ∈ s.text
    · simp [evaluate, zero, s.scan_text_return found]
    · have noZero : '\x00' ∉ s.text := fun inside => zero (List.mem_append_right _ inside)
      have incomplete : ¬ ∀ e ∈ s.elements, e.Complete := fun complete => unreadable ⟨noZero, found, complete⟩
      rw [evaluate_of_scan zero (s.scan_text found), body, unescape_elements_none s.separate incomplete]
      rfl

end StringConstant

end Evaluation

end CBindings.Literal
