import CBindings.Proofs.Number.Decimal
import CBindings.Proofs.Probe.Reading

/-! One entry of a probe's output, from its text to its reading: the name comes back, and what stands behind it is read
as a number if it is written like one. -/
namespace CBindings.Probe

/-- A name as a C program spells it. -/
structure Identifier where
  head : Char
  tail : List Char
  starts : (head.isAlpha || head == '_') = true
  continues : tail.all (fun c => c.isAlphanum || c == '_') = true

namespace Identifier

def chars (n : Identifier) : List Char := n.head :: n.tail

def text (n : Identifier) : String := String.ofList n.chars

end Identifier

/-- `const NAME = VALUE`. -/
def entryText (n : Identifier) (value : List Char) : List Char :=
  ['c', 'o', 'n', 's', 't', ' '] ++ (n.chars ++ ([' ', '=', ' '] ++ value))

variable {e : Evaluator} {n : Identifier} {c : Char} {value segment : List Char}

theorem alphanum_bounds (word : (c.isAlphanum || c == '_') = true) : 48 ≤ c.toNat ∧ c.toNat ≤ 122 := by
  delta Char.isAlphanum Char.isAlpha Char.isUpper Char.isLower Char.isDigit at word
  simp only [Bool.or_eq_true, beq_iff_eq, Bool.and_eq_true, decide_eq_true_eq, ge_iff_le,
    UInt32.le_iff_toNat_le] at word
  change (((65 ≤ c.toNat ∧ c.toNat ≤ 90) ∨ (97 ≤ c.toNat ∧ c.toNat ≤ 122)) ∨ (48 ≤ c.toNat ∧ c.toNat ≤ 57)) ∨
    c = '_' at word
  rcases word with ((upper | lower) | digit) | rfl
  · omega
  · omega
  · omega
  · decide

theorem isWord_of_alphanum (word : (c.isAlphanum || c == '_') = true) : Text.isWord c = true := by
  have ascii : c.toNat < 128 := by have := alphanum_bounds word; omega
  rw [Text.isWord, Text.isAlphanumeric, if_pos ascii, Bool.or_comm]
  exact word

theorem not_blank_of_alphanum (word : (c.isAlphanum || c == '_') = true) : Text.isBlank c = false := by
  have bounds := alphanum_bounds word
  simp [Text.isBlank, Text.inRanges, Text.blankRanges]
  omega

theorem Identifier.head_word (n : Identifier) : (n.head.isAlphanum || n.head == '_') = true := by
  have starts := n.starts
  simp only [Bool.or_eq_true] at starts ⊢
  rcases starts with letter | underscore
  · exact .inl (by simp [Char.isAlphanum, letter])
  · exact .inr underscore

theorem Identifier.mem_chars (n : Identifier) (inside : c ∈ n.chars) : (c.isAlphanum || c == '_') = true := by
  rcases List.mem_cons.mp inside with rfl | inside
  · exact n.head_word
  · exact List.all_eq_true.mp n.continues c inside

theorem entryText_snug (filled : value ≠ []) (snug : Text.Snug Text.isBlank value) :
    Text.Snug Text.isBlank (entryText n value) := by
  refine ⟨fun c first => ?_, fun c last => snug.last c ?_⟩
  · have same : c = 'c' := (Option.some.inj first).symm
    rw [same]
    decide
  · rw [← last, entryText, ← List.append_assoc, ← List.append_assoc, List.getLast?_append_of_ne_nil _ filled]

/- Blanks around the entry do not matter. -/
theorem splitSegment_entry (filled : value ≠ []) (snug : Text.Snug Text.isBlank value)
    (trimmed : Text.trim segment = entryText n value) : splitSegment segment = some (n.chars, value) := by
  have word : ∀ c ∈ n.tail, Text.isWord c = true := by
    intro c inside
    exact isWord_of_alphanum (List.all_eq_true.mp n.continues c inside)
  have stop : ∀ c, ([' ', '=', ' '] ++ value).head? = some c → Text.isWord c = false := by
    intro c first
    have same : c = ' ' := (Option.some.inj first).symm
    rw [same]
    decide
  have marked : "const".toList = ['c', 'o', 'n', 's', 't'] := rfl
  have blank : Text.isBlank ' ' = true := by decide
  have equals : Text.isBlank '=' = false := by decide
  have first : Text.isBlank n.head = false := not_blank_of_alphanum n.head_word
  have before := Text.takeWhile_run word stop
  have behind := Text.dropWhile_run word stop
  have start : value.dropWhile Text.isBlank = value := Text.stripStart_eq_self snug.head
  have whole : Text.trim value = value := Text.strip_eq_self snug
  have starts := n.starts
  simp only [List.cons_append, List.nil_append] at before behind
  simp [splitSegment, trimmed, entryText, Identifier.chars, marked, dropBlanks, Text.stripStart, blank, equals, first,
    before, behind, start, whole, filled, starts]

/-- What a written number is read as. -/
def numberReading (name : String) (w : Number.Written) : Reading :=
  if w.isWhole then ⟨name, .int w.integer, .integer⟩
  else
    let digits := Number.digitsValue 10 (w.whole ++ w.part)
    ⟨name, .float (.ofDecimal w.negative digits (w.exponent.getD 0 - w.part.length)), .float⟩

theorem numberReading_name (name : String) (w : Number.Written) : (numberReading name w).name = name := by
  unfold numberReading
  split
  · rfl
  · rfl

theorem numberReading_cases (name : String) (w : Number.Written) :
    (∃ y, (numberReading name w).value = .float y ∧ (numberReading name w).kind = .float) ∨
      ∃ z, (numberReading name w).value = .int z ∧ (numberReading name w).kind = .integer := by
  unfold numberReading
  split
  · exact .inr ⟨_, rfl, rfl⟩
  · exact .inl ⟨_, rfl, rfl⟩

theorem numberReading_int_iff (name : String) (w : Number.Written) (z : Int) :
    (numberReading name w).value = .int z ↔ w.isWhole = true ∧ w.integer = z := by
  unfold numberReading
  split
  · rename_i whole
    simp [whole]
  · rename_i broken
    simp [broken]

/- The first character of a number starts no other value. -/
theorem text_head (w : Number.Written) (c : Char) (first : w.text.head? = some c) : c.isDigit = true ∨ c = '-' := by
  obtain ⟨d, more, starts, digit⟩ := w.unsigned_head
  unfold Number.Written.text at first
  split at first
  · exact .inr (Option.some.inj first).symm
  · rw [starts] at first
    exact .inl (Option.some.inj first ▸ digit)

theorem text_snug (w : Number.Written) : w.text ≠ [] ∧ Text.Snug Text.isBlank w.text := by
  refine ⟨?_, Text.snug_of_none fun c inside => (w.not_blank_of_mem_text inside).2.2.2⟩
  obtain ⟨d, more, starts, -⟩ := w.unsigned_head
  unfold Number.Written.text
  split
  · exact List.cons_ne_nil _ _
  · simp [starts]

theorem readSegment_number {segment : String} (w : Number.Written) (short : w.whole.length ≤ Number.decimalLimit)
    (split : splitSegment segment.toList = some (n.chars, w.text)) :
    readSegment e segment = .ok (.ok (numberReading n.text w)) := by
  obtain ⟨c, more, starts⟩ := List.exists_cons_of_ne_nil (text_snug w).1
  have other : c ≠ 'c' ∧ c ≠ 'T' ∧ c ≠ 'F' ∧ c ≠ 'b' ∧ c ≠ '"' := by
    rcases text_head w c (by simp [starts]) with digit | rfl
    · refine ⟨?_, ?_, ?_, ?_, ?_⟩ <;> (rintro rfl; cases digit)
    · decide
  have noCharacter : characterDigits? w.text = none := by
    have mark : "chr(".toList = ['c', 'h', 'r', '('] := rfl
    simp [characterDigits?, mark, starts, other.1.symm]
  have noWord : w.text ≠ ['T', 'r', 'u', 'e'] ∧ w.text ≠ ['F', 'a', 'l', 's', 'e'] := by
    simp [starts, other]
  have noString : isQuoted w.text = false := by
    simp [isQuoted, starts, List.isPrefixOf, other.2.2.2.1.symm, other.2.2.2.2.symm]
  have read : readPlain w.text = some ((numberReading n.text w).value, (numberReading n.text w).kind) := by
    rw [readPlain, w.readInteger_text short, w.readDecimal_text, numberReading]
    split
    · rename_i found
      split at found
      · cases found
        simp [*]
      · cases found
    · rename_i missing
      split at missing
      · cases missing
      · simp [*]
  have named : (numberReading n.text w).name = String.ofList n.chars := numberReading_name n.text w
  simp [readSegment, split, noCharacter, noWord, noString, read, ← named]

end CBindings.Probe
