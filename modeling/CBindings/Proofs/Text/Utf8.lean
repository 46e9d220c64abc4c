import CBindings.Text.Utf8
import Mathlib.Data.List.Basic
import Mathlib.Tactic.Ring

/-! What decoding keeps of arbitrary bytes. Those of ASCII come through as they are and no other character of the text
is one of ASCII, whether the bytes between them are text or not. Reading each byte as the character of its number gives
the same text only where all bytes are ASCII. -/
namespace CBindings.Text.Utf8

variable {b : UInt8} {s t : Open} {c : Char} {bytes : List UInt8}

theorem toNat_ofNat_of_valid {n : Nat} (valid : n.isValidChar) : (Char.ofNat n).toNat = n := by
  rw [Char.ofNat, dif_pos valid]
  rfl

theorem toNat_ofByte (b : UInt8) : (Char.ofNat b.toNat).toNat = b.toNat := by
  have small := b.toNat_lt
  exact toNat_ofNat_of_valid (.inl (by omega))

/-- Whichever bytes complete the character, it lies beyond ASCII and is no surrogate. The bits that can still be read
run from those of the lowest byte and only zeros to those of the highest byte and only ones. -/
structure Open.Proper (s : Open) : Prop where
  low : 0x80 ≤ s.low
  beyond : 0x80 ≤ (s.bits * 64 + (s.low - 0x80)) * 64 ^ s.missing
  valid : (s.bits * 64 + (s.high - 0x80) + 1) * 64 ^ s.missing ≤ 0xD800 ∨
    0xE000 ≤ (s.bits * 64 + (s.low - 0x80)) * 64 ^ s.missing ∧
      (s.bits * 64 + (s.high - 0x80) + 1) * 64 ^ s.missing ≤ 0x110000

theorem lead_cases (b : UInt8) : b < 128 ∧ lead b = .whole (Char.ofNat b.toNat) ∨
    ¬ b < 128 ∧ ((∃ s, lead b = .opens s ∧ s.Proper) ∨ lead b = .never) := by
  rw [UInt8.lt_iff_toNat_lt]
  unfold lead
  dsimp only
  split
  · exact .inl ⟨by assumption, rfl⟩
  · rename_i high
    refine .inr ⟨high, ?_⟩
    split
    · exact .inr rfl
    split
    · exact .inl ⟨_, rfl, by dsimp only; omega, by dsimp only; omega, by dsimp only; omega⟩
    -- Some leads allow fewer second bytes than others, which keeps out long forms and surrogates.
    split
    · refine .inl ⟨_, rfl, ?_, ?_, ?_⟩
      · dsimp only
        split <;> omega
      · dsimp only
        split <;> omega
      · dsimp only
        split <;> split <;> omega
    split
    · refine .inl ⟨_, rfl, ?_, ?_, ?_⟩
      · dsimp only
        split <;> omega
      · dsimp only
        split <;> omega
      · dsimp only
        split <;> split <;> omega
    · exact .inr rfl

theorem Open.Proper.next_cases (proper : s.Proper) (b : UInt8) :
    ¬ b < 128 ∧ ((∃ c, s.next b = .whole c ∧ 128 ≤ c.toNat) ∨ ∃ t, s.next b = .opens t ∧ t.Proper) ∨
      s.next b = .breaks := by
  obtain ⟨low, beyond, valid⟩ := proper
  obtain ⟨missing, least, most, bits⟩ := s
  unfold Open.next
  dsimp only at low beyond valid ⊢
  split
  · rename_i inside
    have high : ¬ b < 128 := by
      have place : (128 : UInt8).toNat = 128 := rfl
      rw [UInt8.lt_iff_toNat_lt]
      omega
    -- The bits read so far lie between those of the lowest and of the highest byte.
    have least_le : bits * 64 + (least - 0x80) ≤ bits * 64 + (b.toNat - 0x80) := by omega
    have le_most : bits * 64 + (b.toNat - 0x80) + 1 ≤ bits * 64 + (most - 0x80) + 1 := by omega
    generalize bits * 64 + (b.toNat - 0x80) = read at least_le le_most
    refine .inl ⟨high, ?_⟩
    cases missing with
    | zero =>
      rw [Nat.pow_zero, Nat.mul_one] at beyond valid
      refine .inl ⟨_, rfl, ?_⟩
      rw [toNat_ofNat_of_valid]
      · omega
      · rcases valid with small | large
        · exact .inl (by omega)
        · exact .inr ⟨by omega, by omega⟩
    | succ k =>
      have from_least := Nat.mul_le_mul_right (64 ^ (k + 1)) least_le
      have to_most := Nat.mul_le_mul_right (64 ^ (k + 1)) le_most
      have lowest : (read * 64 + (0x80 - 0x80)) * 64 ^ k = read * 64 ^ (k + 1) := by ring
      have highest : (read * 64 + (0xBF - 0x80) + 1) * 64 ^ k = (read + 1) * 64 ^ (k + 1) := by ring
      refine .inr ⟨_, rfl, Nat.le_refl _, ?_, ?_⟩
      · dsimp only
        omega
      · dsimp only
        omega
  · exact .inr rfl

/-- Each byte of ASCII is a character of its own, and no other character is one of ASCII. -/
theorem filter_ascii_decodeFrom (o : Option Open) (proper : ∀ s, o = some s → s.Proper) (bytes : List UInt8) :
    (decodeFrom o bytes).filter (·.toNat < 128) = (bytes.filter (· < 128)).map fun b => Char.ofNat b.toNat := by
  have other : decide (replacement.toNat < 128) = false := by decide
  have alone : ∀ b : UInt8, b < 128 → decide ((Char.ofNat b.toNat).toNat < 128) = true := by
    intro b small
    rw [toNat_ofByte]
    exact decide_eq_true small
  induction bytes generalizing o with
  | nil =>
    cases o with
    | none => rfl
    | some s => rfl
  | cons b bytes ih =>
    have closed := ih none (by simp)
    have opened : ∀ s : Open, s.Proper → (decodeFrom (some s) bytes).filter (·.toNat < 128) =
        (bytes.filter (· < 128)).map fun b => Char.ofNat b.toNat := by
      intro s proper
      exact ih (some s) (by simp [proper])
    cases o with
    | none =>
      rcases lead_cases b with ⟨small, read⟩ | ⟨large, ⟨s, read, proper⟩ | read⟩
      · simp [decodeFrom, read, small, alone, closed]
      · simp [decodeFrom, read, large, opened s proper]
      · simp [decodeFrom, read, large, other, closed]
    | some s =>
      rcases (proper s rfl).next_cases b with ⟨large, ⟨c, next, beyond⟩ | ⟨t, next, proper⟩⟩ | next
      · have high : decide (c.toNat < 128) = false := decide_eq_false (Nat.not_lt.mpr beyond)
        simp [decodeFrom, next, large, high, closed]
      · simp [decodeFrom, next, large, opened t proper]
      · rcases lead_cases b with ⟨small, read⟩ | ⟨large, ⟨t, read, proper⟩ | read⟩
        · simp [decodeFrom, next, read, small, other, alone, closed]
        · simp [decodeFrom, next, read, large, other, opened t proper]
        · simp [decodeFrom, next, read, large, other, closed]

theorem filter_ascii_decode (bytes : List UInt8) :
    (decode bytes).filter (·.toNat < 128) = (bytes.filter (· < 128)).map fun b => Char.ofNat b.toNat :=
  filter_ascii_decodeFrom none (by simp) bytes

/- Without replacements every character beyond ASCII takes two bytes or more; the first of them may have been read. -/
theorem length_decodeFrom (o : Option Open) (proper : ∀ s, o = some s → s.Proper) (bytes : List UInt8)
    (whole : replacement ∉ decodeFrom o bytes) :
    2 * (decodeFrom o bytes).length ≤ bytes.length + (bytes.filter (· < 128)).length + (if o.isSome then 1 else 0) := by
  induction bytes generalizing o with
  | nil =>
    cases o with
    | none => simp [decodeFrom]
    | some s => simp [decodeFrom] at whole
  | cons b bytes ih =>
    have closed := ih none (by simp)
    have opened : ∀ s : Open, s.Proper → replacement ∉ decodeFrom (some s) bytes →
        2 * (decodeFrom (some s) bytes).length ≤ bytes.length + (bytes.filter (· < 128)).length + 1 := by
      intro s proper whole
      exact ih (some s) (by simp [proper]) whole
    cases o with
    | none =>
      rcases lead_cases b with ⟨small, read⟩ | ⟨large, ⟨s, read, proper⟩ | read⟩
      · simp only [decodeFrom, read, List.mem_cons, not_or] at whole
        have rest := closed whole.2
        simp only [Option.isSome_none, Bool.false_eq_true, if_false] at rest
        simp only [decodeFrom, read, List.length_cons, List.filter_cons, small, decide_true, if_true]
        omega
      · simp only [decodeFrom, read] at whole
        have rest := opened s proper whole
        simp only [decodeFrom, read, List.length_cons, List.filter_cons, large, decide_false, Bool.false_eq_true,
          if_false]
        omega
      · simp [decodeFrom, read] at whole
    | some s =>
      rcases (proper s rfl).next_cases b with ⟨large, ⟨c, next, -⟩ | ⟨t, next, proper⟩⟩ | next
      · simp only [decodeFrom, next, List.mem_cons, not_or] at whole
        have rest := closed whole.2
        simp only [Option.isSome_none, Bool.false_eq_true, if_false] at rest
        simp only [decodeFrom, next, List.length_cons, List.filter_cons, large, decide_false, Bool.false_eq_true,
          if_false, Option.isSome_some, if_true]
        omega
      · simp only [decodeFrom, next] at whole
        have rest := opened t proper whole
        simp only [decodeFrom, next, List.length_cons, List.filter_cons, large, decide_false, Bool.false_eq_true,
          if_false, Option.isSome_some, if_true]
        omega
      · refine absurd ?_ whole
        cases read : lead b with
        | whole c => simp [decodeFrom, next, read]
        | opens t => simp [decodeFrom, next, read]
        | never => simp [decodeFrom, next, read]

theorem decode_ascii (ascii : ∀ b ∈ bytes, b < 128) : decode bytes = bytes.map fun b => Char.ofNat b.toNat := by
  unfold decode
  induction bytes with
  | nil => rfl
  | cons b bytes ih =>
    rw [List.forall_mem_cons] at ascii
    rcases lead_cases b with ⟨-, read⟩ | ⟨large, -⟩
    · simp [decodeFrom, read, ih ascii.2]
    · exact absurd ascii.1 large

/-- Bytes are the numbers of the characters only in ASCII. -/
theorem decode_eq_numbers_iff (bytes : List UInt8) :
    decode bytes = bytes.map (fun b => Char.ofNat b.toNat) ↔ ∀ b ∈ bytes, b < 128 := by
  refine ⟨fun same => ?_, decode_ascii⟩
  have whole : replacement ∉ decode bytes := by
    rw [same, List.mem_map]
    rintro ⟨b, -, equal⟩
    have small := b.toNat_lt
    have number := congrArg Char.toNat equal
    rw [toNat_ofByte] at number
    have place : replacement.toNat = 65533 := rfl
    omega
  have short := length_decodeFrom none (by simp) bytes whole
  have long : (decodeFrom none bytes).length = bytes.length := by
    rw [← decode, same, List.length_map]
  have fewer := List.length_filter_le (fun b : UInt8 => decide (b < 128)) bytes
  have all : (bytes.filter (· < 128)).length = bytes.length := by
    rw [long] at short
    simp only [Option.isSome_none, Bool.false_eq_true, if_false] at short
    omega
  intro b inside
  exact of_decide_eq_true (List.length_filter_eq_length_iff.mp all b inside)

end CBindings.Text.Utf8
