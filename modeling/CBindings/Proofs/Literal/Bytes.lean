import CBindings.Literal.Quoted
import CBindings.Proofs.Text.Utf8
import CBindings.Text.Quoted

/-! Bytes as a literal in double quotes: a quote and a backslash behind a backslash, what is not printable in
hexadecimal, all else as it is. Evaluating such a literal gives the bytes back. -/
namespace CBindings.Literal

def escapeByte (b : UInt8) : List Char :=
  if b = 34 ∨ b = 92 then ['\\', Char.ofNat b.toNat]
  else if b < 32 ∨ 126 < b then '\\' :: 'x' :: Text.hexDigits 2 b.toNat
  else [Char.ofNat b.toNat]

def bytesText (bytes : List UInt8) : List Char := 'b' :: '"' :: bytes.flatMap escapeByte ++ ['"']

variable {b : UInt8} {c : Char}

/-- Between quotes the character stands for itself. -/
structure Plain (c : Char) : Prop where
  low : 32 ≤ c.toNat
  high : c.toNat ≤ 126
  notQuote : c ≠ '"'
  notBackslash : c ≠ '\\'

theorem Plain.notLine (plain : Plain c) : c ≠ '\n' := by
  rintro rfl
  exact absurd plain.low (by decide)

theorem hexDigit_plain (n : Nat) (small : n < 16) :
    Plain (Text.hexDigit n) ∧ Number.digitValue? 16 (Text.hexDigit n) = some n := by
  have listed : ∀ n < 16, (32 ≤ (Text.hexDigit n).toNat ∧ (Text.hexDigit n).toNat ≤ 126 ∧ Text.hexDigit n ≠ '"' ∧
      Text.hexDigit n ≠ '\\') ∧ Number.digitValue? 16 (Text.hexDigit n) = some n := by
    decide
  obtain ⟨⟨low, high, quote, backslash⟩, value⟩ := listed n small
  exact ⟨⟨low, high, quote, backslash⟩, value⟩

/- The three ways to write a byte. -/
theorem escapeByte_cases (b : UInt8) :
    (∃ c, escapeByte b = ['\\', c] ∧ (c = '"' ∨ c = '\\') ∧ c.toNat = b.toNat) ∨
      (∃ h l, escapeByte b = ['\\', 'x', h, l] ∧ Plain h ∧ Plain l ∧ hexValue? [h, l] = some b.toNat) ∨
      ∃ c, escapeByte b = [c] ∧ Plain c ∧ c.toNat = b.toNat := by
  have same := Text.Utf8.toNat_ofByte b
  unfold escapeByte
  split
  · rename_i special
    refine .inl ⟨_, rfl, ?_, same⟩
    rcases special with rfl | rfl
    · exact .inl rfl
    · exact .inr rfl
  · rename_i ordinary
    split
    · have small := b.toNat_lt
      obtain ⟨plain, value⟩ := hexDigit_plain (b.toNat / 16 % 16) (by omega)
      obtain ⟨plain', value'⟩ := hexDigit_plain (b.toNat % 16) (by omega)
      refine .inr (.inl ⟨_, _, rfl, plain, plain', ?_⟩)
      have total : b.toNat / 16 % 16 * 16 + b.toNat % 16 = b.toNat := by omega
      simp [hexValue?, Number.isHexDigit, Number.digitsValue, value, value', total]
    · rename_i printable
      refine .inr (.inr ⟨_, rfl, ?_, same⟩)
      simp only [UInt8.lt_iff_toNat_lt, UInt8.reduceToNat, not_or, Nat.not_lt] at printable
      refine ⟨by omega, by omega, ?_, ?_⟩
      · intro quote
        have byte : b.toNat = 34 := by rw [← same, quote]; rfl
        exact ordinary (.inl (UInt8.toNat_inj.mp byte))
      · intro backslash
        have byte : b.toNat = 92 := by rw [← same, backslash]; rfl
        exact ordinary (.inr (UInt8.toNat_inj.mp byte))

theorem mem_escapeByte (inside : c ∈ escapeByte b) : 32 ≤ c.toNat ∧ c.toNat ≤ 126 := by
  rcases escapeByte_cases b with ⟨d, shape, special, -⟩ | ⟨h, l, shape, plain, plain', -⟩ | ⟨d, shape, plain, -⟩
  · rw [shape] at inside
    simp only [List.mem_cons, List.not_mem_nil, or_false] at inside
    rcases inside with rfl | rfl
    · decide
    · rcases special with rfl | rfl
      · decide
      · decide
  · rw [shape] at inside
    simp only [List.mem_cons, List.not_mem_nil, or_false] at inside
    rcases inside with rfl | rfl | rfl | rfl
    · decide
    · decide
    · exact ⟨plain.low, plain.high⟩
    · exact ⟨plain'.low, plain'.high⟩
  · rw [shape] at inside
    rw [List.mem_singleton.mp inside]
    exact ⟨plain.low, plain.high⟩

theorem mem_bytesText {bytes : List UInt8} (inside : c ∈ bytesText bytes) : 32 ≤ c.toNat ∧ c.toNat ≤ 126 := by
  simp only [bytesText, List.cons_append, List.mem_cons, List.mem_append, List.mem_flatMap, List.not_mem_nil,
    or_false] at inside
  rcases inside with rfl | rfl | ⟨b, -, inside⟩ | rfl
  · decide
  · decide
  · exact mem_escapeByte inside
  · decide

section Scanning

variable {asBytes : Bool} {body rest : List Char}

theorem scan_plain (notQuote : c ≠ '"') (notBackslash : c ≠ '\\') (notLine : c ≠ '\n') :
    scan (.inside false asBytes '"' false body) (c :: rest) =
      scan (.inside false asBytes '"' false (c :: body)) rest := by
  cases rest with
  | nil => simp [scan, notQuote, notBackslash, notLine]
  | cons d more => simp [scan, notQuote, notBackslash, notLine]

theorem scan_escaped (c : Char) :
    scan (.inside false asBytes '"' false body) ('\\' :: c :: rest) =
      scan (.inside false asBytes '"' false (c :: '\\' :: body)) rest := by
  simp [scan]

/- Behind the opening quote stands either the closing one or a character that is no quote. -/
theorem scan_opened {marks : List Char} (marked : marksOf marks = some (false, asBytes))
    (first : body.head? ≠ some '"') :
    scan (.outside marks) ('"' :: (body ++ ['"'])) = scan (.inside false asBytes '"' false []) (body ++ ['"']) := by
  cases body with
  | nil => simp [scan, marked]
  | cons c body =>
    have other : c ≠ '"' := fun same => first (congrArg some same)
    obtain ⟨d, more, behind⟩ := List.exists_cons_of_ne_nil
      (List.append_ne_nil_of_right_ne_nil body (List.cons_ne_nil '"' []))
    rw [List.cons_append, behind, scan.eq_def]
    simp [marked, other]

end Scanning

/- One byte is passed as a whole. -/
theorem scan_byte (b : UInt8) (body rest : List Char) :
    scan (.inside false true '"' false body) (escapeByte b ++ rest) =
      scan (.inside false true '"' false ((escapeByte b).reverse ++ body)) rest := by
  rcases escapeByte_cases b with ⟨c, shape, -⟩ | ⟨h, l, shape, plain, plain', -⟩ | ⟨c, shape, plain, -⟩
  · simp [shape, scan_escaped]
  · simp [shape, scan_escaped, scan_plain plain.notQuote plain.notBackslash plain.notLine,
      scan_plain plain'.notQuote plain'.notBackslash plain'.notLine]
  · simp [shape, scan_plain plain.notQuote plain.notBackslash plain.notLine]

theorem scan_bytes (bytes : List UInt8) (body : List Char) :
    scan (.inside false true '"' false body) (bytes.flatMap escapeByte ++ ['"']) =
      some [⟨false, true, body.reverse ++ bytes.flatMap escapeByte⟩] := by
  induction bytes generalizing body with
  | nil => simp [scan]
  | cons b bytes ih =>
    rw [List.flatMap_cons, List.append_assoc, scan_byte, ih]
    simp

theorem unescape_plain (asBytes : Bool) (notBackslash : c ≠ '\\') (ascii : c.toNat < 128) (rest : List Char) :
    unescape asBytes none (c :: rest) = (unescape asBytes none rest).map (c.toNat :: ·) := by
  simp [unescape, notBackslash, Nat.not_le.mpr ascii]

theorem unescape_byte (b : UInt8) (rest : List Char) :
    unescape true none (escapeByte b ++ rest) = (unescape true none rest).map (b.toNat :: ·) := by
  rcases escapeByte_cases b with ⟨c, shape, special, value⟩ | ⟨h, l, shape, -, -, value⟩ | ⟨c, shape, plain, value⟩
  · rw [shape, ← value, unescape.eq_def]
    rcases special with rfl | rfl
    · rfl
    · rfl
  · simp [shape, unescape, value]
  · rw [shape, ← value]
    exact unescape_plain true plain.notBackslash (Nat.lt_of_le_of_lt plain.high (by decide)) rest

theorem unescape_bytes (bytes : List UInt8) :
    unescape true none (bytes.flatMap escapeByte) = some (bytes.map UInt8.toNat) := by
  induction bytes with
  | nil => rfl
  | cons b bytes ih => simp [unescape_byte, ih]

theorem unifyLineEnds_of_none {s : List Char} (none : '\r' ∉ s) : unifyLineEnds s = s := by
  induction s with
  | nil => rfl
  | cons c s ih =>
    have other : c ≠ '\r' := fun same => none (same ▸ List.mem_cons_self)
    have later := ih fun inside => none (List.mem_cons_of_mem c inside)
    simp [unifyLineEnds, other, later]

theorem scan_bytesText (bytes : List UInt8) :
    scan (.outside []) (bytesText bytes) = some [⟨false, true, bytes.flatMap escapeByte⟩] := by
  have first : (bytes.flatMap escapeByte).head? ≠ some '"' := by
    cases bytes with
    | nil => simp
    | cons b bytes =>
      rcases escapeByte_cases b with ⟨c, shape, -⟩ | ⟨h, l, shape, -⟩ | ⟨c, shape, plain, -⟩
      · simp [shape]
      · simp [shape]
      · simp [shape, plain.notQuote]
  have marked : scan (.outside []) (bytesText bytes) =
      scan (.outside ['b']) ('"' :: (bytes.flatMap escapeByte ++ ['"'])) := by
    simp [bytesText, scan]
  rw [marked, scan_opened rfl first, scan_bytes]
  rfl

/- What one literal without marks for raw text denotes. -/
theorem evaluate_of_scan {asBytes : Bool} {s body : List Char} (noZero : '\x00' ∉ s)
    (scanned : scan (.outside []) (unifyLineEnds s) = some [⟨false, asBytes, body⟩]) :
    evaluate s = (unescape asBytes none body).bind (denoted asBytes) := by
  cases numbers : unescape asBytes none body with
  | none => simp [evaluate, noZero, scanned, Piece.numbers, numbers]
  | some numbers => simp [evaluate, noZero, scanned, Piece.numbers, numbers]

theorem evaluate_bytesText (bytes : List UInt8) : evaluate (bytesText bytes) = some (.bytes bytes) := by
  have noZero : '\x00' ∉ bytesText bytes := fun inside => absurd (mem_bytesText inside).1 (by decide)
  have noReturn : '\r' ∉ bytesText bytes := fun inside => absurd (mem_bytesText inside).1 (by decide)
  have back : bytes.map (Nat.toUInt8 ∘ UInt8.toNat) = bytes := by
    have each : Nat.toUInt8 ∘ UInt8.toNat = id := funext fun b => UInt8.ofNat_toNat
    rw [each, List.map_id]
  have scanned : scan (.outside []) (unifyLineEnds (bytesText bytes)) =
      some [⟨false, true, bytes.flatMap escapeByte⟩] := by
    rw [unifyLineEnds_of_none noReturn, scan_bytesText]
  rw [evaluate_of_scan noZero scanned, unescape_bytes]
  simp [denoted, back]

end CBindings.Literal
