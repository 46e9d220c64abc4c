import CBindings.Number.Reading
import CBindings.Number.Shortest
import CBindings.Proofs.Text.Cutting

/-! Numbers as they are written in decimal: a sign, digits, and perhaps digits after a point and an exponent. What is
written so reads as a fraction in any case, and as an integer exactly if it has neither point nor exponent. -/
namespace CBindings.Number

variable {c : Char} {ds rest : List Char}

theorem isDigit_iff (c : Char) : c.isDigit = true ↔ 48 ≤ c.toNat ∧ c.toNat ≤ 57 := by
  simp [Char.isDigit, UInt32.le_iff_toNat_le]

theorem digitValue?_digit (digit : c.isDigit = true) : digitValue? 10 c = some (c.toNat - 48) := by
  have bounds := (isDigit_iff c).mp digit
  have range : '0' ≤ c ∧ c ≤ '9' := by
    simpa [Char.le_def, UInt32.le_iff_toNat_le] using bounds
  have small : c.toNat - 48 < 10 := by omega
  simp [digitValue?, range, small]

/-- The value of decimal digits that follow others of the value `n`. -/
def valueFrom (n : Nat) (ds : List Char) : Nat := ds.foldl (fun n c => n * 10 + (digitValue? 10 c).getD 0) n

theorem digitsValue_eq (ds : List Char) : digitsValue 10 ds = valueFrom 0 ds := rfl

theorem valueFrom_eq_ofDigitChars (digits : ∀ c ∈ ds, c.isDigit = true) (n : Nat) :
    valueFrom n ds = Nat.ofDigitChars 10 ds n := by
  induction ds generalizing n with
  | nil => rfl
  | cons c ds ih =>
    have first := digitValue?_digit (digits c List.mem_cons_self)
    have later := ih (fun d inside => digits d (List.mem_cons_of_mem c inside)) (n * 10 + (c.toNat - 48))
    rw [Nat.ofDigitChars_cons, Nat.mul_comm 10 n]
    simpa [valueFrom, first] using later

theorem isDigit_toDigits (n : Nat) : ∀ c ∈ Nat.toDigits 10 n, c.isDigit = true :=
  fun _ inside => Nat.isDigit_of_mem_toDigits (by decide) (by decide) inside

theorem digitsValue_toDigits (n : Nat) : digitsValue 10 (Nat.toDigits 10 n) = n := by
  rw [digitsValue_eq, valueFrom_eq_ofDigitChars (isDigit_toDigits n), Nat.ofDigitChars_ten_toDigits]

/-- A run of digits is read to its end, if neither a digit nor an underscore follows. -/
theorem digitRun_digits (digits : ∀ c ∈ ds, c.isDigit = true)
    (stop : ∀ c, rest.head? = some c → digitValue? 10 c = none ∧ c ≠ '_') (run : Run) (unbroken : run.broken = false)
    (counted : run.count + ds.length ≠ 0) :
    digitRun 10 run (ds ++ rest) = some (⟨valueFrom run.value ds, run.count + ds.length, false⟩, rest) := by
  induction ds generalizing run with
  | nil =>
    obtain ⟨value, count, broken⟩ := run
    simp only at unbroken
    subst unbroken
    have some : count ≠ 0 := by simpa using counted
    cases rest with
    | nil => simp [digitRun, valueFrom, some]
    | cons c rest =>
      obtain ⟨other, plain⟩ := stop c rfl
      simp [digitRun, valueFrom, some, other, plain]
  | cons c ds ih =>
    have first := digitValue?_digit (digits c List.mem_cons_self)
    have later := ih (fun d inside => digits d (List.mem_cons_of_mem c inside))
      ⟨run.value * 10 + (c.toNat - 48), run.count + 1, false⟩ rfl (by simp)
    simp only [List.cons_append, digitRun, first, later]
    simp [valueFrom, first, Nat.add_comm, Nat.add_left_comm]

/-- A number as it is written in decimal. -/
structure Written where
  negative : Bool
  whole : List Char
  part : List Char := []
  exponent : Option Int := none
  nonempty : whole ≠ []
  digits : ∀ c ∈ whole ++ part, c.isDigit = true

namespace Written

variable (w : Written)

def isWhole : Bool := w.part.isEmpty && w.exponent.isNone

def exponentChars : Option Int → List Char
  | none => []
  | some e => Binary64.exponentText e

/-- What stands behind the digits before the point. -/
def tail : List Char := (if w.part.isEmpty then [] else '.' :: w.part) ++ exponentChars w.exponent

def unsigned : List Char := w.whole ++ w.tail

def text : List Char := if w.negative then '-' :: w.unsigned else w.unsigned

/-- The integer before the point, with its sign. -/
def integer : Int := if w.negative then -(digitsValue 10 w.whole : Int) else digitsValue 10 w.whole

def ofInt (n : Int) : Written where
  negative := decide (n < 0)
  whole := Nat.toDigits 10 n.natAbs
  nonempty := Nat.toDigits_ne_nil
  digits := by simpa using isDigit_toDigits n.natAbs

theorem integer_ofInt (n : Int) : (ofInt n).integer = n := by
  simp only [integer, ofInt, digitsValue_toDigits, decide_eq_true_eq]
  split
  · omega
  · omega

/-- The characters of an exponent, its mark apart. -/
theorem mem_exponentText {e : Int} (inside : c ∈ Binary64.exponentText e) :
    c = 'e' ∨ c = '-' ∨ c = '+' ∨ c.isDigit = true := by
  have digits := isDigit_toDigits e.natAbs c
  unfold Binary64.exponentText at inside
  dsimp only at inside
  rcases List.mem_cons.mp inside with rfl | inside
  · exact .inl rfl
  rcases List.mem_cons.mp inside with sign | inside
  · split at sign
    · exact .inr (.inl sign)
    · exact .inr (.inr (.inl sign))
  refine .inr (.inr (.inr ?_))
  split at inside
  · rcases List.mem_cons.mp inside with rfl | inside
    · rfl
    · exact digits inside
  · exact digits inside

theorem mem_text (inside : c ∈ w.text) : c.isDigit = true ∨ c ∈ ['-', '+', '.', 'e'] := by
  have plain : c ∈ w.unsigned → c.isDigit = true ∨ c ∈ ['-', '+', '.', 'e'] := by
    intro inside
    rcases List.mem_append.mp inside with inside | inside
    · exact .inl (w.digits c (List.mem_append_left _ inside))
    rcases List.mem_append.mp inside with inside | inside
    · split at inside
      · cases inside
      · rcases List.mem_cons.mp inside with rfl | inside
        · simp
        · exact .inl (w.digits c (List.mem_append_right _ inside))
    · cases given : w.exponent with
      | none =>
        rw [given] at inside
        cases inside
      | some e =>
        rw [given] at inside
        rcases mem_exponentText inside with rfl | rfl | rfl | digit
        · simp
        · simp
        · simp
        · exact .inl digit
  unfold text at inside
  split at inside
  · rcases List.mem_cons.mp inside with rfl | inside
    · simp
    · exact plain inside
  · exact plain inside

theorem not_blank_of_mem_text (inside : c ∈ w.text) :
    c.toNat < 128 ∧ c ≠ '_' ∧ Text.isPlainBlank c = false ∧ Text.isBlank c = false := by
  rcases w.mem_text inside with digit | mark
  · have bounds := (isDigit_iff c).mp digit
    have other : c ≠ '_' := by
      rintro rfl
      cases digit
    have plain : Text.isPlainBlank c = false := by
      simp only [Text.isPlainBlank, Bool.or_eq_false_iff, Bool.and_eq_false_iff, beq_eq_false_iff_ne,
        decide_eq_false_iff_not]
      omega
    have blank : Text.isBlank c = false := by
      simp [Text.isBlank, Text.inRanges, Text.blankRanges]
      omega
    exact ⟨by omega, other, plain, blank⟩
  · simp only [List.mem_cons, List.not_mem_nil, or_false] at mark
    rcases mark with rfl | rfl | rfl | rfl
    · decide
    · decide
    · decide
    · decide

theorem inAscii_text : inAscii w.text = some w.text := by
  have ascii : w.text.all (·.toNat < 128) = true := by
    rw [List.all_eq_true]
    intro c inside
    exact decide_eq_true (w.not_blank_of_mem_text inside).1
  rw [inAscii, if_pos ascii]

/- The digits before the point come first. -/
theorem unsigned_head : ∃ d more, w.unsigned = d :: more ∧ d.isDigit = true := by
  obtain ⟨d, more, starts⟩ := List.exists_cons_of_ne_nil w.nonempty
  refine ⟨d, more ++ w.tail, by simp [unsigned, starts], w.digits d ?_⟩
  simp [starts]

theorem splitSign_text : splitSign w.text = (w.negative, w.unsigned) := by
  obtain ⟨d, more, starts, digit⟩ := w.unsigned_head
  unfold text
  split
  · rename_i negative
    rw [negative]
    rfl
  · rename_i positive
    have sign : d ≠ '+' ∧ d ≠ '-' := by
      constructor
      · rintro rfl
        cases digit
      · rintro rfl
        cases digit
    rw [Bool.not_eq_true] at positive
    rw [starts, positive]
    unfold splitSign
    split
    · exact absurd (List.cons.inj ‹_›).1 sign.1
    · exact absurd (List.cons.inj ‹_›).1 sign.2
    · rfl

theorem exponentChars_head {exponent : Option Int} (first : (exponentChars exponent).head? = some c) : c = 'e' := by
  cases exponent with
  | none => cases first
  | some e => exact (Option.some.inj first).symm

/- A point or an exponent ends the digits. -/
theorem tail_head (c : Char) (first : w.tail.head? = some c) : c = '.' ∨ c = 'e' := by
  unfold tail at first
  split at first
  · exact .inr (exponentChars_head first)
  · exact .inl (Option.some.inj first).symm

theorem tail_eq_nil_iff : w.tail = [] ↔ w.isWhole = true := by
  unfold tail isWhole
  cases w.part with
  | nil =>
    cases w.exponent with
    | none => simp [exponentChars]
    | some e => simp [exponentChars, Binary64.exponentText]
  | cons d part => simp

theorem dropBaseMark_ten (s : List Char) : dropBaseMark 10 s = s := by
  unfold dropBaseMark
  split
  · simp
  · rfl

/-- What is written with neither point nor exponent reads as the integer, and all else does not read as one. -/
theorem readInteger_text (short : w.whole.length ≤ decimalLimit) :
    readInteger 10 w.text = if w.isWhole then some w.integer else none := by
  have snug : Text.Snug Text.isPlainBlank w.text :=
    Text.snug_of_none fun c inside => (w.not_blank_of_mem_text inside).2.2.1
  have digits : ∀ c ∈ w.whole, c.isDigit = true := fun c inside => w.digits c (List.mem_append_left _ inside)
  have stop : ∀ c, w.tail.head? = some c → digitValue? 10 c = none ∧ c ≠ '_' := by
    intro c first
    rcases w.tail_head c first with rfl | rfl
    · decide
    · decide
  have counted : 0 + w.whole.length ≠ 0 := by
    have some := List.length_pos_of_ne_nil w.nonempty
    omega
  have run := digitRun_digits digits stop {} rfl counted
  have read : readInteger 10 w.text =
      if !w.tail.all Text.isPlainBlank then none
      else if decimalLimit < w.whole.length then none
      else if w.negative then some (-(digitsValue 10 w.whole : Int)) else some (digitsValue 10 w.whole) := by
    have start := Text.stripStart_eq_self snug.head
    unfold readInteger
    simp only [w.inAscii_text, Option.bind_eq_bind, Option.bind_some, start, w.splitSign_text, dropBaseMark_ten,
      unsigned, run, beq_self_eq_true, Bool.true_and, decide_eq_true_eq, Nat.zero_add, digitsValue_eq]
  rw [read, if_neg (Nat.not_lt.mpr short)]
  by_cases whole : w.isWhole = true
  · have nothing := w.tail_eq_nil_iff.mpr whole
    simp only [whole, nothing, integer, List.all_nil, Bool.not_true, Bool.false_eq_true, if_false, if_true]
    split
    · rfl
    · rfl
  · obtain ⟨c, more, starts⟩ := List.exists_cons_of_ne_nil fun nothing => whole (w.tail_eq_nil_iff.mp nothing)
    have blank : Text.isPlainBlank c = false := by
      rcases w.tail_head c (by simp [starts]) with rfl | rfl
      · decide
      · decide
    simp [whole, starts, blank]

theorem dropUnderscores_of_none {s : List Char} {previous : Char} (free : '_' ∉ s) (before : previous ≠ '_') :
    dropUnderscores previous s = some s := by
  induction s generalizing previous with
  | nil => simp [dropUnderscores, before]
  | cons c s ih =>
    have other : c ≠ '_' := fun same => free (same ▸ List.mem_cons_self)
    have later := ih (fun inside => free (List.mem_cons_of_mem c inside)) other
    simp [dropUnderscores, other, before, later]

theorem readExponent_text (e : Int) : readExponent (Binary64.exponentText e).tail = some (e, []) := by
  have digits := isDigit_toDigits e.natAbs
  have value := digitsValue_toDigits e.natAbs
  obtain ⟨ds, same, digits', value', nonempty⟩ : ∃ ds,
      (if (Nat.toDigits 10 e.natAbs).length < 2 then '0' :: Nat.toDigits 10 e.natAbs else Nat.toDigits 10 e.natAbs) =
        ds ∧ (∀ c ∈ ds, c.isDigit = true) ∧ digitsValue 10 ds = e.natAbs ∧ ds.isEmpty = false := by
    refine ⟨_, rfl, ?_⟩
    split
    · refine ⟨?_, value, rfl⟩
      simpa using digits
    · exact ⟨digits, value, by simp⟩
  have all : ds.takeWhile Char.isDigit = ds := List.takeWhile_eq_self_iff.mpr digits'
  have rest : ds.dropWhile Char.isDigit = [] := List.dropWhile_eq_nil_iff.mpr digits'
  simp only [Binary64.exponentText, same, List.tail_cons, readExponent]
  by_cases negative : e < 0
  · have back : -(digitsValue 10 ds : Int) = e := by omega
    simp [negative, splitSign, all, rest, nonempty, back]
  · have back : (digitsValue 10 ds : Int) = e := by omega
    simp [negative, splitSign, all, rest, nonempty, back]

theorem splitPoint_unsigned : splitPoint Char.isDigit w.unsigned = (w.whole, w.part, exponentChars w.exponent) := by
  have digits : ∀ c ∈ w.whole, c.isDigit = true := fun c inside => w.digits c (List.mem_append_left _ inside)
  have digits' : ∀ c ∈ w.part, c.isDigit = true := fun c inside => w.digits c (List.mem_append_right _ inside)
  have stop : ∀ c, w.tail.head? = some c → c.isDigit = false := by
    intro c first
    rcases w.tail_head c first with rfl | rfl
    · rfl
    · rfl
  have stop' : ∀ c, (exponentChars w.exponent).head? = some c → c.isDigit = false := by
    intro c first
    rw [exponentChars_head first]
    rfl
  unfold splitPoint unsigned
  rw [Text.takeWhile_run digits stop, Text.dropWhile_run digits stop, tail]
  cases given : w.part with
  | nil =>
    cases w.exponent with
    | none => rfl
    | some e => rfl
  | cons d part =>
    rw [given] at digits'
    have before := Text.takeWhile_run digits' stop'
    have behind := Text.dropWhile_run digits' stop'
    simp only [List.isEmpty_cons, Bool.false_eq_true, if_false, List.cons_append] at before behind ⊢
    rw [before, behind]

/- The parts of a number can be told from its text. -/
theorem parts_of_text_eq {w w' : Written} (same : w.text = w'.text) :
    w.negative = w'.negative ∧ w.whole = w'.whole ∧ w.tail = w'.tail := by
  have signs := w.splitSign_text
  rw [same, w'.splitSign_text, Prod.mk.injEq] at signs
  have points := w.splitPoint_unsigned
  rw [← signs.2, w'.splitPoint_unsigned, Prod.mk.injEq] at points
  refine ⟨signs.1.symm, points.1.symm, ?_⟩
  have whole := signs.2
  rw [unsigned, unsigned, points.1] at whole
  exact (List.append_cancel_left whole).symm

/- An integer is printed without point and exponent. -/
theorem toList_toString (n : Int) : (toString n).toList = (ofInt n).text := by
  cases n with
  | ofNat n => simp [toString, Int.repr, Nat.repr, ofInt, text, unsigned, tail, exponentChars]
  | negSucc n => simp [toString, Int.repr, Nat.repr, ofInt, text, unsigned, tail, exponentChars]

theorem readDecimal_text :
    readDecimal w.text =
      some (.ofDecimal w.negative (digitsValue 10 (w.whole ++ w.part)) (w.exponent.getD 0 - w.part.length)) := by
  have snug : Text.Snug Text.isPlainBlank w.text :=
    Text.snug_of_none fun c inside => (w.not_blank_of_mem_text inside).2.2.1
  have free : '_' ∉ w.text := fun inside => (w.not_blank_of_mem_text inside).2.1 rfl
  obtain ⟨d, more, starts, digit⟩ := w.unsigned_head
  have bounds := (isDigit_iff d).mp digit
  have lower : d.toLower = d := by
    have small : ¬ ('A'.val ≤ d.val ∧ d.val ≤ 'Z'.val) := by
      simp [UInt32.le_iff_toNat_le]
      omega
    exact dif_neg small
  have word (c : Char) (rest : List Char) (other : c.isDigit = false) :
      w.unsigned.map Char.toLower ≠ c :: rest := by
    have apart : d ≠ c := fun same => by simp [← same, digit] at other
    simp [starts, lower, apart]
  have noWord := And.intro (word 'i' ['n', 'f'] rfl) (And.intro (word 'i' ['n', 'f', 'i', 'n', 'i', 't', 'y'] rfl)
    (word 'n' ['a', 'n'] rfl))
  have clean := dropUnderscores_of_none free (by decide : ' ' ≠ '_')
  cases given : w.exponent with
  | none =>
    have parts := w.splitPoint_unsigned
    rw [given, exponentChars] at parts
    simp [readDecimal, w.inAscii_text, Text.strip_eq_self snug, clean, w.splitSign_text, parts, noWord, w.nonempty]
  | some e =>
    have exponent := readExponent_text e
    have mark : Binary64.exponentText e = 'e' :: (Binary64.exponentText e).tail := rfl
    have parts := w.splitPoint_unsigned
    rw [given, exponentChars, mark] at parts
    simp [readDecimal, w.inAscii_text, Text.strip_eq_self snug, clean, w.splitSign_text, parts, noWord, w.nonempty,
      exponent]

end Written

end CBindings.Number
