import CBindings.Proofs.Number.Decimal
import Mathlib.Data.Nat.Digits.Defs

/-! Digits in a base, with letters in either case, and what a run of them is worth: each digit times the power of the
base that belongs to its place. A text that holds nothing but digits behind its base mark reads as that number. -/
namespace CBindings.Text

theorem toNat_toLower (c : Char) :
    c.toLower.toNat = if 65 ≤ c.toNat ∧ c.toNat ≤ 90 then c.toNat + 32 else c.toNat := by
  have range : ('A'.val ≤ c.val ∧ c.val ≤ 'Z'.val) ↔ 65 ≤ c.toNat ∧ c.toNat ≤ 90 := by
    simp [UInt32.le_iff_toNat_le]
  unfold Char.toLower
  split
  · rename_i capital
    have bounds := range.mp capital
    rw [if_pos bounds]
    change (c.val + 32).toNat = c.toNat + 32
    rw [UInt32.toNat_add]
    change (c.toNat + 32) % 4294967296 = c.toNat + 32
    omega
  · rename_i other
    rw [if_neg fun bounds => other (range.mpr bounds)]

theorem toLower_eq_iff {c small : Char} (first : 97 ≤ small.toNat) (last : small.toNat ≤ 122) :
    c.toLower = small ↔ c.toNat = small.toNat ∨ c.toNat + 32 = small.toNat := by
  rw [← Char.toNat_inj, toNat_toLower]
  split
  · omega
  · omega

theorem toLower_eq_letter_iff {c : Char} (small capital : Char) (first : 97 ≤ small.toNat := by decide)
    (last : small.toNat ≤ 122 := by decide) (apart : capital.toNat + 32 = small.toNat := by decide) :
    c.toLower = small ↔ c = small ∨ c = capital := by
  rw [toLower_eq_iff first last, ← apart, Nat.add_right_cancel_iff, apart, Char.toNat_inj, Char.toNat_inj]

theorem toNat_toUpper (c : Char) :
    c.toUpper.toNat = if 97 ≤ c.toNat ∧ c.toNat ≤ 122 then c.toNat - 32 else c.toNat := by
  have range : ('a'.val ≤ c.val ∧ c.val ≤ 'z'.val) ↔ 97 ≤ c.toNat ∧ c.toNat ≤ 122 := by
    simp [UInt32.le_iff_toNat_le]
  unfold Char.toUpper
  split
  · rename_i small
    have bounds := range.mp small
    rw [if_pos bounds]
    change (c.val + 4294967264).toNat = c.toNat - 32
    rw [UInt32.toNat_add]
    change (c.toNat + 4294967264) % 4294967296 = c.toNat - 32
    omega
  · rename_i other
    rw [if_neg fun bounds => other (range.mpr bounds)]

end CBindings.Text

namespace CBindings.Number

variable {base n : Nat} {c : Char} {s cs : List Char} {ds : List Nat}

/-- The character is the digit, in either case if it is a letter. -/
def IsDigit (base : Nat) (c : Char) (d : Nat) : Prop := d < base ∧ c.toLower = Nat.digitChar d

/-- The characters are these digits. -/
def Spelled (base : Nat) : List Char → List Nat → Prop := List.Forall₂ (IsDigit base)

theorem toNat_digitChar {d : Nat} (small : d < 16) : (Nat.digitChar d).toNat = if d < 10 then 48 + d else 87 + d := by
  have listed : ∀ d < 16, (Nat.digitChar d).toNat = if d < 10 then 48 + d else 87 + d := by decide
  exact listed d small

/- In code points: ten digits, then the letters from `a` and from `A` on. -/
theorem isDigit_iff_toNat (most : base ≤ 16) {d : Nat} :
    IsDigit base c d ↔ d < base ∧
      (c.toNat = 48 + d ∧ d < 10 ∨ (c.toNat = 87 + d ∨ c.toNat = 55 + d) ∧ 10 ≤ d) := by
  refine and_congr_right fun below => ?_
  rw [← Char.toNat_inj, Text.toNat_toLower, toNat_digitChar (by omega)]
  split
  · split
    · omega
    · omega
  · split
    · omega
    · omega

theorem digitValue?_eq_some_iff (most : base ≤ 16) {d : Nat} : digitValue? base c = some d ↔ IsDigit base c d := by
  have ranges : digitValue? base c =
      let v := if 48 ≤ c.toNat ∧ c.toNat ≤ 57 then c.toNat - 48
        else if 97 ≤ c.toNat ∧ c.toNat ≤ 122 then c.toNat - 97 + 10
        else if 65 ≤ c.toNat ∧ c.toNat ≤ 90 then c.toNat - 65 + 10
        else base
      if v < base then some v else none := by
    simp only [digitValue?, Char.le_def, UInt32.le_iff_toNat_le]
    rfl
  rw [isDigit_iff_toNat most, ranges, Option.ite_none_right_eq_some, Option.some.injEq]
  split
  · omega
  · split
    · omega
    · split
      · omega
      · omega

def hasDigit (base : Nat) (c : Char) : Bool := (digitValue? base c).isSome

theorem hasDigit_iff (most : base ≤ 16) : hasDigit base c = true ↔ ∃ d, IsDigit base c d := by
  simp only [hasDigit, Option.isSome_iff_exists, digitValue?_eq_some_iff most]

/- Every digit counts with the power of the base for the digits behind it. -/
theorem foldl_spelled (most : base ≤ 16) (spelled : Spelled base cs ds) (n : Nat) :
    cs.foldl (fun n c => n * base + (digitValue? base c).getD 0) n =
      n * base ^ ds.length + Nat.ofDigits base ds.reverse := by
  induction spelled generalizing n with
  | nil => simp
  | @cons c d cs ds digit later ih =>
    have value := (digitValue?_eq_some_iff most).mpr digit
    rw [List.foldl_cons, ih, value, Nat.ofDigits_reverse_cons, List.length_cons, Option.getD_some]
    ring

theorem digitsValue_spelled (most : base ≤ 16) (spelled : Spelled base cs ds) :
    digitsValue base cs = Nat.ofDigits base ds.reverse := by
  rw [digitsValue, foldl_spelled most spelled, Nat.zero_mul, Nat.zero_add]

theorem isDigit_of_spelled (spelled : Spelled base cs ds) (inside : c ∈ cs) : ∃ d, IsDigit base c d := by
  induction spelled with
  | nil => cases inside
  | cons digit _ ih =>
    rcases List.mem_cons.mp inside with rfl | inside
    · exact ⟨_, digit⟩
    · exact ih inside

theorem exists_spelled (digits : ∀ c ∈ cs, ∃ d, IsDigit base c d) : ∃ ds, Spelled base cs ds := by
  induction cs with
  | nil => exact ⟨[], .nil⟩
  | cons c cs ih =>
    obtain ⟨d, digit⟩ := digits c List.mem_cons_self
    obtain ⟨ds, later⟩ := ih fun c' inside => digits c' (List.mem_cons_of_mem c inside)
    exact ⟨d :: ds, .cons digit later⟩

/- A run of digits goes on to the first character that is none, unless that is an underscore. -/
theorem digitRun_eq (run : Run) (unbroken : run.broken = false)
    (stop : (s.dropWhile (hasDigit base)).head? ≠ some '_') :
    digitRun base run s =
      let digits := s.takeWhile (hasDigit base)
      if run.count + digits.length = 0 then none
      else some (⟨digits.foldl (fun n c => n * base + (digitValue? base c).getD 0) run.value,
        run.count + digits.length, false⟩, s.dropWhile (hasDigit base)) := by
  induction s generalizing run with
  | nil =>
    obtain ⟨value, count, broken⟩ := run
    simp only at unbroken
    subst unbroken
    simp [digitRun]
  | cons c s ih =>
    obtain ⟨value, count, broken⟩ := run
    simp only at unbroken
    subst unbroken
    cases found : digitValue? base c with
    | some d =>
      have digit : hasDigit base c = true := by simp [hasDigit, found]
      rw [List.dropWhile_cons_of_pos digit] at stop
      have later := ih ⟨value * base + d, count + 1, false⟩ rfl stop
      have total : count + 1 + (s.takeWhile (hasDigit base)).length ≠ 0 := by omega
      simp only [digitRun, found, later, List.takeWhile_cons_of_pos digit, List.dropWhile_cons_of_pos digit]
      simp [found, Nat.add_assoc, Nat.add_comm 1]
    | none =>
      have digit : ¬ hasDigit base c = true := by simp [hasDigit, found]
      have other : c ≠ '_' := by simpa [List.dropWhile_cons_of_neg digit] using stop
      simp [digitRun, found, other, digit]

section Tidy

/-- A text that is no longer than it has to be: nothing between its digits, nothing around it, no sign. -/
structure Tidy (s : List Char) : Prop where
  noUnderscore : '_' ∉ s
  noBlank : ∀ c ∈ s, Text.isPlainBlank c = false
  unsigned : ∀ c, s.head? = some c → c ≠ '+' ∧ c ≠ '-'

theorem Tidy.start (tidy : Tidy (s ++ cs)) : Tidy s := by
  refine ⟨fun inside => tidy.noUnderscore (List.mem_append_left cs inside),
    fun c inside => tidy.noBlank c (List.mem_append_left cs inside), ?_⟩
  cases s with
  | nil => simp
  | cons c s => exact tidy.unsigned

theorem splitSign_unsigned (unsigned : ∀ c, s.head? = some c → c ≠ '+' ∧ c ≠ '-') : splitSign s = (false, s) := by
  unfold splitSign
  split
  · exact absurd rfl (unsigned '+' rfl).1
  · exact absurd rfl (unsigned '-' rfl).2
  · rfl

theorem Tidy.snug (tidy : Tidy s) : Text.Snug Text.isPlainBlank s := Text.snug_of_none tidy.noBlank

theorem inAscii_of_ascii (ascii : ∀ c ∈ s, c.toNat < 128) : inAscii s = some s := by
  rw [inAscii, if_pos]
  simpa using ascii

theorem dropBaseMark_suffix (base : Nat) (s : List Char) : dropBaseMark base s <:+ s := by
  unfold dropBaseMark
  split
  · split
    · split
      · exact ⟨['0', _, '_'], rfl⟩
      · exact ⟨['0', _], rfl⟩
    · exact List.suffix_rfl
  · exact List.suffix_rfl

theorem dropBaseMark_mark {x : Char} (marks : base = 16 ∧ (x = 'x' ∨ x = 'X') ∨ base = 2 ∧ (x = 'b' ∨ x = 'B'))
    (free : '_' ∉ s) : dropBaseMark base ('0' :: x :: s) = s := by
  have mark : ((base == 16 && (x == 'x' || x == 'X')) || (base == 8 && (x == 'o' || x == 'O')) ||
      (base == 2 && (x == 'b' || x == 'B'))) = true := by
    rcases marks with ⟨rfl, rfl | rfl⟩ | ⟨rfl, rfl | rfl⟩ <;> rfl
  rw [dropBaseMark, if_pos mark]
  intro rest starts
  exact free (starts ▸ List.mem_cons_self)

theorem dropBaseMark_octal {x : Char} (digit : x ≠ 'o' ∧ x ≠ 'O') (s : List Char) :
    dropBaseMark 8 ('0' :: x :: s) = '0' :: x :: s := by
  simp [dropBaseMark, digit]

/-- A tidy text is an integer exactly if only digits stand behind its base mark, and in base ten not too many. -/
theorem readInteger_tidy (ascii : ∀ c ∈ s, c.toNat < 128) (tidy : Tidy s) (unmarked : dropBaseMark base s = cs)
    {i : Int} :
    readInteger base s = some i ↔ cs ≠ [] ∧ (∀ c ∈ cs, hasDigit base c = true) ∧
      (base = 10 → cs.length ≤ decimalLimit) ∧ i = (digitsValue base cs : Nat) := by
  have part := (dropBaseMark_suffix base s).subset
  rw [unmarked] at part
  have stop : (cs.dropWhile (hasDigit base)).head? ≠ some '_' := by
    intro first
    exact tidy.noUnderscore (part ((List.dropWhile_sublist _).subset (List.mem_of_head? first)))
  unfold readInteger
  simp only [inAscii_of_ascii ascii, Option.bind_eq_bind, Option.bind_some, Text.stripStart_eq_self tidy.snug.head,
    splitSign_unsigned tidy.unsigned, unmarked, digitRun_eq {} rfl stop]
  by_cases all : ∀ c ∈ cs, hasDigit base c = true
  · rw [List.takeWhile_eq_self_iff.mpr all, List.dropWhile_eq_nil_iff.mpr all]
    by_cases empty : cs = []
    · simp [empty]
    · have counted : 0 + cs.length ≠ 0 := by simp [empty]
      have limit : (base == 10 && decide (decimalLimit < 0 + cs.length)) = true ↔
          ¬ (base = 10 → cs.length ≤ decimalLimit) := by
        rw [Nat.zero_add, Bool.and_eq_true, beq_iff_eq, decide_eq_true_iff, Classical.not_imp, Nat.not_le]
      by_cases short : base = 10 → cs.length ≤ decimalLimit
      · have kept : ¬ (base == 10 && decide (decimalLimit < 0 + cs.length)) = true := fun long => limit.mp long short
        simp only [if_neg counted, if_neg kept, Option.bind_some]
        simp only [List.all_nil, Bool.not_true, Bool.false_eq_true, if_false, Option.some.injEq]
        refine ⟨fun same => ⟨empty, all, short, same.symm⟩, ?_⟩
        rintro ⟨-, -, -, rfl⟩
        rfl
      · simp only [if_neg counted, if_pos (limit.mpr short), Option.bind_some]
        refine iff_of_false (by simp) fun fits => ?_
        exact short fits.2.2.1
  · -- The first character that is no digit is no white space either.
    have left : cs.dropWhile (hasDigit base) ≠ [] := fun nothing => all (List.dropWhile_eq_nil_iff.mp nothing)
    obtain ⟨c, rest, behind⟩ := List.exists_cons_of_ne_nil left
    have blank : Text.isPlainBlank c = false := by
      apply tidy.noBlank
      apply part
      apply (List.dropWhile_sublist (hasDigit base)).subset
      simp [behind]
    refine iff_of_false ?_ fun fits => all fits.2.1
    split
    · simp
    · simp only [Option.bind_some, behind, List.all_cons, blank, Bool.false_and, Bool.not_false, if_true]
      exact (Option.some_ne_none i).symm

theorem readInteger_spelled (ascii : ∀ c ∈ s, c.toNat < 128) (tidy : Tidy s) (most : base ≤ 16)
    (unmarked : dropBaseMark base s = cs) (spelled : Spelled base cs ds) (nonempty : ds ≠ [])
    (short : base = 10 → ds.length ≤ decimalLimit) :
    readInteger base s = some ((Nat.ofDigits base ds.reverse : Nat) : Int) := by
  have length : cs.length = ds.length := spelled.length_eq
  have digits : ∀ c ∈ cs, hasDigit base c = true := by
    intro c inside
    exact (hasDigit_iff most).mpr (isDigit_of_spelled spelled inside)
  have some : cs ≠ [] := by
    rintro rfl
    exact nonempty (List.length_eq_zero_iff.mp length.symm)
  apply (readInteger_tidy ascii tidy unmarked).mpr
  exact ⟨some, digits, length ▸ short, by rw [digitsValue_spelled most spelled]⟩

theorem spelled_of_readInteger (ascii : ∀ c ∈ s, c.toNat < 128) (tidy : Tidy s) (most : base ≤ 16)
    (unmarked : dropBaseMark base s = cs) {i : Int} (read : readInteger base s = some i) :
    ∃ ds, Spelled base cs ds ∧ ds ≠ [] := by
  obtain ⟨nonempty, digits, -⟩ := (readInteger_tidy ascii tidy unmarked).mp read
  obtain ⟨ds, spelled⟩ := exists_spelled fun c inside => (hasDigit_iff most).mp (digits c inside)
  refine ⟨ds, spelled, ?_⟩
  rintro rfl
  cases spelled
  exact nonempty rfl

end Tidy

end CBindings.Number
