import CBindings.Literal.Basic
import CBindings.Proofs.Number.Positional
import Mathlib.Data.List.Find

/-! Integer constants of C: digits behind the mark of their base, and a suffix that names a type. Every one is read as
the number that its digits have in its base, whatever the case of its letters. -/
namespace CBindings.Literal

inductive Radix where
  | decimal
  | octal
  | hexadecimal
  | binary
deriving DecidableEq, Repr

namespace Radix

def base : Radix → Nat
  | decimal => 10
  | octal => 8
  | hexadecimal => 16
  | binary => 2

/-- What can stand in front of the digits. -/
def marks : Radix → List (List Char)
  | decimal => [[]]
  | octal => [['0']]
  | hexadecimal => [['0', 'x'], ['0', 'X']]
  | binary => [['0', 'b'], ['0', 'B']]

/-- A decimal constant does not begin with a zero; an octal one needs no digit behind its mark. -/
def Admits : Radix → List Nat → Prop
  | decimal, digits => ∃ d ∈ digits.head?, d ≠ 0
  | octal, _ => True
  | hexadecimal, digits => digits ≠ []
  | binary, digits => digits ≠ []

theorem base_le (radix : Radix) : radix.base ≤ 16 := by cases radix <;> decide

end Radix

/-- `u` and `l` or `ll`, in either order and either case. -/
def typeSuffixes : List String := ["", "U", "L", "LL", "UL", "LU", "ULL", "LLU"]

structure IntegerConstant where
  radix : Radix
  mark : List Char
  chars : List Char
  digits : List Nat
  suffix : List Char
  marked : mark ∈ radix.marks
  spelled : Number.Spelled radix.base chars digits
  admitted : radix.Admits digits
  suffixed : String.ofList (suffix.map Char.toUpper) ∈ typeSuffixes

namespace IntegerConstant

def body (c : IntegerConstant) : List Char := c.mark ++ c.chars

def text (c : IntegerConstant) : List Char := c.body ++ c.suffix

/-- Each digit times the power of the base that belongs to its place. -/
def value (c : IntegerConstant) : Nat := Nat.ofDigits c.radix.base c.digits.reverse

end IntegerConstant

section Suffixes

variable {s body suffix : List Char} {c : Char}

theorem capitals_ascii (ascii : c.toNat < 128) : Text.capitals c = [c.toUpper] := by
  have beyond : ∀ p ∈ Text.longCapitals, 128 ≤ p.1.toNat := by decide
  have none : Text.longCapitals.lookup c = none := by
    rw [List.lookup_eq_none_iff]
    intro p inside
    have far := beyond p inside
    rw [bne_iff_ne]
    rintro rfl
    omega
  rw [Text.capitals, none, Option.getD_none]

theorem flatMap_capitals (ascii : ∀ c ∈ s, c.toNat < 128) : s.flatMap Text.capitals = s.map Char.toUpper := by
  induction s with
  | nil => rfl
  | cons c s ih =>
    have later := ih fun c' inside => ascii c' (List.mem_cons_of_mem c inside)
    rw [List.flatMap_cons, capitals_ascii (ascii c List.mem_cons_self), later]
    rfl

/- An ending of certain letters reaches no further than these letters do. -/
theorem suffix_append_iff {p : Char → Bool} {ending front tail : List Char} (letters : ∀ c ∈ ending, p c = true)
    (stop : ∀ c, front.getLast? = some c → p c = false) : ending <:+ front ++ tail ↔ ending <:+ tail := by
  refine ⟨fun ends => ?_, fun ends => ends.trans (List.suffix_append front tail)⟩
  rcases Nat.le_total ending.length tail.length with short | long
  · exact List.suffix_of_suffix_length_le ends (List.suffix_append front tail) short
  · obtain ⟨more, rfl⟩ := List.suffix_of_suffix_length_le (List.suffix_append front tail) ends long
    have further := List.suffix_append_self_iff.mp ends
    rcases List.eq_nil_or_concat more with rfl | ⟨more, c, rfl⟩
    · exact List.suffix_rfl
    · obtain ⟨start, rfl⟩ := further
      have other := stop c (by simp)
      rw [letters c (by simp)] at other
      cases other

/-- A suffix goes away as a whole if no letter like its own stands before it. -/
theorem dropSuffix_append (ascii : ∀ c ∈ body ++ suffix, c.toNat < 128)
    (stop : ∀ c, body.getLast? = some c → c.toUpper ≠ 'U' ∧ c.toUpper ≠ 'L')
    (suffixed : String.ofList (suffix.map Char.toUpper) ∈ typeSuffixes) : dropSuffix (body ++ suffix) = body := by
  generalize given : String.ofList (suffix.map Char.toUpper) = ending at suffixed
  have letters : ending.toList = suffix.map Char.toUpper := by rw [← given, String.toList_ofList]
  have length : ending.length = suffix.length := by rw [← String.length_toList, letters, List.length_map]
  have ends : integerSuffixes.find? (fun e => e.toList.isSuffixOf ((body ++ suffix).flatMap Text.capitals)) =
      integerSuffixes.find? fun e => e.toList.isSuffixOf ending.toList := by
    have listed : ∀ e ∈ integerSuffixes, e.toList.all (fun c => c == 'U' || c == 'L') = true := by decide
    apply List.find?_congr
    intro e known
    rw [flatMap_capitals ascii, List.map_append, ← letters, Bool.eq_iff_iff, List.isSuffixOf_iff_suffix,
      List.isSuffixOf_iff_suffix]
    apply suffix_append_iff (List.all_eq_true.mp (listed e known))
    intro c last
    rw [List.getLast?_map, Option.map_eq_some_iff] at last
    obtain ⟨c, last, rfl⟩ := last
    simp [stop c last]
  have found : integerSuffixes.find? (fun e => e.toList.isSuffixOf ending.toList) =
      if ending = "" then none else some ending := by
    have listed : ∀ ending ∈ typeSuffixes, integerSuffixes.find? (fun e => e.toList.isSuffixOf ending.toList) =
      if ending = "" then none else some ending := by decide
    exact listed ending suffixed
  unfold dropSuffix
  dsimp only
  rw [ends, found]
  by_cases empty : ending = ""
  · have nothing : suffix = [] := by
      rw [empty] at length
      exact List.length_eq_zero_iff.mp length.symm
    simp [empty, nothing]
  · simp [empty, length]

theorem dropSuffix_split (ascii : ∀ c ∈ s, c.toNat < 128) :
    ∃ suffix, s = dropSuffix s ++ suffix ∧ String.ofList (suffix.map Char.toUpper) ∈ typeSuffixes := by
  have known : ∀ e ∈ integerSuffixes, e ∈ typeSuffixes := by decide
  unfold dropSuffix
  dsimp only
  rw [flatMap_capitals ascii]
  split
  · rename_i e found
    have ends := List.find?_some found
    rw [List.isSuffixOf_iff_suffix, List.suffix_iff_eq_drop, List.length_map, String.length_toList,
      ← List.map_drop] at ends
    refine ⟨s.drop (s.length - e.length), (List.take_append_drop _ s).symm, ?_⟩
    rw [← ends, String.ofList_toList]
    exact known e (List.mem_of_find?_eq_some found)
  · exact ⟨[], by simp, by decide⟩

theorem mem_typeSuffix (suffixed : String.ofList (suffix.map Char.toUpper) ∈ typeSuffixes) (inside : c ∈ suffix) :
    c ∈ ['u', 'U', 'l', 'L'] := by
  have listed : ∀ suffix ∈ typeSuffixes, suffix.toList.all (fun c => c == 'U' || c == 'L') = true := by decide
  have capital := List.all_eq_true.mp (listed _ suffixed) c.toUpper (by simpa using ⟨c, inside, rfl⟩)
  have place := Text.toNat_toUpper c
  simp only [List.mem_cons, List.not_mem_nil, or_false, Bool.or_eq_true, beq_iff_eq, ← Char.toNat_inj,
    Char.reduceToNat] at capital ⊢
  split at place
  · omega
  · omega

/- A mark is in front of the suffix. -/
theorem marked_append {x : Char} {rest : List Char} (whole : '0' :: x :: rest = body ++ suffix) (zero : '0' ∉ suffix)
    (other : x ∉ suffix) : ∃ t, body = '0' :: x :: t ∧ rest = t ++ suffix := by
  rcases body with - | ⟨a, - | ⟨b, t⟩⟩
  · rw [List.nil_append] at whole
    exact absurd List.mem_cons_self (whole ▸ zero)
  · obtain ⟨-, rfl⟩ := List.cons.inj whole
    exact absurd List.mem_cons_self other
  · obtain ⟨rfl, later⟩ := List.cons.inj whole
    obtain ⟨rfl, rfl⟩ := List.cons.inj later
    exact ⟨t, rfl, rfl⟩

end Suffixes

section Marks

variable {s : List Char} {c : Char}

theorem eq_zero_of_toLower (same : c.toLower = '0') : c = '0' := by
  have place := Text.toNat_toLower c
  rw [same] at place
  rw [← Char.toNat_inj]
  simp only [Char.reduceToNat] at place ⊢
  split at place
  · omega
  · omega

theorem marked_iff (small capital : Char)
    (first : 97 ≤ small.toNat := by decide) (last : small.toNat ≤ 122 := by decide)
    (apart : capital.toNat + 32 = small.toNat := by decide) :
    ['0', small].isPrefixOf (s.map Char.toLower) = true ↔
      ∃ x rest, s = '0' :: x :: rest ∧ (x = small ∨ x = capital) := by
  constructor
  · intro marked
    rcases s with - | ⟨a, - | ⟨x, rest⟩⟩
    · cases marked
    · simp at marked
    · simp only [List.map_cons, List.isPrefixOf_cons_cons, Bool.and_eq_true, beq_iff_eq] at marked
      obtain ⟨zero, letter, -⟩ := marked
      obtain rfl := eq_zero_of_toLower zero.symm
      exact ⟨x, rest, rfl, (Text.toLower_eq_letter_iff small capital first last apart).mp letter.symm⟩
  · rintro ⟨x, rest, rfl, letter⟩
    have same := (Text.toLower_eq_letter_iff small capital first last apart).mpr letter
    simp [same]

theorem isHexadecimal_iff : isHexadecimal s = true ↔ ∃ x rest, s = '0' :: x :: rest ∧ (x = 'x' ∨ x = 'X') :=
  marked_iff 'x' 'X'

theorem isBinary_iff : isBinary s = true ↔ ∃ x rest, s = '0' :: x :: rest ∧ (x = 'b' ∨ x = 'B') := marked_iff 'b' 'B'

end Marks

section Unmarked

variable {s rest : List Char} {c d : Char}

theorem readWhole_zero (unmarked : isHexadecimal s = false ∧ isBinary s = false)
    (given : dropSuffix s = '0' :: d :: rest) :
    readWhole s = if (d :: rest).all Text.isDigit then Number.readInteger 8 ('0' :: d :: rest) else none := by
  simp [readWhole, unmarked, given]

theorem readWhole_nonzero (unmarked : isHexadecimal s = false ∧ isBinary s = false) (given : dropSuffix s = c :: rest)
    (lone : c ≠ '0' ∨ rest = []) :
    readWhole s = if (c :: rest).all Text.isDigit then Number.readInteger 10 (c :: rest) else none := by
  rcases lone with other | rfl
  · simp [readWhole, unmarked, given, other]
  · simp [readWhole, unmarked, given]

theorem isDigit_of_range (range : 48 ≤ c.toNat ∧ c.toNat ≤ 57) : Text.isDigit c = true := by
  have chars : '0' ≤ c ∧ c ≤ '9' := by
    simp only [Char.le_def, UInt32.le_iff_toNat_le]
    exact range
  have ascii : c.toNat < 128 := by omega
  simp [Text.isDigit, Text.isDecimal, Text.decimalValue?, ascii, chars]

end Unmarked

namespace IntegerConstant

variable {c : IntegerConstant} {ch : Char}

/-- Code points of a mark and the digits behind it. -/
def Allows (radix : Radix) (n : Nat) : Prop :=
  48 ≤ n ∧ n ≤ 57 ∨ radix = .binary ∧ (n = 66 ∨ n = 98) ∨
    radix = .hexadecimal ∧ (65 ≤ n ∧ n ≤ 70 ∨ 97 ≤ n ∧ n ≤ 102 ∨ n = 88 ∨ n = 120)

theorem allows_of_mem_body (inside : ch ∈ c.body) : Allows c.radix ch.toNat := by
  rcases List.mem_append.mp inside with inside | inside
  · have listed : ∀ radix : Radix, ∀ mark ∈ radix.marks, ∀ ch ∈ mark, Allows radix ch.toNat := by
      intro radix
      cases radix <;> simp [Radix.marks, Allows]
    exact listed c.radix c.mark c.marked ch inside
  · obtain ⟨d, digit⟩ := Number.isDigit_of_spelled c.spelled inside
    obtain ⟨below, place⟩ := (Number.isDigit_iff_toNat c.radix.base_le).mp digit
    unfold Allows
    cases radix : c.radix with
    | hexadecimal =>
      simp only [radix, Radix.base] at below
      simp only [true_and]
      omega
    | _ =>
      simp only [radix, Radix.base] at below
      omega

theorem mem_suffix (inside : ch ∈ c.suffix) : ch ∈ ['u', 'U', 'l', 'L'] := mem_typeSuffix c.suffixed inside

theorem mem_text (inside : ch ∈ c.text) : Allows c.radix ch.toNat ∨ ch ∈ ['u', 'U', 'l', 'L'] := by
  rcases List.mem_append.mp inside with inside | inside
  · exact .inl (allows_of_mem_body inside)
  · exact .inr (mem_suffix inside)

theorem toNat_of_mem_text (inside : ch ∈ c.text) :
    48 ≤ ch.toNat ∧ ch.toNat ≤ 120 ∧ ch.toNat ≠ 80 ∧ ch.toNat ≠ 95 ∧ ch.toNat ≠ 112 := by
  rcases mem_text inside with digit | letter
  · unfold Allows at digit
    omega
  · simp only [List.mem_cons, List.not_mem_nil, or_false] at letter
    rcases letter with rfl | rfl | rfl | rfl <;> decide

theorem ascii_text (c : IntegerConstant) : ∀ ch ∈ c.text, ch.toNat < 128 := by
  intro ch inside
  have place := toNat_of_mem_text inside
  omega

theorem tidy_text (c : IntegerConstant) : Number.Tidy c.text := by
  refine ⟨fun inside => ?_, fun ch inside => ?_, fun ch first => ?_⟩
  · exact (toNat_of_mem_text inside).2.2.2.1 rfl
  · have place := toNat_of_mem_text inside
    simp only [Text.isPlainBlank, Bool.or_eq_false_iff, beq_eq_false_iff_ne, Bool.and_eq_false_iff,
      decide_eq_false_iff_not]
    omega
  · have place := toNat_of_mem_text (List.mem_of_head? first)
    constructor
    · rintro rfl
      exact absurd place.1 (by decide)
    · rintro rfl
      exact absurd place.1 (by decide)

/- The letters that mark a base or an exponent stand only where they belong. -/
theorem not_mem_toLower {small : Char} (first : 97 ≤ small.toNat) (last : small.toNat ≤ 122)
    (other : small ≠ 'u' ∧ small ≠ 'l') (refused : ∀ n, n = small.toNat ∨ n + 32 = small.toNat → ¬ Allows c.radix n) :
    small ∉ c.text.map Char.toLower := by
  intro lowered
  obtain ⟨ch, inside, rfl⟩ := List.mem_map.mp lowered
  have place := (Text.toLower_eq_iff first last).mp (Eq.refl ch.toLower)
  rcases mem_text inside with digit | letter
  · exact refused ch.toNat place digit
  · simp only [List.mem_cons, List.not_mem_nil, or_false] at letter
    rcases letter with rfl | rfl | rfl | rfl <;> exact absurd other (by decide)

theorem isHexadecimal_text (hexadecimal : c.radix = .hexadecimal) : isHexadecimal c.text = true := by
  have marked := c.marked
  simp only [hexadecimal, Radix.marks, List.mem_cons, List.not_mem_nil, or_false] at marked
  rcases marked with marked | marked
  · simp [isHexadecimal, text, body, marked]
  · simp [isHexadecimal, text, body, marked]

theorem isBinary_text (binary : c.radix = .binary) : isBinary c.text = true := by
  have marked := c.marked
  simp only [binary, Radix.marks, List.mem_cons, List.not_mem_nil, or_false] at marked
  rcases marked with marked | marked
  · simp [isBinary, text, body, marked]
  · simp [isBinary, text, body, marked]

theorem not_isHexadecimal_text (other : c.radix ≠ .hexadecimal) : isHexadecimal c.text = false := by
  have absent : 'x' ∉ c.text.map Char.toLower := by
    apply not_mem_toLower (by decide) (by decide) (by decide)
    intro n place allowed
    simp only [Allows, other, false_and, or_false, Char.reduceToNat] at place allowed
    omega
  rw [← Bool.not_eq_true]
  intro marked
  exact absent ((List.isPrefixOf_iff_prefix.mp marked).subset (by simp))

theorem not_isBinary_text (other : c.radix ≠ .hexadecimal) (other' : c.radix ≠ .binary) : isBinary c.text = false := by
  have absent : 'b' ∉ c.text.map Char.toLower := by
    apply not_mem_toLower (by decide) (by decide) (by decide)
    intro n place allowed
    simp only [Allows, other, other', false_and, or_false, Char.reduceToNat] at place allowed
    omega
  rw [← Bool.not_eq_true]
  intro marked
  exact absent ((List.isPrefixOf_iff_prefix.mp marked).subset (by simp))

theorem not_isFraction_text (c : IntegerConstant) : isFraction c.text = false := by
  by_cases hexadecimal : c.radix = .hexadecimal
  · have absent : 'p' ∉ c.text.map Char.toLower := by
      apply not_mem_toLower (by decide) (by decide) (by decide)
      intro n place allowed
      simp only [Allows, Char.reduceToNat] at place allowed
      omega
    simp only [isFraction, isHexadecimal_text hexadecimal, if_true]
    simpa using absent
  · have absent : 'e' ∉ c.text.map Char.toLower := by
      apply not_mem_toLower (by decide) (by decide) (by decide)
      intro n place allowed
      simp only [Allows, hexadecimal, false_and, or_false, Char.reduceToNat] at place allowed
      omega
    have noPoint : '.' ∉ c.text := fun inside => absurd (toNat_of_mem_text inside).1 (by decide)
    simp only [isFraction, not_isHexadecimal_text hexadecimal, Bool.false_eq_true, if_false, Bool.or_eq_false_iff]
    exact ⟨by simpa using noPoint, by simpa using absent⟩

theorem dropSuffix_text (c : IntegerConstant) : dropSuffix c.text = c.body := by
  refine dropSuffix_append c.ascii_text (fun ch last => ?_) c.suffixed
  have allowed := allows_of_mem_body (List.mem_of_getLast? last)
  have place := Text.toNat_toUpper ch
  unfold Allows at allowed
  simp only [ne_eq, ← Char.toNat_inj, Char.reduceToNat]
  split at place
  · omega
  · omega

theorem tidy_body (c : IntegerConstant) : Number.Tidy c.body := c.tidy_text.start

theorem ascii_body (c : IntegerConstant) : ∀ ch ∈ c.body, ch.toNat < 128 :=
  fun ch inside => c.ascii_text ch (List.mem_append_left c.suffix inside)

/- Behind a mark of two characters stand the digits. -/
theorem readInteger_marked {x : Char} (marked : c.mark = ['0', x]) (nonempty : c.digits ≠ [])
    (marks : c.radix.base = 16 ∧ (x = 'x' ∨ x = 'X') ∨ c.radix.base = 2 ∧ (x = 'b' ∨ x = 'B')) :
    Number.readInteger c.radix.base c.body = some (c.value : Int) := by
  have free : '_' ∉ c.chars := fun inside => c.tidy_body.noUnderscore (List.mem_append_right c.mark inside)
  have unmarked : Number.dropBaseMark c.radix.base c.body = c.chars := by
    rw [body, marked]
    exact Number.dropBaseMark_mark marks free
  exact Number.readInteger_spelled c.ascii_body c.tidy_body c.radix.base_le unmarked c.spelled nonempty
    (fun ten => by omega)

theorem range_of_mem_body (low : c.radix ≠ .hexadecimal ∧ c.radix ≠ .binary) (inside : ch ∈ c.body) :
    48 ≤ ch.toNat ∧ ch.toNat ≤ 57 := by
  have allowed := allows_of_mem_body inside
  simpa [Allows, low] using allowed

theorem unmarked_text (low : c.radix ≠ .hexadecimal ∧ c.radix ≠ .binary) :
    isHexadecimal c.text = false ∧ isBinary c.text = false :=
  ⟨not_isHexadecimal_text low.1, not_isBinary_text low.1 low.2⟩

/- The mark is itself a digit, and worth nothing. -/
theorem readWhole_octal (octal : c.radix = .octal) : readWhole c.text = some (c.value : Int) := by
  have low : c.radix ≠ .hexadecimal ∧ c.radix ≠ .binary := by simp [octal]
  have marked := c.marked
  simp only [octal, Radix.marks, List.mem_singleton] at marked
  have whole : c.body = '0' :: c.chars := by rw [body, marked]; rfl
  have digits : ∀ ch ∈ '0' :: c.chars, 48 ≤ ch.toNat ∧ ch.toNat ≤ 57 := by
    intro ch inside
    exact range_of_mem_body low (whole ▸ inside)
  have ascii := c.ascii_body
  have tidy := c.tidy_body
  have spelled := c.spelled
  rw [whole] at ascii tidy
  rw [octal] at spelled
  rw [value, octal]
  generalize c.digits = ds at spelled
  cases chars : c.chars with
  | nil =>
    rw [chars] at spelled ascii tidy
    cases spelled
    have zero : Number.Spelled 10 ['0'] [0] := .cons ⟨by decide, by decide⟩ .nil
    rw [readWhole_nonzero (unmarked_text low) (c.dropSuffix_text.trans (whole.trans (by rw [chars]))) (.inr rfl),
      if_pos (by decide : ['0'].all Text.isDigit = true)]
    exact Number.readInteger_spelled ascii tidy (by decide) (Number.Written.dropBaseMark_ten _) zero (by simp)
      (fun _ => by simp [Number.decimalLimit])
  | cons ch rest =>
    rw [chars] at spelled ascii tidy digits
    have range := digits ch (by simp)
    have other : ch ≠ 'o' ∧ ch ≠ 'O' := by
      constructor
      · rintro rfl
        exact absurd range.2 (by decide)
      · rintro rfl
        exact absurd range.2 (by decide)
    have all : (ch :: rest).all Text.isDigit = true := by
      rw [List.all_eq_true]
      intro ch' inside
      exact isDigit_of_range (digits ch' (List.mem_cons_of_mem _ inside))
    have zero : Number.Spelled 8 ('0' :: ch :: rest) (0 :: ds) := .cons ⟨by decide, by decide⟩ spelled
    rw [readWhole_zero (unmarked_text low) (c.dropSuffix_text.trans (whole.trans (by rw [chars]))), if_pos all]
    have read := Number.readInteger_spelled ascii tidy (by decide) (Number.dropBaseMark_octal other rest) zero (by simp)
      (by simp)
    rwa [Nat.ofDigits_reverse_zero_cons] at read

theorem readWhole_decimal (decimal : c.radix = .decimal) (short : c.digits.length ≤ 4300) :
    readWhole c.text = some (c.value : Int) := by
  have low : c.radix ≠ .hexadecimal ∧ c.radix ≠ .binary := by simp [decimal]
  have marked := c.marked
  have admitted := c.admitted
  simp only [decimal, Radix.marks, Radix.Admits, List.mem_singleton] at marked admitted
  have whole : c.body = c.chars := by rw [body, marked]; rfl
  have digits : c.chars.all Text.isDigit = true := by
    rw [List.all_eq_true]
    intro ch inside
    exact isDigit_of_range (range_of_mem_body low (whole ▸ inside))
  have ascii := c.ascii_body
  have tidy := c.tidy_body
  have spelled := c.spelled
  rw [whole] at ascii tidy
  rw [decimal] at spelled
  rw [value, decimal]
  obtain ⟨d, first, positive⟩ := admitted
  obtain ⟨ds, starts⟩ := List.head?_eq_some_iff.mp first
  rw [starts] at spelled short ⊢
  cases chars : c.chars with
  | nil =>
    rw [chars] at spelled
    cases spelled
  | cons ch rest =>
    rw [chars] at spelled ascii tidy digits
    cases spelled with
    | cons digit later =>
      have place := ((Number.isDigit_iff_toNat (by decide)).mp digit).2
      have other : ch ≠ '0' := by
        rintro rfl
        simp only [Char.reduceToNat] at place
        omega
      rw [readWhole_nonzero (unmarked_text low) (c.dropSuffix_text.trans (whole.trans chars)) (.inl other),
        if_pos digits]
      exact Number.readInteger_spelled ascii tidy (by decide) (Number.Written.dropBaseMark_ten _) (.cons digit later)
        (by simp) (fun _ => short)

theorem readWhole_text (c : IntegerConstant) (short : c.radix = .decimal → c.digits.length ≤ 4300) :
    readWhole c.text = some (c.value : Int) := by
  have marked := c.marked
  have admitted := c.admitted
  cases radix : c.radix with
  | hexadecimal =>
    have base : c.radix.base = 16 := by rw [radix]; rfl
    simp only [radix, Radix.marks, Radix.Admits, List.mem_cons, List.not_mem_nil, or_false] at marked admitted
    rw [readWhole, c.dropSuffix_text, if_pos (isHexadecimal_text radix), ← base]
    rcases marked with marked | marked
    · exact readInteger_marked marked admitted (.inl ⟨base, .inl rfl⟩)
    · exact readInteger_marked marked admitted (.inl ⟨base, .inr rfl⟩)
  | binary =>
    have base : c.radix.base = 2 := by rw [radix]; rfl
    simp only [radix, Radix.marks, Radix.Admits, List.mem_cons, List.not_mem_nil, or_false] at marked admitted
    rw [readWhole, c.dropSuffix_text, not_isHexadecimal_text (by simp [radix]), if_neg (by simp),
      if_pos (isBinary_text radix), ← base]
    rcases marked with marked | marked
    · exact readInteger_marked marked admitted (.inr ⟨base, .inl rfl⟩)
    · exact readInteger_marked marked admitted (.inr ⟨base, .inr rfl⟩)
  | octal => exact readWhole_octal radix
  | decimal => exact readWhole_decimal radix (short radix)

end IntegerConstant

/-- Every integer constant is read as the number that its digits have in its base. -/
theorem readNumber_integerConstant (c : IntegerConstant) (short : c.radix = .decimal → c.digits.length ≤ 4300) :
    readNumber c.text = .ok (some (.int c.value, .integer)) := by
  rw [readNumber, c.not_isFraction_text, c.readWhole_text short]
  rfl

/-- `1024uLL` -/
def pageSize : IntegerConstant where
  radix := .decimal
  mark := []
  chars := ['1', '0', '2', '4']
  digits := [1, 0, 2, 4]
  suffix := ['u', 'L', 'L']
  marked := by decide
  spelled := .cons ⟨by decide, by decide⟩ (.cons ⟨by decide, by decide⟩ (.cons ⟨by decide, by decide⟩
    (.cons ⟨by decide, by decide⟩ .nil)))
  admitted := ⟨1, rfl, by decide⟩
  suffixed := by decide

theorem pageSize_read : pageSize.digits.length ≤ 4300 ∧
    readNumber ['1', '0', '2', '4', 'u', 'L', 'L'] = .ok (some (.int 1024, .integer)) := by
  have short : pageSize.digits.length ≤ 4300 := by decide
  exact ⟨short, readNumber_integerConstant pageSize fun _ => short⟩

end CBindings.Literal
