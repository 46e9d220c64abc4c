import CBindings.Proofs.Literal.Integer
import CBindings.Proofs.Literal.Oversized
import CBindings.Proofs.Number.Fraction

/-! Which tokens are read as numbers: every constant of C that is not too large, and of all tokens that are read, the
constants are those that are tidy. Whatever else is read has underscores, white space, a sign or a suffix that mixes
small and capital letters. -/
namespace CBindings.Literal

variable {s token body suffix : List Char} {c : Char}

def floatSuffixes : List (List Char) := [[], ['f'], ['F'], ['l'], ['L']]

/-- Floating constants of C. -/
inductive FloatingConstant : List Char → Prop
  | decimal {body suffix : List Char} (written : Number.IsFraction body) (suffixed : suffix ∈ floatSuffixes) :
      FloatingConstant (body ++ suffix)
  | hexadecimal {x : Char} {body suffix : List Char} (marked : x = 'x' ∨ x = 'X') (written : Number.IsHexFraction body)
      (suffixed : suffix ∈ floatSuffixes) : FloatingConstant ('0' :: x :: body ++ suffix)

/-- Both letters of `ll` have the same case. -/
def EvenCase (suffix : List Char) : Prop := ¬ ('l' ∈ suffix ∧ 'L' ∈ suffix)

/-- Integer and floating constants of C. -/
def IsConstant (token : List Char) : Prop :=
  (∃ c : IntegerConstant, c.text = token ∧ EvenCase c.suffix) ∨ FloatingConstant token

section FloatSuffix

theorem dropFloatSuffix_split (s : List Char) : ∃ suffix ∈ floatSuffixes, s = dropFloatSuffix s ++ suffix := by
  unfold dropFloatSuffix
  split
  · rename_i c last
    split
    · rename_i letter
      refine ⟨[c], ?_, (List.dropLast_append_getLast? c last).symm⟩
      simp only [Bool.or_eq_true, beq_iff_eq] at letter
      rcases letter with letter | letter
      · rcases (Text.toLower_eq_letter_iff 'f' 'F').mp letter with rfl | rfl <;> decide
      · rcases (Text.toLower_eq_letter_iff 'l' 'L').mp letter with rfl | rfl <;> decide
    · exact ⟨[], by decide, by simp⟩
  · exact ⟨[], by decide, by simp⟩

theorem dropFloatSuffix_append (stop : ∀ c, body.getLast? = some c → c.toLower ≠ 'f' ∧ c.toLower ≠ 'l')
    (suffixed : suffix ∈ floatSuffixes) : dropFloatSuffix (body ++ suffix) = body := by
  simp only [floatSuffixes, List.mem_cons, List.not_mem_nil, or_false] at suffixed
  rcases suffixed with rfl | rfl | rfl | rfl | rfl
  · rw [List.append_nil, dropFloatSuffix]
    split
    · rename_i c last
      simp [stop c last]
    · rfl
  · simp [dropFloatSuffix]
  · simp [dropFloatSuffix]
  · simp [dropFloatSuffix]
  · simp [dropFloatSuffix]

/- No letter of a suffix is a point or the mark of a power. -/
theorem mem_floatSuffix (suffixed : suffix ∈ floatSuffixes) (inside : c ∈ suffix) : c ∈ ['f', 'F', 'l', 'L'] := by
  have listed : ∀ suffix ∈ floatSuffixes, ∀ c ∈ suffix, c ∈ ['f', 'F', 'l', 'L'] := by simp [floatSuffixes]
  exact listed suffix suffixed c inside

end FloatSuffix

section Soundness

theorem decimal_of_readDecimal (ascii : ∀ c ∈ s, c.toNat < 128) (tidy : Number.Tidy s)
    (fraction : '.' ∈ s ∨ 'e' ∈ s.map Char.toLower)
    (read : (Number.readDecimal (dropFloatSuffix s)).isSome = true) : FloatingConstant s := by
  obtain ⟨suffix, suffixed, whole⟩ := dropFloatSuffix_split s
  generalize dropFloatSuffix s = body at read whole
  subst whole
  have letters : ∀ c ∈ suffix, c ≠ '.' ∧ c.toLower ≠ 'e' := by
    intro c inside
    have listed : ∀ c ∈ ['f', 'F', 'l', 'L'], c ≠ '.' ∧ c.toLower ≠ 'e' := by simp
    exact listed c (mem_floatSuffix suffixed inside)
  have kept : '.' ∈ body ∨ 'e' ∈ body.map Char.toLower := by
    rcases fraction with point | power
    · rcases List.mem_append.mp point with inside | inside
      · exact .inl inside
      · exact absurd rfl (letters '.' inside).1
    · rw [List.map_append, List.mem_append] at power
      rcases power with inside | inside
      · exact .inr inside
      · obtain ⟨c, inside, same⟩ := List.mem_map.mp inside
        exact absurd same (letters c inside).2
  have ascii' : ∀ c ∈ body, c.toNat < 128 := fun c inside => ascii c (List.mem_append_left suffix inside)
  exact .decimal ((Number.readDecimal_isSome_iff ascii' tidy.start kept).mp read) suffixed

theorem hexadecimal_of_readHexadecimal (tidy : Number.Tidy s) (marked : isHexadecimal s = true)
    (power : 'p' ∈ s.map Char.toLower) {v : Binary64} (read : Number.readHexadecimal (dropFloatSuffix s) = .ok v) :
    FloatingConstant s := by
  obtain ⟨x, rest, rfl, mark⟩ := isHexadecimal_iff.mp marked
  obtain ⟨suffix, suffixed, whole⟩ := dropFloatSuffix_split ('0' :: x :: rest)
  have letters : ∀ c ∈ suffix, c ≠ '0' ∧ c ≠ 'x' ∧ c ≠ 'X' ∧ c.toLower ≠ 'p' := by
    intro c inside
    have listed : ∀ c ∈ ['f', 'F', 'l', 'L'], c ≠ '0' ∧ c ≠ 'x' ∧ c ≠ 'X' ∧ c.toLower ≠ 'p' := by simp
    exact listed c (mem_floatSuffix suffixed inside)
  have other : x ∉ suffix := by
    intro inside
    rcases mark with rfl | rfl
    · exact (letters 'x' inside).2.1 rfl
    · exact (letters 'X' inside).2.2.1 rfl
  obtain ⟨t, body, rfl⟩ := marked_append whole (fun inside => (letters '0' inside).1 rfl) other
  have kept : 'p' ∈ t.map Char.toLower := by
    obtain ⟨c, inside, same⟩ := List.mem_map.mp power
    simp only [List.mem_cons, List.mem_append] at inside
    rcases inside with rfl | rfl | inside | inside
    · cases same
    · rcases mark with rfl | rfl <;> cases same
    · exact List.mem_map.mpr ⟨c, inside, same⟩
    · exact absurd same (letters c inside).2.2.2
  have written : Number.IsHexFraction t := by
    apply (Number.splitHexadecimal_iff mark kept).mp
    rw [body, Number.readHexadecimal] at read
    split at read
    · cases read
    · rename_i h split
      refine ⟨h, split, ?_⟩
      cases left : h.rest with
      | nil => rfl
      | cons c more =>
        have inside : c ∈ t := Number.splitHexadecimal_rest mark split (left ▸ List.mem_cons_self)
        have blank := tidy.noBlank c (by simp [inside])
        rw [left] at read
        split at read
        · cases read
        · simp [blank] at read
  exact .hexadecimal mark written suffixed

section Integers

variable {rest : List Char} {i : Int} (suffixed : String.ofList (suffix.map Char.toUpper) ∈ typeSuffixes)
  (ascii : ∀ c ∈ body, c.toNat < 128) (tidy : Number.Tidy body)

include suffixed ascii tidy

/- Behind a mark of two characters stand digits of the base only. -/
theorem integer_of_marked {radix : Radix} {x : Char} (whole : '0' :: x :: rest = body ++ suffix)
    (marks : radix = .hexadecimal ∧ (x = 'x' ∨ x = 'X') ∨ radix = .binary ∧ (x = 'b' ∨ x = 'B'))
    (read : Number.readInteger radix.base body = some i) : ∃ c : IntegerConstant, c.text = body ++ suffix := by
  have letters : ∀ c ∈ suffix, c ≠ '0' ∧ c ≠ 'x' ∧ c ≠ 'X' ∧ c ≠ 'b' ∧ c ≠ 'B' := by
    intro c inside
    have listed : ∀ c ∈ ['u', 'U', 'l', 'L'], c ≠ '0' ∧ c ≠ 'x' ∧ c ≠ 'X' ∧ c ≠ 'b' ∧ c ≠ 'B' := by simp
    exact listed c (mem_typeSuffix suffixed inside)
  have other : x ∉ suffix := by
    intro inside
    have apart := letters x inside
    simp [apart] at marks
  obtain ⟨t, rfl, -⟩ := marked_append whole (fun inside => (letters '0' inside).1 rfl) other
  have free : '_' ∉ t := fun inside => tidy.noUnderscore (by simp [inside])
  have marks' : radix.base = 16 ∧ (x = 'x' ∨ x = 'X') ∨ radix.base = 2 ∧ (x = 'b' ∨ x = 'B') := by
    rcases marks with ⟨rfl, mark⟩ | ⟨rfl, mark⟩
    · exact .inl ⟨rfl, mark⟩
    · exact .inr ⟨rfl, mark⟩
  obtain ⟨digits, spelled, nonempty⟩ :=
    Number.spelled_of_readInteger ascii tidy radix.base_le (Number.dropBaseMark_mark marks' free) read
  have mark : ['0', x] ∈ radix.marks ∧ radix.Admits digits := by
    rcases marks with ⟨rfl, rfl | rfl⟩ | ⟨rfl, rfl | rfl⟩
    · exact ⟨by decide, nonempty⟩
    · exact ⟨by decide, nonempty⟩
    · exact ⟨by decide, nonempty⟩
    · exact ⟨by decide, nonempty⟩
  exact ⟨⟨radix, ['0', x], t, digits, suffix, mark.1, spelled, mark.2, suffixed⟩, rfl⟩

/- A zero with digits behind it. -/
theorem integer_of_octal (starts : body = '0' :: c :: rest) (digit : Text.isDigit c = true)
    (read : Number.readInteger 8 body = some i) : ∃ c : IntegerConstant, c.text = body ++ suffix := by
  have other : c ≠ 'o' ∧ c ≠ 'O' := by
    constructor
    · rintro rfl
      exact absurd digit (by decide)
    · rintro rfl
      exact absurd digit (by decide)
  subst starts
  obtain ⟨digits, spelled, -⟩ :=
    Number.spelled_of_readInteger ascii tidy (by decide) (Number.dropBaseMark_octal other rest) read
  cases spelled with
  | cons _ spelled => exact ⟨⟨.octal, ['0'], c :: rest, _, suffix, by decide, spelled, trivial, suffixed⟩, rfl⟩

/- A lone zero, or digits that begin with another one. -/
theorem integer_of_decimal (starts : body = c :: rest) (lone : c ≠ '0' ∨ rest = [])
    (read : Number.readInteger 10 body = some i) : ∃ c : IntegerConstant, c.text = body ++ suffix := by
  subst starts
  obtain ⟨digits, spelled, -⟩ :=
    Number.spelled_of_readInteger ascii tidy (by decide) (Number.Written.dropBaseMark_ten _) read
  by_cases zero : c = '0'
  · subst zero
    obtain rfl := lone.resolve_left fun other => other rfl
    exact ⟨⟨.octal, ['0'], [], [], suffix, by decide, .nil, trivial, suffixed⟩, rfl⟩
  · cases spelled with
    | @cons _ d _ ds digit later =>
      have positive : d ≠ 0 := by
        rintro rfl
        exact zero (eq_zero_of_toLower digit.2)
      exact ⟨⟨.decimal, [], c :: rest, d :: ds, suffix, by decide, .cons digit later, ⟨d, rfl, positive⟩, suffixed⟩,
        rfl⟩

end Integers

theorem integer_of_readWhole (ascii : ∀ c ∈ s, c.toNat < 128) (tidy : Number.Tidy s) {i : Int}
    (read : readWhole s = some i) : ∃ c : IntegerConstant, c.text = s := by
  obtain ⟨suffix, whole, suffixed⟩ := dropSuffix_split ascii
  have ascii' : ∀ c ∈ dropSuffix s, c.toNat < 128 :=
    fun c inside => ascii c (whole ▸ List.mem_append_left suffix inside)
  have tidy' : Number.Tidy (dropSuffix s) := (whole ▸ tidy : Number.Tidy (dropSuffix s ++ suffix)).start
  by_cases hexadecimal : isHexadecimal s = true
  · obtain ⟨x, rest, starts, mark⟩ := isHexadecimal_iff.mp hexadecimal
    rw [readWhole, if_pos hexadecimal] at read
    rw [whole]
    exact integer_of_marked suffixed ascii' tidy' (starts.symm.trans whole) (.inl ⟨rfl, mark⟩) read
  by_cases binary : isBinary s = true
  · obtain ⟨x, rest, starts, mark⟩ := isBinary_iff.mp binary
    rw [readWhole, if_neg hexadecimal, if_pos binary] at read
    rw [whole]
    exact integer_of_marked suffixed ascii' tidy' (starts.symm.trans whole) (.inr ⟨rfl, mark⟩) read
  have unmarked : isHexadecimal s = false ∧ isBinary s = false := by simpa using And.intro hexadecimal binary
  rw [whole]
  cases body : dropSuffix s with
  | nil => simp [readWhole, unmarked, body] at read
  | cons c rest =>
    rw [body] at ascii' tidy'
    by_cases lone : c ≠ '0' ∨ rest = []
    · rw [readWhole_nonzero unmarked body lone] at read
      exact integer_of_decimal suffixed ascii' tidy' rfl lone (Option.ite_none_right_eq_some.mp read).2
    · rw [not_or, not_not] at lone
      obtain ⟨rfl, nonempty⟩ := lone
      obtain ⟨d, rest, rfl⟩ := List.exists_cons_of_ne_nil nonempty
      rw [readWhole_zero unmarked body] at read
      obtain ⟨digits, read⟩ := Option.ite_none_right_eq_some.mp read
      rw [List.all_cons, Bool.and_eq_true] at digits
      exact integer_of_octal suffixed ascii' tidy' rfl digits.1 read

theorem constant_of_readNumber (ascii : ∀ c ∈ s, c.toNat < 128) (tidy : Number.Tidy s) (even : EvenCase s) {p : Parsed}
    (read : readNumber s = .ok (some p)) : IsConstant s := by
  unfold readNumber at read
  cases fraction : isFraction s with
  | false =>
    rw [fraction] at read
    obtain ⟨i, whole, -⟩ := Option.map_eq_some_iff.mp (Except.ok.inj read)
    obtain ⟨c, same⟩ := integer_of_readWhole ascii tidy whole
    refine .inl ⟨c, same, fun both => even ?_⟩
    rw [← same]
    exact ⟨List.mem_append_right c.body both.1, List.mem_append_right c.body both.2⟩
  | true =>
    rw [fraction, if_pos rfl] at read
    obtain ⟨found, read, some⟩ := Outcome.bind_eq_ok_iff.mp read
    obtain ⟨v, rfl, -⟩ := Option.map_eq_some_iff.mp (Except.ok.inj some)
    refine .inr ?_
    unfold isFraction at fraction
    unfold readFraction at read
    cases hexadecimal : isHexadecimal s with
    | false =>
      simp only [hexadecimal, Bool.false_eq_true, if_false, Except.ok.injEq, Bool.or_eq_true, List.contains_iff_mem]
        at fraction read
      exact decimal_of_readDecimal ascii tidy fraction (by rw [read]; rfl)
    | true =>
      simp only [hexadecimal, if_true, List.contains_iff_mem] at fraction read
      cases result : Number.readHexadecimal (dropFloatSuffix s) with
      | ok v => exact hexadecimal_of_readHexadecimal tidy hexadecimal fraction result
      | error f =>
        rw [result] at read
        cases f with
        | malformed => cases read
        | tooLarge => cases read

end Soundness

section Completeness

theorem IntegerConstant.evenCase_text {c : IntegerConstant} (even : EvenCase c.suffix) : EvenCase c.text := by
  have behind : ∀ ch, ch = 'l' ∨ ch = 'L' → ch ∈ c.text → ch ∈ c.suffix := by
    rintro ch letter inside
    rcases List.mem_append.mp inside with inside | inside
    · have allowed := IntegerConstant.allows_of_mem_body inside
      unfold IntegerConstant.Allows at allowed
      rcases letter with rfl | rfl
      · simp at allowed
      · simp at allowed
    · exact inside
  rintro ⟨small, capital⟩
  exact even ⟨behind 'l' (.inl rfl) small, behind 'L' (.inr rfl) capital⟩

theorem isHexDigit_of_isDigit (digit : c.isDigit = true) : Number.isHexDigit c = true := by
  obtain ⟨d, below, same⟩ := Number.isDigit_iff_exists.mp digit
  exact Number.isHexDigit_iff_exists.mpr ⟨d, Nat.lt_trans below (by decide), same⟩

/- Which characters stand in front of the suffix, and which begins the constant. -/
theorem FloatingConstant.split (constant : FloatingConstant s) : ∃ body suffix, s = body ++ suffix ∧
    suffix ∈ floatSuffixes ∧ (∀ c ∈ body, Number.isHexDigit c = true ∨ c ∈ ['.', '+', '-', 'x', 'X', 'p', 'P']) ∧
    ∃ c, body.head? = some c ∧ (c.isDigit = true ∨ c = '.') := by
  cases constant with
  | @decimal body suffix written suffixed =>
    refine ⟨body, suffix, rfl, suffixed, fun c inside => ?_, written.head⟩
    rcases written.mem inside with digit | letter
    · exact .inl (isHexDigit_of_isDigit digit)
    · have hexDigits : Number.isHexDigit 'e' = true ∧ Number.isHexDigit 'E' = true := by decide
      simp only [List.mem_cons, List.not_mem_nil, or_false] at letter
      rcases letter with rfl | rfl | rfl | rfl | rfl <;> simp [hexDigits]
  | @hexadecimal x body suffix marked written suffixed =>
    refine ⟨'0' :: x :: body, suffix, rfl, suffixed, fun c inside => ?_, '0', rfl, .inl rfl⟩
    rcases List.mem_cons.mp inside with rfl | inside
    · exact .inl rfl
    · rcases List.mem_cons.mp inside with rfl | inside
      · rcases marked with rfl | rfl
        · simp
        · simp
      · rcases written.mem inside with digit | letter
        · exact .inl digit
        · have listed : ∀ c ∈ ['.', 'p', 'P', '+', '-'], c ∈ ['.', '+', '-', 'x', 'X', 'p', 'P'] := by simp
          exact .inr (listed c letter)

theorem FloatingConstant.tidy (constant : FloatingConstant s) : Number.Tidy s ∧ EvenCase s := by
  obtain ⟨body, suffix, rfl, suffixed, inBody, c, first, start⟩ := constant.split
  have inSuffix : ∀ c ∈ suffix, c ∈ ['f', 'F', 'l', 'L'] := fun c => mem_floatSuffix suffixed
  refine ⟨⟨fun inside => ?_, fun c inside => ?_, ?_⟩, ?_⟩
  · rcases List.mem_append.mp inside with inside | inside
    · exact absurd (inBody '_' inside) (by decide)
    · exact absurd (inSuffix '_' inside) (by decide)
  · have letters : ∀ c ∈ ['.', '+', '-', 'x', 'X', 'p', 'P', 'f', 'F', 'l', 'L'], Text.isPlainBlank c = false := by
      simp [Text.isPlainBlank]
    rcases List.mem_append.mp inside with inside | inside
    · rcases inBody c inside with digit | letter
      · obtain ⟨d, digit⟩ := Number.isHexDigit_iff_exists.mp digit
        have place := (Number.isDigit_iff_toNat (by decide)).mp digit
        simp only [Text.isPlainBlank, Bool.or_eq_false_iff, beq_eq_false_iff_ne, Bool.and_eq_false_iff,
          decide_eq_false_iff_not]
        omega
      · exact letters c (List.mem_append_left ['f', 'F', 'l', 'L'] letter)
    · exact letters c (List.mem_append_right ['.', '+', '-', 'x', 'X', 'p', 'P'] (inSuffix c inside))
  · rw [List.head?_append, first]
    rintro _ ⟨⟩
    constructor
    · rintro rfl
      exact absurd start (by decide)
    · rintro rfl
      exact absurd start (by decide)
  · have lone : ∀ suffix ∈ floatSuffixes, ¬ ('l' ∈ suffix ∧ 'L' ∈ suffix) := by decide
    rintro ⟨small, capital⟩
    refine lone suffix suffixed ⟨?_, ?_⟩
    · exact (List.mem_append.mp small).resolve_left fun inside => absurd (inBody 'l' inside) (by decide)
    · exact (List.mem_append.mp capital).resolve_left fun inside => absurd (inBody 'L' inside) (by decide)

theorem IsConstant.tidy (constant : IsConstant s) : Number.Tidy s ∧ EvenCase s := by
  rcases constant with ⟨c, rfl, even⟩ | floating
  · exact ⟨c.tidy_text, IntegerConstant.evenCase_text even⟩
  · exact floating.tidy

theorem not_isHexadecimal_decimal (written : Number.IsFraction body) (suffixed : suffix ∈ floatSuffixes) :
    isHexadecimal (body ++ suffix) = false := by
  rw [Bool.eq_false_iff, ne_eq, isHexadecimal_iff]
  rintro ⟨x, rest, whole, mark⟩
  have inside : x ∈ body ++ suffix := whole ▸ by simp
  rcases List.mem_append.mp inside with inside | inside
  · have found := written.mem inside
    rcases mark with rfl | rfl <;> exact absurd found (by decide)
  · have found := mem_floatSuffix suffixed inside
    rcases mark with rfl | rfl <;> exact absurd found (by decide)

/- Behind a digit or a point the suffix is the only letter that is dropped. -/
theorem dropFloatSuffix_body (stop : ∀ c, body.getLast? = some c → c.isDigit = true ∨ c = '.')
    (suffixed : suffix ∈ floatSuffixes) : dropFloatSuffix (body ++ suffix) = body := by
  refine dropFloatSuffix_append (fun c ends => ?_) suffixed
  constructor
  · intro letter
    rcases (Text.toLower_eq_letter_iff 'f' 'F').mp letter with rfl | rfl <;> exact absurd (stop _ ends) (by decide)
  · intro letter
    rcases (Text.toLower_eq_letter_iff 'l' 'L').mp letter with rfl | rfl <;> exact absurd (stop _ ends) (by decide)

theorem readNumber_decimal (ascii : ∀ c ∈ body ++ suffix, c.toNat < 128) (written : Number.IsFraction body)
    (suffixed : suffix ∈ floatSuffixes) : ∃ p, readNumber (body ++ suffix) = .ok (some p) := by
  have unmarked := not_isHexadecimal_decimal written suffixed
  have fraction : isFraction (body ++ suffix) = true := by
    simp only [isFraction, unmarked, Bool.false_eq_true, if_false, Bool.or_eq_true, List.contains_iff_mem,
      List.map_append, List.mem_append]
    rcases written.letter with point | power
    · exact .inl (.inl point)
    · exact .inr (.inl power)
  have tidy : Number.Tidy body := (FloatingConstant.decimal written suffixed).tidy.1.start
  have ascii' : ∀ c ∈ body, c.toNat < 128 := fun c inside => ascii c (List.mem_append_left suffix inside)
  obtain ⟨v, read⟩ :=
    Option.isSome_iff_exists.mp ((Number.readDecimal_isSome_iff ascii' tidy written.letter).mpr written)
  refine ⟨(.float v, .float), ?_⟩
  have body : dropFloatSuffix (body ++ suffix) = body := dropFloatSuffix_body (fun c => written.last) suffixed
  simp only [readNumber, readFraction, fraction, unmarked, body, read, if_true, Bool.false_eq_true, if_false]
  rfl

theorem readHexadecimal_of_split {h : Number.HexParts} (split : Number.splitHexadecimal s = some h)
    (rest : h.rest = []) :
    (∃ v, Number.readHexadecimal s = .ok v) ∨ Number.readHexadecimal s = .error .tooLarge := by
  simp only [Number.readHexadecimal, split, rest]
  cases Binary64.ofBinary h.negative h.significand h.exponent with
  | infinite sign => exact .inr rfl
  | nan => exact .inl ⟨_, rfl⟩
  | finite sign m e => exact .inl ⟨_, rfl⟩

theorem readNumber_hexadecimal {x : Char} (marked : x = 'x' ∨ x = 'X') (written : Number.IsHexFraction body)
    (suffixed : suffix ∈ floatSuffixes) :
    (∃ p, readNumber ('0' :: x :: body ++ suffix) = .ok (some p)) ∨ Oversized ('0' :: x :: body ++ suffix) := by
  have nonempty : body ≠ [] := by
    rintro rfl
    exact absurd written.letter (by simp)
  have dropped : dropFloatSuffix ('0' :: x :: body ++ suffix) = '0' :: x :: body := by
    refine dropFloatSuffix_body (fun c ends => .inl (written.last ?_)) suffixed
    exact List.getLast?_append_of_ne_nil ['0', x] nonempty ▸ ends
  have hexadecimal : isHexadecimal ('0' :: x :: body ++ suffix) = true :=
    isHexadecimal_iff.mpr ⟨x, body ++ suffix, rfl, marked⟩
  have fraction : isFraction ('0' :: x :: body ++ suffix) = true := by
    obtain ⟨c, inside, same⟩ := List.mem_map.mp written.letter
    rw [isFraction, if_pos hexadecimal, List.contains_iff_mem]
    exact List.mem_map.mpr ⟨c, by simp [inside], same⟩
  obtain ⟨h, split, rest⟩ := (Number.splitHexadecimal_iff marked written.letter).mpr written
  rcases readHexadecimal_of_split split rest with ⟨v, read⟩ | large
  · refine .inl ⟨(.float v, .float), ?_⟩
    simp only [readNumber, readFraction, fraction, hexadecimal, dropped, read, if_true]
    rfl
  · rw [readHexadecimal_tooLarge_iff, ← dropped] at large
    exact .inr ⟨hexadecimal, fraction, large⟩

theorem readNumber_of_constant (ascii : ∀ c ∈ token, c.toNat < 128) (constant : IsConstant token)
    (short : ∀ c : IntegerConstant, c.text = token → c.radix = .decimal → c.digits.length ≤ 4300) :
    (∃ p, readNumber token = .ok (some p)) ∨ Oversized token := by
  rcases constant with ⟨c, rfl, -⟩ | floating
  · refine .inl ⟨(.int c.value, .integer), ?_⟩
    rw [readNumber, c.not_isFraction_text, c.readWhole_text (short c rfl)]
    rfl
  · cases floating with
    | decimal written suffixed => exact .inl (readNumber_decimal ascii written suffixed)
    | hexadecimal marked written suffixed => exact readNumber_hexadecimal marked written suffixed

end Completeness

/-- A token that is read is a constant exactly if it is tidy. A tidy token that is none is not read, and every
constant is read, up to the number of digits a decimal one may have and the size of a hexadecimal fraction. -/
theorem readNumber_accepts_constant (ascii : ∀ c ∈ token, c.toNat < 128) :
    (∀ p, readNumber token = .ok (some p) → (IsConstant token ↔ Number.Tidy token ∧ EvenCase token)) ∧
    (¬ IsConstant token → Number.Tidy token → EvenCase token → readNumber token = .ok none ∨ Oversized token) ∧
    (IsConstant token → (∀ c : IntegerConstant, c.text = token → c.radix = .decimal → c.digits.length ≤ 4300) →
      (∃ p, readNumber token = .ok (some p)) ∨ Oversized token) := by
  refine ⟨fun p read => ⟨IsConstant.tidy, ?_⟩, fun other tidy even => ?_, readNumber_of_constant ascii⟩
  · rintro ⟨tidy, even⟩
    exact constant_of_readNumber ascii tidy even read
  · rw [← readNumber_error_iff]
    cases read : readNumber token with
    | ok found =>
      cases found with
      | none => exact .inl rfl
      | some p => exact absurd (constant_of_readNumber ascii tidy even read) other
    | error f =>
      cases f with
      | floatTooLarge => exact .inr rfl

/-- `.5f` is a constant, and so it is tidy; `08` is tidy, but an octal number has no such digit. -/
theorem readNumber_accepts_half :
    ((∀ c ∈ ['.', '5', 'f'], c.toNat < 128) ∧ IsConstant ['.', '5', 'f'] ∧
      ((∃ p, readNumber ['.', '5', 'f'] = .ok (some p)) ∨ Oversized ['.', '5', 'f']) ∧
      Number.Tidy ['.', '5', 'f'] ∧ EvenCase ['.', '5', 'f']) ∧
    (∀ c ∈ ['0', '8'], c.toNat < 128) ∧ ¬ IsConstant ['0', '8'] ∧
      (readNumber ['0', '8'] = .ok none ∨ Oversized ['0', '8']) := by
  have ascii : ∀ c ∈ ['.', '5', 'f'], c.toNat < 128 := by simp
  have digits : Number.Digits 10 ['5'] := by
    refine ⟨by decide, fun c inside => ⟨5, by decide, ?_⟩⟩
    rw [List.mem_singleton.mp inside]
    decide
  have constant : IsConstant ['.', '5', 'f'] :=
    .inr (.decimal ⟨['.', '5'], [], rfl, .inl ⟨⟨[], ['5'], rfl, digits⟩, .inl rfl⟩⟩ (by decide))
  have read : readNumber ['.', '5', 'f'] = .ok (some (.float (.ofDecimal false 5 (-1)), .float)) := by decide +kernel
  have ascii' : ∀ c ∈ ['0', '8'], c.toNat < 128 := by simp
  have other : ¬ IsConstant ['0', '8'] := by
    intro constant
    have short (c : IntegerConstant) (same : c.text = ['0', '8']) : c.digits.length ≤ 4300 := by
      have length := congrArg List.length same
      have spelled : c.chars.length = c.digits.length := c.spelled.length_eq
      simp only [IntegerConstant.text, IntegerConstant.body, List.length_append, List.length_cons, List.length_nil]
        at length
      omega
    rcases readNumber_of_constant ascii' constant fun c same _ => short c same with ⟨p, read⟩ | ⟨marked, -⟩
    · have none : readNumber ['0', '8'] = .ok none := by decide +kernel
      cases none.symm.trans read
    · exact absurd marked (by decide)
  refine ⟨⟨ascii, constant, (readNumber_accepts_constant ascii).2.2 constant fun c same _ => ?_,
    ((readNumber_accepts_constant ascii).1 _ read).mp constant⟩, ascii', other,
    (readNumber_accepts_constant ascii').2.1 other ⟨by decide, by simp [Text.isPlainBlank], by simp⟩
      (by simp [EvenCase])⟩
  have whole := same ▸ c.not_isFraction_text
  exact absurd whole (by decide)

/-- Underscores may stand between the digits. -/
theorem readNumber_underscore : readNumber ['0', 'x', '_', '1', 'F'] = .ok (some (.int 31, .integer)) ∧
    ¬ IsConstant ['0', 'x', '_', '1', 'F'] := by
  refine ⟨rfl, fun constant => ?_⟩
  exact constant.tidy.1.noUnderscore (by decide)

end CBindings.Literal
