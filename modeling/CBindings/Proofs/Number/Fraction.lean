import CBindings.Proofs.Number.Positional

/-! Fractions as C writes them: digits, perhaps with a point among them, and a power. Among tidy texts these are what
reads as a number with a point or an exponent. -/
namespace CBindings.Number

variable {base : Nat} {mark c : Char} {s m e rest : List Char} {digit : Char → Bool}

/-- At least one digit. -/
structure Digits (base : Nat) (s : List Char) : Prop where
  nonempty : s ≠ []
  digits : ∀ c ∈ s, ∃ d, IsDigit base c d

/-- Digits with a point among them, before or behind them. -/
def Pointed (base : Nat) (s : List Char) : Prop := ∃ whole part, s = whole ++ '.' :: part ∧ Digits base (whole ++ part)

/-- A mark, perhaps a sign, and decimal digits. -/
def Power (mark : Char) (s : List Char) : Prop :=
  ∃ letter sign digits, s = letter :: (sign ++ digits) ∧ letter.toLower = mark ∧ sign ∈ [[], ['+'], ['-']] ∧
    Digits 10 digits

theorem isDigit_iff_exists : c.isDigit = true ↔ ∃ d, IsDigit 10 c d := by
  rw [isDigit_iff]
  constructor
  · intro range
    exact ⟨c.toNat - 48, (isDigit_iff_toNat (by decide)).mpr (by omega)⟩
  · rintro ⟨d, digit⟩
    have place := (isDigit_iff_toNat (by decide)).mp digit
    omega

section Splitting

/- What is cut off in front is digits with or without a point. -/
theorem splitPoint_sound (known : ∀ c, digit c = true → ∃ d, IsDigit base c d) {whole part : List Char}
    (split : splitPoint digit s = (whole, part, rest)) (nonempty : whole ++ part ≠ []) :
    ∃ m, s = m ++ rest ∧ (Pointed base m ∨ Digits base m) := by
  have cut := List.takeWhile_append_dropWhile (p := digit) (l := s)
  unfold splitPoint at split
  split at split
  · rename_i behind point
    obtain ⟨rfl, rfl, rfl⟩ : s.takeWhile digit = whole ∧ behind.takeWhile digit = part ∧
        behind.dropWhile digit = rest := by
      simpa using split
    refine ⟨s.takeWhile digit ++ '.' :: behind.takeWhile digit, ?_, .inl ⟨_, _, rfl, nonempty, fun c inside => ?_⟩⟩
    · rw [List.append_assoc, List.cons_append, List.takeWhile_append_dropWhile, ← point, cut]
    · rcases List.mem_append.mp inside with inside | inside
      · exact known c (List.mem_takeWhile_imp inside)
      · exact known c (List.mem_takeWhile_imp inside)
  · obtain ⟨rfl, rfl, rfl⟩ : s.takeWhile digit = whole ∧ [] = part ∧ s.dropWhile digit = rest := by
      simpa using split
    refine ⟨s.takeWhile digit, cut.symm, .inr ⟨by simpa using nonempty, fun c inside => ?_⟩⟩
    exact known c (List.mem_takeWhile_imp inside)

theorem splitPoint_complete (known : ∀ c, digit c = true ↔ ∃ d, IsDigit base c d) (noPoint : digit '.' = false)
    (mantissa : Pointed base m ∨ Digits base m) (stop : ∀ c, rest.head? = some c → digit c = false ∧ c ≠ '.') :
    ∃ whole part, splitPoint digit (m ++ rest) = (whole, part, rest) ∧ whole ++ part ≠ [] := by
  have stops : ∀ c, rest.head? = some c → digit c = false := fun c first => (stop c first).1
  rcases mantissa with ⟨whole, part, rfl, nonempty, digits⟩ | ⟨nonempty, digits⟩
  · have front : ∀ c ∈ whole, digit c = true :=
      fun c inside => (known c).mpr (digits c (List.mem_append_left part inside))
    have back : ∀ c ∈ part, digit c = true :=
      fun c inside => (known c).mpr (digits c (List.mem_append_right whole inside))
    have point : ∀ c, ('.' :: (part ++ rest)).head? = some c → digit c = false := by
      intro c first
      rw [← Option.some.inj first, noPoint]
    have dropped : (whole ++ '.' :: part ++ rest).dropWhile digit = '.' :: (part ++ rest) := by
      rw [List.append_assoc, List.cons_append, Text.dropWhile_run front point]
    refine ⟨whole, part, ?_, nonempty⟩
    rw [splitPoint, dropped]
    rw [List.append_assoc, List.cons_append, Text.takeWhile_run front point]
    simp only [Text.takeWhile_run back stops, Text.dropWhile_run back stops]
  · have front : ∀ c ∈ m, digit c = true := fun c inside => (known c).mpr (digits c inside)
    refine ⟨m, [], ?_, by simpa using nonempty⟩
    rw [splitPoint, Text.takeWhile_run front stops, Text.dropWhile_run front stops]
    split
    · exact absurd rfl (stop '.' rfl).2
    · rfl

theorem splitSign_sound {negative : Bool} (split : splitSign s = (negative, rest)) :
    ∃ sign, s = sign ++ rest ∧ sign ∈ [[], ['+'], ['-']] := by
  unfold splitSign at split
  split at split
  · exact ⟨['+'], by simp_all, by simp⟩
  · exact ⟨['-'], by simp_all, by simp⟩
  · exact ⟨[], by simp_all, by simp⟩

theorem readExponent_sound {n : Int} (read : readExponent s = some (n, rest)) :
    ∃ sign digits, s = sign ++ (digits ++ rest) ∧ sign ∈ [[], ['+'], ['-']] ∧ Digits 10 digits := by
  unfold readExponent at read
  obtain ⟨sign, whole, signed⟩ := splitSign_sound (rfl : splitSign s = ((splitSign s).1, (splitSign s).2))
  dsimp only at read
  split at read
  · cases read
  · rename_i nonempty
    obtain ⟨-, rfl⟩ := Prod.mk.inj (Option.some.inj read)
    refine ⟨sign, (splitSign s).2.takeWhile Char.isDigit, ?_, signed, ?_, fun c inside => ?_⟩
    · rw [List.takeWhile_append_dropWhile]
      exact whole
    · simpa using nonempty
    · exact isDigit_iff_exists.mp (List.mem_takeWhile_imp inside)

theorem readExponent_complete {sign digits : List Char} (signed : sign ∈ [[], ['+'], ['-']])
    (written : Digits 10 digits) : ∃ n, readExponent (sign ++ digits) = some (n, []) := by
  have all : ∀ c ∈ digits, c.isDigit = true := fun c inside => isDigit_iff_exists.mpr (written.digits c inside)
  have unsigned : (splitSign (sign ++ digits)).2 = digits := by
    simp only [List.mem_cons, List.not_mem_nil, or_false] at signed
    rcases signed with rfl | rfl | rfl
    · rw [List.nil_append, splitSign_unsigned]
      intro c first
      have digit := (isDigit_iff c).mp (all c (List.mem_of_head? first))
      constructor
      · rintro rfl
        exact absurd digit.1 (by decide)
      · rintro rfl
        exact absurd digit.1 (by decide)
    · rfl
    · rfl
  rw [readExponent]
  simp only [unsigned, List.takeWhile_eq_self_iff.mpr all, List.dropWhile_eq_nil_iff.mpr all]
  rw [if_neg (by simpa using written.nonempty)]
  exact ⟨_, rfl⟩

end Splitting

section Characters

theorem mem_mantissa (mantissa : Pointed base m ∨ Digits base m) (inside : c ∈ m) :
    c = '.' ∨ ∃ d, IsDigit base c d := by
  rcases mantissa with ⟨whole, part, rfl, written⟩ | written
  · rcases List.mem_append.mp inside with inside | inside
    · exact .inr (written.digits c (List.mem_append_left part inside))
    · rcases List.mem_cons.mp inside with rfl | inside
      · exact .inl rfl
      · exact .inr (written.digits c (List.mem_append_right whole inside))
  · exact .inr (written.digits c inside)

theorem Power.mem (power : Power mark e) (inside : c ∈ e) :
    c.toLower = mark ∨ c = '+' ∨ c = '-' ∨ c.isDigit = true := by
  obtain ⟨letter, sign, digits, rfl, same, signed, written⟩ := power
  rcases List.mem_cons.mp inside with rfl | inside
  · exact .inl same
  rcases List.mem_append.mp inside with inside | inside
  · simp only [List.mem_cons, List.not_mem_nil, or_false] at signed
    rcases signed with rfl | rfl | rfl
    · cases inside
    · exact .inr (.inl (List.mem_singleton.mp inside))
    · exact .inr (.inr (.inl (List.mem_singleton.mp inside)))
  · exact .inr (.inr (.inr (isDigit_iff_exists.mpr (written.digits c inside))))

theorem Power.ne_nil (power : Power mark e) : e ≠ [] := by
  obtain ⟨letter, sign, digits, rfl, -⟩ := power
  simp

theorem Power.last (power : Power mark e) (ends : e.getLast? = some c) : c.isDigit = true := by
  obtain ⟨letter, sign, digits, rfl, -, -, written⟩ := power
  apply isDigit_iff_exists.mpr
  apply written.digits
  rw [← List.cons_append, List.getLast?_append_of_ne_nil _ written.nonempty] at ends
  exact List.mem_of_getLast? ends

end Characters

section Decimal

/-- A point, a power or both. -/
def IsFraction (s : List Char) : Prop :=
  ∃ m e, s = m ++ e ∧ (Pointed 10 m ∧ (e = [] ∨ Power 'e' e) ∨ Digits 10 m ∧ Power 'e' e)

/- Neither a point nor the mark of a power is a digit. -/
theorem plain_of_isDigit {d : Nat} (digit : IsDigit 10 c d) : c ≠ '.' ∧ c.toLower ≠ 'e' := by
  have place := (isDigit_iff_toNat (by decide)).mp digit
  rw [ne_eq, ne_eq, Text.toLower_eq_iff (by decide) (by decide), ← Char.toNat_inj]
  simp only [Char.reduceToNat]
  omega

theorem power_iff {letter : Char} (other : letter.toLower = mark) :
    Power mark (letter :: s) ↔ ∃ n, readExponent s = some (n, []) := by
  constructor
  · rintro ⟨_, sign, digits, same, -, signed, written⟩
    rw [(List.cons.inj same).2]
    exact readExponent_complete signed written
  · rintro ⟨n, read⟩
    obtain ⟨sign, digits, rfl, signed, written⟩ := readExponent_sound read
    exact ⟨letter, sign, digits, by simp, other, signed, written⟩

/- Behind the digits stands nothing or a power. -/
theorem readDecimal_isSome_iff_split (ascii : ∀ c ∈ s, c.toNat < 128) (tidy : Tidy s)
    (fraction : '.' ∈ s ∨ 'e' ∈ s.map Char.toLower) {whole part : List Char}
    (split : splitPoint Char.isDigit s = (whole, part, rest)) :
    (readDecimal s).isSome = true ↔ whole ++ part ≠ [] ∧ (rest = [] ∨ Power 'e' rest) := by
  have noWord (word : List Char) (free : '.' ∉ word ∧ 'e' ∉ word) : s.map Char.toLower ≠ word := by
    rintro rfl
    rcases fraction with point | power
    · exact free.1 (List.mem_map_of_mem (f := Char.toLower) point)
    · exact free.2 power
  have inf := noWord ['i', 'n', 'f'] (by decide)
  have infinity := noWord ['i', 'n', 'f', 'i', 'n', 'i', 't', 'y'] (by decide)
  have nan := noWord ['n', 'a', 'n'] (by decide)
  have clean := Written.dropUnderscores_of_none tidy.noUnderscore (by decide : ' ' ≠ '_')
  simp only [readDecimal, inAscii_of_ascii ascii, Text.strip_eq_self tidy.snug, clean,
    splitSign_unsigned tidy.unsigned, split, Option.bind_eq_bind, Option.bind_some, beq_iff_eq, inf, infinity, nan,
    Bool.or_eq_true, or_self, if_false]
  by_cases empty : whole ++ part = []
  · obtain ⟨rfl, rfl⟩ := List.append_eq_nil_iff.mp empty
    simp
  · have some : (whole.isEmpty && part.isEmpty) = false := by simpa using empty
    simp only [some, Bool.false_eq_true, if_false, ne_eq, empty, not_false_eq_true, true_and]
    cases rest with
    | nil => simp
    | cons letter rest =>
      by_cases letters : letter.toLower = 'e'
      · have either := (Text.toLower_eq_letter_iff 'e' 'E').mp letters
        have nonempty : letter :: rest ≠ [] := List.cons_ne_nil letter rest
        simp only [either, if_true, nonempty, false_or, power_iff letters]
        cases readExponent rest with
        | none => simp
        | some read =>
          obtain ⟨n, left⟩ := read
          cases left with
          | nil => simp
          | cons c left => simp
      · have neither : ¬ (letter = 'e' ∨ letter = 'E') := by
          rwa [← Text.toLower_eq_letter_iff 'e' 'E']
        have noPower : ¬ Power 'e' (letter :: rest) := by
          rintro ⟨_, sign, digits, same, other, -⟩
          exact letters ((List.cons.inj same).1 ▸ other)
        simp [neither, noPower]

theorem IsFraction.mantissa (written : IsFraction s) :
    ∃ m e, s = m ++ e ∧ (Pointed 10 m ∨ Digits 10 m) ∧ (e = [] ∨ Power 'e' e) := by
  obtain ⟨m, e, whole, ⟨pointed, tail⟩ | ⟨digits, power⟩⟩ := written
  · exact ⟨m, e, whole, .inl pointed, tail⟩
  · exact ⟨m, e, whole, .inr digits, .inr power⟩

theorem IsFraction.mem (written : IsFraction s) (inside : c ∈ s) :
    c.isDigit = true ∨ c ∈ ['.', 'e', 'E', '+', '-'] := by
  obtain ⟨m, e, rfl, mantissa, tail⟩ := written.mantissa
  rcases List.mem_append.mp inside with inside | inside
  · rcases mem_mantissa mantissa inside with rfl | digit
    · simp
    · exact .inl (isDigit_iff_exists.mpr digit)
  · rcases tail with rfl | power
    · cases inside
    · rcases power.mem inside with letter | rfl | rfl | digit
      · rcases (Text.toLower_eq_letter_iff 'e' 'E').mp letter with rfl | rfl
        · simp
        · simp
      · simp
      · simp
      · exact .inl digit

theorem IsFraction.last (written : IsFraction s) (ends : s.getLast? = some c) : c.isDigit = true ∨ c = '.' := by
  obtain ⟨m, e, rfl, mantissa, tail⟩ := written.mantissa
  rcases tail with rfl | power
  · rw [List.append_nil] at ends
    rcases mem_mantissa mantissa (List.mem_of_getLast? ends) with rfl | digit
    · exact .inr rfl
    · exact .inl (isDigit_iff_exists.mpr digit)
  · rw [List.getLast?_append_of_ne_nil _ power.ne_nil] at ends
    exact .inl (power.last ends)

theorem IsFraction.head (written : IsFraction s) : ∃ c, s.head? = some c ∧ (c.isDigit = true ∨ c = '.') := by
  obtain ⟨m, e, rfl, mantissa, -⟩ := written.mantissa
  have nonempty : m ≠ [] := by
    rcases mantissa with ⟨whole, part, rfl, -⟩ | digits
    · simp
    · exact digits.nonempty
  obtain ⟨c, m, rfl⟩ := List.exists_cons_of_ne_nil nonempty
  refine ⟨c, rfl, ?_⟩
  rcases mem_mantissa mantissa List.mem_cons_self with point | digit
  · exact .inr point
  · exact .inl (isDigit_iff_exists.mpr digit)

theorem Power.letter (power : Power mark e) : mark ∈ e.map Char.toLower := by
  obtain ⟨letter, sign, digits, rfl, same, -⟩ := power
  exact List.mem_map.mpr ⟨letter, List.mem_cons_self, same⟩

theorem IsFraction.letter (written : IsFraction s) : '.' ∈ s ∨ 'e' ∈ s.map Char.toLower := by
  obtain ⟨m, e, rfl, ⟨⟨whole, part, rfl, -⟩, -⟩ | ⟨-, power⟩⟩ := written
  · exact .inl (by simp)
  · exact .inr (List.map_append ▸ List.mem_append_right _ power.letter)

theorem not_fraction_of_digits (written : Digits 10 s) : ¬ ('.' ∈ s ∨ 'e' ∈ s.map Char.toLower) := by
  rintro (point | power)
  · obtain ⟨d, digit⟩ := written.digits '.' point
    exact (plain_of_isDigit digit).1 rfl
  · obtain ⟨c, inside, same⟩ := List.mem_map.mp power
    obtain ⟨d, digit⟩ := written.digits c inside
    exact (plain_of_isDigit digit).2 same

/-- A tidy text with a point or the mark of a power reads as a number exactly if it is written as C does it. -/
theorem readDecimal_isSome_iff (ascii : ∀ c ∈ s, c.toNat < 128) (tidy : Tidy s)
    (fraction : '.' ∈ s ∨ 'e' ∈ s.map Char.toLower) : (readDecimal s).isSome = true ↔ IsFraction s := by
  constructor
  · intro read
    obtain ⟨nonempty, tail⟩ := (readDecimal_isSome_iff_split ascii tidy fraction rfl).mp read
    obtain ⟨m, whole, mantissa⟩ := splitPoint_sound (fun c => isDigit_iff_exists.mp) rfl nonempty
    refine ⟨m, _, whole, ?_⟩
    rcases mantissa with pointed | written
    · exact .inl ⟨pointed, tail⟩
    · rcases tail with nothing | power
      · rw [nothing, List.append_nil] at whole
        exact absurd fraction (not_fraction_of_digits (whole ▸ written))
      · exact .inr ⟨written, power⟩
  · rintro ⟨m, e, rfl, parts⟩
    have tail : e = [] ∨ Power 'e' e := by
      rcases parts with ⟨-, tail⟩ | ⟨-, power⟩
      · exact tail
      · exact .inr power
    have stop : ∀ c, e.head? = some c → c.isDigit = false ∧ c ≠ '.' := by
      intro c first
      rcases tail with rfl | ⟨letter, sign, digits, rfl, same, -⟩
      · cases first
      · obtain rfl := Option.some.inj first
        rcases (Text.toLower_eq_letter_iff 'e' 'E').mp same with rfl | rfl
        · decide
        · decide
    have mantissa : Pointed 10 m ∨ Digits 10 m := parts.imp And.left And.left
    obtain ⟨whole, part, split, nonempty⟩ :=
      splitPoint_complete (fun c => isDigit_iff_exists) rfl mantissa stop
    exact (readDecimal_isSome_iff_split ascii tidy fraction split).mpr ⟨nonempty, tail⟩

end Decimal

section Hexadecimal

/-- Digits with or without a point, and a power. -/
def IsHexFraction (s : List Char) : Prop := ∃ m e, s = m ++ e ∧ (Pointed 16 m ∨ Digits 16 m) ∧ Power 'p' e

theorem isHexDigit_iff_exists : isHexDigit c = true ↔ ∃ d, IsDigit 16 c d := hasDigit_iff (by decide)

theorem stripStart_marked (x : Char) (s : List Char) :
    Text.stripStart Text.isPlainBlank ('0' :: x :: s) = '0' :: x :: s :=
  Text.stripStart_eq_self fun c first => by rw [← Option.some.inj first]; rfl

theorem splitSign_marked (x : Char) (s : List Char) : splitSign ('0' :: x :: s) = (false, '0' :: x :: s) := rfl

theorem dropHexMark_marked {x : Char} (marked : x = 'x' ∨ x = 'X') (s : List Char) :
    dropHexMark ('0' :: x :: s) = s := by
  rcases marked with rfl | rfl
  · rfl
  · rfl

theorem splitHexadecimal_iff_split {x : Char} (marked : x = 'x' ∨ x = 'X') {whole part : List Char}
    (split : splitPoint isHexDigit s = (whole, part, rest)) :
    (∃ h, splitHexadecimal ('0' :: x :: s) = some h ∧ h.rest = []) ↔
      whole ++ part ≠ [] ∧ (rest = [] ∨ Power 'p' rest) := by
  simp only [splitHexadecimal, stripStart_marked, splitSign_marked, dropHexMark_marked marked, split]
  by_cases empty : whole ++ part = []
  · obtain ⟨rfl, rfl⟩ := List.append_eq_nil_iff.mp empty
    simp
  · have some : (whole.isEmpty && part.isEmpty) = false := by simpa using empty
    simp only [some, Bool.false_eq_true, if_false, ne_eq, empty, not_false_eq_true, true_and]
    cases rest with
    | nil => simp
    | cons letter rest =>
      have nonempty : letter :: rest ≠ [] := List.cons_ne_nil letter rest
      by_cases letters : letter.toLower = 'p'
      · rw [power_iff letters]
        rcases (Text.toLower_eq_letter_iff 'p' 'P').mp letters with rfl | rfl
        · simp
        · simp
      · have noPower : ¬ Power 'p' (letter :: rest) := by
          rintro ⟨_, sign, digits, same, other, -⟩
          exact letters ((List.cons.inj same).1 ▸ other)
        rw [Text.toLower_eq_letter_iff 'p' 'P', not_or] at letters
        simp [letters, noPower]

theorem not_power_of_mantissa (mantissa : Pointed 16 m ∨ Digits 16 m) : 'p' ∉ m.map Char.toLower := by
  intro power
  obtain ⟨c, inside, same⟩ := List.mem_map.mp power
  rcases mem_mantissa mantissa inside with rfl | ⟨d, digit⟩
  · cases same
  · have place := (isDigit_iff_toNat (by decide)).mp digit
    rw [Text.toLower_eq_iff (by decide) (by decide)] at same
    simp only [Char.reduceToNat] at same
    omega

/-- Behind a hexadecimal mark, a text with the mark of a power splits without a rest exactly if it is written as C does
it. -/
theorem splitHexadecimal_iff {x : Char} (marked : x = 'x' ∨ x = 'X') (power : 'p' ∈ s.map Char.toLower) :
    (∃ h, splitHexadecimal ('0' :: x :: s) = some h ∧ h.rest = []) ↔ IsHexFraction s := by
  constructor
  · intro read
    obtain ⟨nonempty, tail⟩ := (splitHexadecimal_iff_split marked rfl).mp read
    obtain ⟨m, whole, mantissa⟩ := splitPoint_sound (fun c => isHexDigit_iff_exists.mp) rfl nonempty
    refine ⟨m, _, whole, mantissa, ?_⟩
    rcases tail with nothing | tail
    · rw [nothing, List.append_nil] at whole
      exact absurd power (whole ▸ not_power_of_mantissa mantissa)
    · exact tail
  · rintro ⟨m, e, rfl, mantissa, tail⟩
    have stop : ∀ c, e.head? = some c → isHexDigit c = false ∧ c ≠ '.' := by
      intro c first
      obtain ⟨letter, sign, digits, rfl, same, -⟩ := tail
      obtain rfl := Option.some.inj first
      rcases (Text.toLower_eq_letter_iff 'p' 'P').mp same with rfl | rfl
      · decide
      · decide
    obtain ⟨whole, part, split, nonempty⟩ := splitPoint_complete (fun c => isHexDigit_iff_exists) rfl mantissa stop
    exact (splitHexadecimal_iff_split marked split).mpr ⟨nonempty, .inr tail⟩

theorem IsHexFraction.mem (written : IsHexFraction s) (inside : c ∈ s) :
    isHexDigit c = true ∨ c ∈ ['.', 'p', 'P', '+', '-'] := by
  obtain ⟨m, e, rfl, mantissa, power⟩ := written
  rcases List.mem_append.mp inside with inside | inside
  · rcases mem_mantissa mantissa inside with rfl | digit
    · simp
    · exact .inl (isHexDigit_iff_exists.mpr digit)
  · rcases power.mem inside with letter | rfl | rfl | digit
    · rcases (Text.toLower_eq_letter_iff 'p' 'P').mp letter with rfl | rfl
      · simp
      · simp
    · simp
    · simp
    · obtain ⟨d, digit⟩ := isDigit_iff_exists.mp digit
      exact .inl (isHexDigit_iff_exists.mpr ⟨d, Nat.lt_trans digit.1 (by decide), digit.2⟩)

theorem IsHexFraction.letter (written : IsHexFraction s) : 'p' ∈ s.map Char.toLower := by
  obtain ⟨m, e, rfl, -, power⟩ := written
  exact List.map_append ▸ List.mem_append_right _ power.letter

theorem IsHexFraction.last (written : IsHexFraction s) (ends : s.getLast? = some c) : c.isDigit = true := by
  obtain ⟨m, e, rfl, -, power⟩ := written
  rw [List.getLast?_append_of_ne_nil _ power.ne_nil] at ends
  exact power.last ends

theorem splitHexadecimal_rest {x : Char} (marked : x = 'x' ∨ x = 'X') {h : HexParts}
    (read : splitHexadecimal ('0' :: x :: s) = some h) (inside : c ∈ h.rest) : c ∈ s := by
  obtain ⟨whole, part, rest, cut⟩ : ∃ whole part rest, splitPoint isHexDigit s = (whole, part, rest) := ⟨_, _, _, rfl⟩
  simp only [splitHexadecimal, stripStart_marked, splitSign_marked, dropHexMark_marked marked, cut] at read
  split at read
  · cases read
  · rename_i nonempty
    obtain ⟨m, rfl, -⟩ := splitPoint_sound (fun c => isHexDigit_iff_exists.mp) cut (by simpa using nonempty)
    obtain ⟨⟨n, left⟩, exponent, rfl⟩ := Option.map_eq_some_iff.mp read
    apply List.mem_append_right
    split at exponent
    · obtain ⟨sign, digits, rfl, -⟩ := readExponent_sound exponent
      simp [inside]
    · obtain ⟨sign, digits, rfl, -⟩ := readExponent_sound exponent
      simp [inside]
    · obtain ⟨-, rfl⟩ := Prod.mk.inj (Option.some.inj exponent)
      exact inside

end Hexadecimal

end CBindings.Number
