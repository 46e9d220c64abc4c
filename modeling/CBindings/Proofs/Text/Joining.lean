import CBindings.Proofs.Text.Utf8
import Mathlib.Data.List.Induction

/-! Bytes put together. The text of two pieces side by side is the text of the whole unless the bytes of a character
begin in the first and go on in the second; then the pieces apart give more characters than the whole. -/
namespace CBindings.Text.Utf8

/-- The bytes complete the character that has been begun. -/
inductive Completes : Open → List UInt8 → Char → Prop where
  | last {s : Open} {x : UInt8} {c : Char} : s.next x = .whole c → Completes s [x] c
  | more {s t : Open} {x : UInt8} {bytes : List UInt8} {c : Char} :
      s.next x = .opens t → Completes t bytes c → Completes s (x :: bytes) c

/-- Only bytes that begin no character can go on with one. -/
structure Open.Inner (s : Open) : Prop where
  low : 0x80 ≤ s.low
  high : s.high ≤ 0xBF

/-- The bytes of some character begin in `a`, at whichever place, and go on in `b`. They need not be complete there. -/
def Cuts (a b : List UInt8) : Prop :=
  ∃ c u v, u ≠ [] ∧ v ≠ [] ∧ u <:+ a ∧ v <+: b ∧ u ++ v <+: encodeChar c

/-- Nowhere between two of the pieces is a character cut. -/
def Uncut (pieces : List (List UInt8)) : Prop :=
  ∀ before after, pieces = before ++ after → ¬ Cuts before.flatten after.flatten

variable {a b bytes : List UInt8} {x : UInt8} {s t : Open} {o : Option Open} {c : Char}

section Characters

variable {k low high bits n : Nat}

theorem next_zero (inside : low ≤ x.toNat ∧ x.toNat ≤ high) :
    Open.next ⟨0, low, high, bits⟩ x = .whole (Char.ofNat (bits * 64 + (x.toNat - 0x80))) :=
  if_pos inside

theorem next_succ (inside : low ≤ x.toNat ∧ x.toNat ≤ high) :
    Open.next ⟨k + 1, low, high, bits⟩ x = .opens ⟨k, 0x80, 0xBF, bits * 64 + (x.toNat - 0x80)⟩ :=
  if_pos inside

theorem next_breaks_iff (s : Open) (x : UInt8) : s.next x = .breaks ↔ ¬ (s.low ≤ x.toNat ∧ x.toNat ≤ s.high) := by
  by_cases inside : s.low ≤ x.toNat ∧ x.toNat ≤ s.high
  · obtain ⟨missing, low, high, bits⟩ := s
    cases missing with
    | zero => simp [next_zero inside, inside]
    | succ k => simp [next_succ inside, inside]
  · simp [Open.next, inside]

theorem inside_of_goesOn (goesOn : s.next x ≠ .breaks) : s.low ≤ x.toNat ∧ x.toNat ≤ s.high :=
  Decidable.not_not.mp (mt (next_breaks_iff s x).mpr goesOn)

/-- What is left to read when all is read but the last byte. -/
theorem completes_zero_iff : Completes ⟨0, low, high, bits⟩ bytes c ↔
    ∃ x, bytes = [x] ∧ low ≤ x.toNat ∧ x.toNat ≤ high ∧ Char.ofNat (bits * 64 + (x.toNat - 0x80)) = c := by
  constructor
  · intro completes
    cases completes with
    | @last _ x _ next =>
      have inside := inside_of_goesOn (s := ⟨0, low, high, bits⟩) (x := x) (by simp [next])
      rw [next_zero inside] at next
      exact ⟨x, rfl, inside.1, inside.2, Next.whole.inj next⟩
    | @more _ t x bytes _ next _ =>
      have inside := inside_of_goesOn (s := ⟨0, low, high, bits⟩) (x := x) (by simp [next])
      rw [next_zero inside] at next
      cases next
  · rintro ⟨x, rfl, above, below, same⟩
    exact .last (same ▸ next_zero ⟨above, below⟩)

theorem completes_succ_iff : Completes ⟨k + 1, low, high, bits⟩ bytes c ↔
    ∃ x rest, bytes = x :: rest ∧ low ≤ x.toNat ∧ x.toNat ≤ high ∧
      Completes ⟨k, 0x80, 0xBF, bits * 64 + (x.toNat - 0x80)⟩ rest c := by
  constructor
  · intro completes
    cases completes with
    | @last _ x _ next =>
      have inside := inside_of_goesOn (s := ⟨k + 1, low, high, bits⟩) (x := x) (by simp [next])
      rw [next_succ inside] at next
      cases next
    | @more _ t x rest _ next later =>
      have inside := inside_of_goesOn (s := ⟨k + 1, low, high, bits⟩) (x := x) (by simp [next])
      rw [next_succ inside] at next
      cases next
      exact ⟨x, rest, rfl, inside.1, inside.2, later⟩
  · rintro ⟨x, rest, rfl, above, below, later⟩
    exact .more (next_succ ⟨above, below⟩) later

theorem lead_two (above : 0xC2 ≤ x.toNat) (below : x.toNat < 0xE0) :
    lead x = .opens ⟨0, 0x80, 0xBF, x.toNat - 0xC0⟩ := by
  simp only [lead]
  rw [if_neg (by omega), if_neg (by omega), if_pos below]

theorem lead_three (above : 0xE0 ≤ x.toNat) (below : x.toNat < 0xF0) :
    lead x = .opens ⟨1, if x.toNat = 0xE0 then 0xA0 else 0x80, if x.toNat = 0xED then 0x9F else 0xBF,
      x.toNat - 0xE0⟩ := by
  simp only [lead]
  rw [if_neg (by omega), if_neg (by omega), if_neg (by omega), if_pos below]

theorem lead_four (above : 0xF0 ≤ x.toNat) (below : x.toNat < 0xF5) :
    lead x = .opens ⟨2, if x.toNat = 0xF0 then 0x90 else 0x80, if x.toNat = 0xF4 then 0x8F else 0xBF,
      x.toNat - 0xF0⟩ := by
  simp only [lead]
  rw [if_neg (by omega), if_neg (by omega), if_neg (by omega), if_neg (by omega), if_pos below]

theorem toNat_toUInt8 (small : n < 256) : n.toUInt8.toNat = n := Nat.mod_eq_of_lt small

theorem encodeChar_completes (large : 0x80 ≤ c.toNat) :
    ∃ x bytes s, encodeChar c = x :: bytes ∧ lead x = .opens s ∧ Completes s bytes c := by
  have valid : c.toNat.isValidChar := c.valid
  have same : Char.ofNat c.toNat = c := Char.ofNat_toNat c
  unfold encodeChar
  dsimp only
  generalize c.toNat = n at *
  have p0 : Nat.pow 2 0 = 1 := rfl
  have p6 : Nat.pow 2 6 = 64 := rfl
  have p12 : Nat.pow 2 12 = 4096 := rfl
  rw [p0, p6, p12, if_neg (by omega)]
  by_cases two : n < 0x800
  · rw [if_pos two]
    have first : (0xC0 + n / 64).toUInt8.toNat = 0xC0 + n / 64 := toNat_toUInt8 (by omega)
    have second : (0x80 + n / 1 % 64).toUInt8.toNat = 0x80 + n / 1 % 64 := toNat_toUInt8 (by omega)
    refine ⟨_, _, _, rfl, lead_two (by omega) (by omega), completes_zero_iff.mpr ⟨_, rfl, by omega, by omega, ?_⟩⟩
    rw [first, second]
    exact (congrArg Char.ofNat (by omega)).trans same
  rw [if_neg two]
  have tail : ∀ m, (0x80 + m % 64).toUInt8.toNat = 0x80 + m % 64 := fun m => toNat_toUInt8 (by omega)
  by_cases three : n < 0x10000
  · rw [if_pos three]
    have first : (0xE0 + n / 4096).toUInt8.toNat = 0xE0 + n / 4096 := toNat_toUInt8 (by omega)
    refine ⟨_, _, _, rfl, lead_three (by omega) (by omega), completes_succ_iff.mpr ⟨_, _, rfl, ?_, ?_,
      completes_zero_iff.mpr ⟨_, rfl, ?_, ?_, ?_⟩⟩⟩
    · rw [tail, first]
      split <;> omega
    · rw [tail, first]
      split <;> omega
    · rw [tail]
      omega
    · rw [tail]
      omega
    · rw [tail, tail, first]
      exact (congrArg Char.ofNat (by omega)).trans same
  · rw [if_neg three]
    have first : (0xF0 + n / 262144).toUInt8.toNat = 0xF0 + n / 262144 := toNat_toUInt8 (by omega)
    refine ⟨_, _, _, rfl, lead_four (by omega) (by omega), completes_succ_iff.mpr ⟨_, _, rfl, ?_, ?_,
      completes_succ_iff.mpr ⟨_, _, rfl, ?_, ?_, completes_zero_iff.mpr ⟨_, rfl, ?_, ?_, ?_⟩⟩⟩⟩
    · rw [tail, first]
      split <;> omega
    · rw [tail, first]
      split <;> omega
    · rw [tail]
      omega
    · rw [tail]
      omega
    · rw [tail]
      omega
    · rw [tail]
      omega
    · rw [tail, tail, tail, first]
      exact (congrArg Char.ofNat (by omega)).trans same

theorem lead_opens (begins : lead x = .opens s) : 0xC2 ≤ x.toNat ∧ x.toNat < 0xF5 := by
  by_contra outside
  have other : ∀ t, lead x ≠ .opens t := by
    intro t
    simp only [lead]
    split
    · simp
    split
    · simp
    rw [if_neg (by omega), if_neg (by omega), if_neg (by omega)]
    simp
  exact other s begins

/-- The bytes that complete a character are those behind its first one. -/
theorem encodeChar_of_completes (begins : lead x = .opens s) (completes : Completes s bytes c) :
    encodeChar c = x :: bytes := by
  have range := lead_opens begins
  have byte : ∀ (y : UInt8) (n : Nat), n = y.toNat → n.toUInt8 = y := by
    intro y n same
    rw [same]
    exact UInt8.ofNat_toNat
  have p0 : Nat.pow 2 0 = 1 := rfl
  have p6 : Nat.pow 2 6 = 64 := rfl
  have p12 : Nat.pow 2 12 = 4096 := rfl
  by_cases two : x.toNat < 0xE0
  · rw [lead_two range.1 two] at begins
    obtain rfl := Lead.opens.inj begins
    obtain ⟨y, rfl, above, below, rfl⟩ := completes_zero_iff.mp completes
    unfold encodeChar
    rw [toNat_ofNat_of_valid (.inl (by omega))]
    dsimp only
    rw [p0, if_neg (by omega), if_pos (by omega), byte x _ (by omega), byte y _ (by omega)]
  by_cases three : x.toNat < 0xF0
  · rw [lead_three (by omega) three] at begins
    obtain rfl := Lead.opens.inj begins
    obtain ⟨y, _, rfl, above, below, completes⟩ := completes_succ_iff.mp completes
    obtain ⟨z, rfl, above', below', rfl⟩ := completes_zero_iff.mp completes
    have valid : Nat.isValidChar (((x.toNat - 0xE0) * 64 + (y.toNat - 0x80)) * 64 + (z.toNat - 0x80)) := by
      unfold Nat.isValidChar
      split at above <;> split at below <;> omega
    have least : 0x800 ≤ ((x.toNat - 0xE0) * 64 + (y.toNat - 0x80)) * 64 + (z.toNat - 0x80) := by
      split at above <;> omega
    have inner : 0x80 ≤ y.toNat ∧ y.toNat ≤ 0xBF := by
      split at above <;> split at below <;> omega
    unfold encodeChar
    rw [toNat_ofNat_of_valid valid]
    dsimp only
    rw [p0, p6, if_neg (by omega), if_neg (by omega), if_pos (by omega), byte x _ (by omega), byte y _ (by omega),
      byte z _ (by omega)]
  · rw [lead_four (by omega) range.2] at begins
    obtain rfl := Lead.opens.inj begins
    obtain ⟨y, _, rfl, above, below, completes⟩ := completes_succ_iff.mp completes
    obtain ⟨z, _, rfl, above', below', completes⟩ := completes_succ_iff.mp completes
    obtain ⟨w, rfl, above'', below'', rfl⟩ := completes_zero_iff.mp completes
    have valid : Nat.isValidChar
        ((((x.toNat - 0xF0) * 64 + (y.toNat - 0x80)) * 64 + (z.toNat - 0x80)) * 64 + (w.toNat - 0x80)) := by
      unfold Nat.isValidChar
      split at above <;> split at below <;> omega
    have least : 0x10000 ≤
        (((x.toNat - 0xF0) * 64 + (y.toNat - 0x80)) * 64 + (z.toNat - 0x80)) * 64 + (w.toNat - 0x80) := by
      split at above <;> omega
    have inner : 0x80 ≤ y.toNat ∧ y.toNat ≤ 0xBF := by
      split at above <;> split at below <;> omega
    unfold encodeChar
    rw [toNat_ofNat_of_valid valid]
    dsimp only
    rw [p0, p6, p12, if_neg (by omega), if_neg (by omega), if_neg (by omega), byte x _ (by omega), byte y _ (by omega),
      byte z _ (by omega), byte w _ (by omega)]

theorem exists_completes_inner (k bits : Nat) : ∃ bytes c, Completes ⟨k, 0x80, 0xBF, bits⟩ bytes c := by
  have inside : 0x80 ≤ (0x80 : UInt8).toNat ∧ (0x80 : UInt8).toNat ≤ 0xBF := by decide
  induction k generalizing bits with
  | zero => exact ⟨_, _, .last (next_zero inside)⟩
  | succ k ih =>
    obtain ⟨bytes, c, later⟩ := ih (bits * 64 + ((0x80 : UInt8).toNat - 0x80))
    exact ⟨_, c, .more (next_succ inside) later⟩

theorem exists_completes (goesOn : s.next x ≠ .breaks) : ∃ bytes c, Completes s (x :: bytes) c := by
  have inside := inside_of_goesOn goesOn
  obtain ⟨missing, low, high, bits⟩ := s
  cases missing with
  | zero => exact ⟨[], _, .last (next_zero inside)⟩
  | succ k =>
    obtain ⟨bytes, c, later⟩ := exists_completes_inner k (bits * 64 + (x.toNat - 0x80))
    exact ⟨bytes, c, .more (next_succ inside) later⟩

theorem lead_inner (begins : lead x = .opens s) : s.Inner := by
  have range := lead_opens begins
  by_cases two : x.toNat < 0xE0
  · rw [lead_two range.1 two] at begins
    obtain rfl := Lead.opens.inj begins
    exact ⟨Nat.le_refl _, Nat.le_refl _⟩
  by_cases three : x.toNat < 0xF0
  · rw [lead_three (by omega) three] at begins
    obtain rfl := Lead.opens.inj begins
    constructor
    · dsimp only
      split <;> omega
    · dsimp only
      split <;> omega
  · rw [lead_four (by omega) range.2] at begins
    obtain rfl := Lead.opens.inj begins
    constructor
    · dsimp only
      split <;> omega
    · dsimp only
      split <;> omega

theorem next_inner (goesOn : s.next x = .opens t) : t.Inner := by
  have inside := inside_of_goesOn (s := s) (x := x) (by simp [goesOn])
  obtain ⟨missing, low, high, bits⟩ := s
  cases missing with
  | zero =>
    rw [next_zero inside] at goesOn
    cases goesOn
  | succ k =>
    rw [next_succ inside] at goesOn
    obtain rfl := Next.opens.inj goesOn
    exact ⟨Nat.le_refl _, Nat.le_refl _⟩

/- A byte that goes on with a character begins none, and one that begins a character goes on with none. -/
theorem lead_of_goesOn (inner : s.Inner) (goesOn : s.next x ≠ .breaks) : lead x = .never := by
  have inside := inside_of_goesOn goesOn
  have low := inner.low
  have high := inner.high
  simp only [lead]
  rw [if_neg (by omega), if_pos (by omega)]

end Characters

section Reading

def Lead.open? : Lead → Option Open
  | .opens s => some s
  | .whole _ => none
  | .never => none

/-- The character that is begun and not complete once the byte is read. -/
def openAfter : Option Open → UInt8 → Option Open
  | none, x => (lead x).open?
  | some s, x =>
    match s.next x with
    | .opens t => some t
    | .whole _ => none
    | .breaks => (lead x).open?

theorem decodeFrom_cons (o : Option Open) (x : UInt8) :
    ∃ front, ∀ rest, decodeFrom o (x :: rest) = front ++ decodeFrom (openAfter o x) rest := by
  cases o with
  | none =>
    cases begins : lead x with
    | whole c => exact ⟨[c], fun rest => by simp [decodeFrom, openAfter, Lead.open?, begins]⟩
    | opens s => exact ⟨[], fun rest => by simp [decodeFrom, openAfter, Lead.open?, begins]⟩
    | never => exact ⟨[replacement], fun rest => by simp [decodeFrom, openAfter, Lead.open?, begins]⟩
  | some s =>
    cases goesOn : s.next x with
    | whole c => exact ⟨[c], fun rest => by simp [decodeFrom, openAfter, goesOn]⟩
    | opens t => exact ⟨[], fun rest => by simp [decodeFrom, openAfter, goesOn]⟩
    | breaks =>
      cases begins : lead x with
      | whole c =>
        exact ⟨[replacement, c], fun rest => by simp [decodeFrom, openAfter, Lead.open?, goesOn, begins]⟩
      | opens t => exact ⟨[replacement], fun rest => by simp [decodeFrom, openAfter, Lead.open?, goesOn, begins]⟩
      | never =>
        exact ⟨[replacement, replacement], fun rest => by simp [decodeFrom, openAfter, Lead.open?, goesOn, begins]⟩

theorem decodeFrom_append (o : Option Open) (a : List UInt8) :
    ∃ front, ∀ b, decodeFrom o (a ++ b) = front ++ decodeFrom (a.foldl openAfter o) b := by
  induction a generalizing o with
  | nil => exact ⟨[], fun b => rfl⟩
  | cons x a ih =>
    obtain ⟨first, step⟩ := decodeFrom_cons o x
    obtain ⟨front, run⟩ := ih (openAfter o x)
    refine ⟨first ++ front, fun b => ?_⟩
    rw [List.cons_append, step, run, List.append_assoc]
    rfl

theorem decodeFrom_breaks (breaks : s.next x = .breaks) (rest : List UInt8) :
    decodeFrom (some s) (x :: rest) = replacement :: decode (x :: rest) := by
  cases begins : lead x with
  | whole c => simp [decode, decodeFrom, breaks, begins]
  | opens t => simp [decode, decodeFrom, breaks, begins]
  | never => simp [decode, decodeFrom, breaks, begins]

/- Apart from the character it goes on with, the byte is one that cannot be read. -/
theorem length_goesOn (inner : s.Inner) (goesOn : s.next x ≠ .breaks) {rest : List UInt8}
    (later : ∀ t : Open, t.Inner → (decodeFrom (some t) rest).length ≤ (decode rest).length + 1) :
    (decodeFrom (some s) (x :: rest)).length < (decode (x :: rest)).length + 1 := by
  have apart : decode (x :: rest) = replacement :: decode rest := by
    simp [decode, decodeFrom, lead_of_goesOn inner goesOn]
  rw [apart, List.length_cons]
  cases next : s.next x with
  | whole c =>
    simp [decode, decodeFrom, next]
  | opens t =>
    have fewer := later t (next_inner next)
    simp only [decodeFrom, next]
    omega
  | breaks => exact absurd next goesOn

theorem length_decodeFrom_open (inner : s.Inner) (bytes : List UInt8) :
    (decodeFrom (some s) bytes).length ≤ (decode bytes).length + 1 := by
  induction bytes generalizing s with
  | nil => simp [decode, decodeFrom]
  | cons x bytes ih =>
    by_cases breaks : s.next x = .breaks
    · simp [decodeFrom_breaks breaks]
    · exact Nat.le_of_lt (length_goesOn inner breaks fun t inner => ih inner)

theorem open?_eq_some_iff {l : Lead} : l.open? = some s ↔ l = .opens s := by
  cases l with
  | whole c => simp [Lead.open?]
  | opens t => simp [Lead.open?]
  | never => simp [Lead.open?]

/- A character is begun by its first byte, and goes on with another. -/
theorem openAfter_cases (opened : openAfter o x = some t) :
    lead x = .opens t ∨ ∃ s, o = some s ∧ s.next x = .opens t := by
  cases o with
  | none => exact .inl (open?_eq_some_iff.mp opened)
  | some s =>
    simp only [openAfter] at opened
    split at opened
    · rename_i next
      exact .inr ⟨s, rfl, next.trans (congrArg Next.opens (Option.some.inj opened))⟩
    · cases opened
    · exact .inl (open?_eq_some_iff.mp opened)

theorem openAfter_inner (opened : openAfter o x = some t) : t.Inner := by
  rcases openAfter_cases opened with begins | ⟨s, -, goesOn⟩
  · exact lead_inner begins
  · exact next_inner goesOn

theorem foldl_openAfter_inner (opened : a.foldl openAfter none = some s) : s.Inner := by
  cases a using List.reverseRecOn with
  | nil => cases opened
  | append_singleton a x =>
    rw [List.foldl_append] at opened
    exact openAfter_inner opened

/- Whatever has been begun before, the first byte of a character begins it. -/
theorem openAfter_lead (inner : ∀ t, o = some t → t.Inner) (begins : lead x = .opens s) : openAfter o x = some s := by
  cases o with
  | none => exact open?_eq_some_iff.mpr begins
  | some t =>
    have breaks : t.next x = .breaks := by
      by_contra goesOn
      have never := lead_of_goesOn (inner t rfl) goesOn
      rw [begins] at never
      cases never
    simp only [openAfter, breaks]
    exact open?_eq_some_iff.mpr begins

end Reading

section Cutting

theorem completes_cons_iff : Completes s (x :: bytes) c ↔
    bytes = [] ∧ s.next x = .whole c ∨ ∃ t, s.next x = .opens t ∧ Completes t bytes c := by
  constructor
  · intro completes
    cases completes with
    | last ends => exact .inl ⟨rfl, ends⟩
    | more goesOn later => exact .inr ⟨_, goesOn, later⟩
  · rintro (⟨rfl, ends⟩ | ⟨t, goesOn, later⟩)
    · exact .last ends
    · exact .more goesOn later

theorem foldl_of_completes (completes : Completes s (a ++ b) c) (filled : b ≠ []) :
    ∃ t, a.foldl openAfter (some s) = some t ∧ Completes t b c := by
  induction a generalizing s with
  | nil => exact ⟨s, rfl, completes⟩
  | cons x a ih =>
    rcases completes_cons_iff.mp completes with ⟨none, -⟩ | ⟨t, goesOn, later⟩
    · exact absurd (List.append_eq_nil_iff.mp none).2 filled
    · obtain ⟨u, opened, rest⟩ := ih later
      refine ⟨u, ?_, rest⟩
      rw [List.foldl_cons, openAfter, goesOn]
      exact opened

theorem encodeChar_of_open (opened : a.foldl openAfter none = some s) :
    ∃ u, u ≠ [] ∧ u <:+ a ∧ ∀ bytes c, Completes s bytes c → encodeChar c = u ++ bytes := by
  induction a using List.reverseRecOn generalizing s with
  | nil => cases opened
  | append_singleton a x ih =>
    rw [List.foldl_append] at opened
    rcases openAfter_cases opened with begins | ⟨t, before, goesOn⟩
    · exact ⟨[x], List.cons_ne_nil _ _, List.suffix_append a [x], fun bytes c => encodeChar_of_completes begins⟩
    · obtain ⟨u, filled, ends, encoded⟩ := ih before
      obtain ⟨front, rfl⟩ := ends
      refine ⟨u ++ [x], by simp, ⟨front, by simp⟩, fun bytes c completes => ?_⟩
      rw [encoded (x :: bytes) c (.more goesOn completes)]
      simp

theorem open_of_encodeChar {u v : List UInt8} (filled : u ≠ []) (filled' : v ≠ []) (encoded : encodeChar c = u ++ v)
    (inner : ∀ t, o = some t → t.Inner) : ∃ s, u.foldl openAfter o = some s ∧ Completes s v c := by
  have large : 0x80 ≤ c.toNat := by
    by_contra small
    have single : encodeChar c = [c.toNat.toUInt8] := if_pos (Nat.lt_of_not_le small)
    have lengths := congrArg List.length (single.symm.trans encoded)
    have some := List.length_pos_of_ne_nil filled
    have some' := List.length_pos_of_ne_nil filled'
    simp only [List.length_append, List.length_singleton] at lengths
    omega
  obtain ⟨x, u, rfl⟩ := List.exists_cons_of_ne_nil filled
  obtain ⟨y, bytes, s, begun, begins, completes⟩ := encodeChar_completes large
  rw [encoded, List.cons_append] at begun
  obtain ⟨rfl, rfl⟩ := List.cons.inj begun
  rw [List.foldl_cons, openAfter_lead inner begins]
  exact foldl_of_completes completes filled'

/-- A character is cut where one is begun and the byte behind goes on with it. -/
theorem cuts_iff : Cuts a b ↔ ∃ s x rest, a.foldl openAfter none = some s ∧ b = x :: rest ∧ s.next x ≠ .breaks := by
  constructor
  · rintro ⟨c, u, v, filled, filled', ⟨front, rfl⟩, ⟨rest, rfl⟩, ⟨more, encoded⟩⟩
    obtain ⟨x, v, rfl⟩ := List.exists_cons_of_ne_nil filled'
    have inner : ∀ t, front.foldl openAfter none = some t → t.Inner := fun t opened => foldl_openAfter_inner opened
    rw [List.append_assoc] at encoded
    obtain ⟨s, opened, completes⟩ := open_of_encodeChar filled (by simp) encoded.symm inner
    refine ⟨s, x, v ++ rest, ?_, rfl, ?_⟩
    · rw [List.foldl_append]
      exact opened
    · rcases completes_cons_iff.mp completes with ⟨-, ends⟩ | ⟨t, goesOn, -⟩
      · simp [ends]
      · simp [goesOn]
  · rintro ⟨s, x, rest, opened, rfl, goesOn⟩
    obtain ⟨u, filled, ends, encoded⟩ := encodeChar_of_open opened
    obtain ⟨bytes, c, completes⟩ := exists_completes goesOn
    refine ⟨c, u, [x], filled, by simp, ends, ⟨rest, rfl⟩, ⟨bytes, ?_⟩⟩
    rw [encoded _ _ completes]
    simp

theorem decode_append (whole : ¬ Cuts a b) : decode (a ++ b) = decode a ++ decode b := by
  obtain ⟨front, run⟩ := decodeFrom_append none a
  have alone := run []
  rw [List.append_nil] at alone
  unfold decode
  rw [run, alone]
  cases opened : a.foldl openAfter none with
  | none => simp [decodeFrom]
  | some s =>
    cases b with
    | nil => simp [decodeFrom]
    | cons x rest =>
      have breaks : s.next x = .breaks := by
        by_contra goesOn
        exact whole (cuts_iff.mpr ⟨s, x, rest, opened, rfl, goesOn⟩)
      rw [decodeFrom_breaks breaks]
      simp [decode, decodeFrom]

theorem length_decode_append_lt (cuts : Cuts a b) :
    (decode (a ++ b)).length < (decode a).length + (decode b).length := by
  obtain ⟨s, x, rest, opened, rfl, goesOn⟩ := cuts_iff.mp cuts
  obtain ⟨front, run⟩ := decodeFrom_append none a
  have alone := run []
  rw [List.append_nil, opened] at alone
  have inner := foldl_openAfter_inner opened
  have fewer := length_goesOn inner goesOn fun t inner => length_decodeFrom_open inner rest
  unfold decode at fewer ⊢
  rw [run, alone, opened]
  simp only [decodeFrom, List.length_append, List.length_singleton] at fewer ⊢
  omega

theorem length_decode_append_le (a b : List UInt8) :
    (decode (a ++ b)).length ≤ (decode a).length + (decode b).length := by
  by_cases cuts : Cuts a b
  · exact Nat.le_of_lt (length_decode_append_lt cuts)
  · rw [decode_append cuts, List.length_append]

theorem length_decode_flatten_le (pieces : List (List UInt8)) :
    (decode pieces.flatten).length ≤ (pieces.flatMap decode).length := by
  induction pieces with
  | nil => rfl
  | cons piece pieces ih =>
    have fewer := length_decode_append_le piece pieces.flatten
    rw [List.flatten_cons, List.flatMap_cons, List.length_append]
    omega

/-- Pieces that are read one by one give the text of the whole exactly if no character is cut between them. -/
theorem flatMap_decode_eq_iff (pieces : List (List UInt8)) :
    pieces.flatMap decode = decode pieces.flatten ↔ Uncut pieces := by
  constructor
  · rintro same before after rfl cuts
    have fewer := length_decode_append_lt cuts
    have front := length_decode_flatten_le before
    have back := length_decode_flatten_le after
    have lengths := congrArg List.length same
    rw [List.flatten_append, List.flatMap_append, List.length_append] at lengths
    omega
  · intro whole
    induction pieces with
    | nil => rfl
    | cons piece pieces ih =>
      have later : pieces.flatMap decode = decode pieces.flatten := by
        apply ih
        rintro before after rfl ⟨c, u, v, filled, filled', ends, starts, encoded⟩
        apply whole (piece :: before) after rfl
        exact ⟨c, u, v, filled, filled', ends.trans (List.suffix_append piece before.flatten), starts, encoded⟩
      have first := whole [piece] pieces rfl
      rw [List.flatten_singleton] at first
      rw [List.flatMap_cons, List.flatten_cons, decode_append first, later]

end Cutting

end CBindings.Text.Utf8
