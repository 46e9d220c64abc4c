import CBindings.Literal.Basic
import CBindings.Proofs.Number.Overflow
import CBindings.Proofs.Outcome

/-! Tokens that fail to be read: hexadecimal fractions beyond the largest number, alone or behind a sign. All
other tokens are read, if only as no literal. -/
namespace CBindings.Literal

/-- The digits and the exponent are those of a number that rounds beyond the largest one; what follows them is
not looked at. -/
def Oversized (token : List Char) : Prop :=
  isHexadecimal token = true ∧ isFraction token = true ∧
    ∃ h, Number.splitHexadecimal (dropFloatSuffix token) = some h ∧
      (2 ^ 1024 - 2 ^ 970 : ℚ) ≤ h.significand * 2 ^ h.exponent

theorem readHexadecimal_tooLarge_iff (s : List Char) :
    Number.readHexadecimal s = .error .tooLarge ↔
      ∃ h, Number.splitHexadecimal s = some h ∧ (2 ^ 1024 - 2 ^ 970 : ℚ) ≤ h.significand * 2 ^ h.exponent := by
  unfold Number.readHexadecimal
  cases Number.splitHexadecimal s with
  | none => simp
  | some h =>
    have rounded := Binary64.ofBinary_infinite_iff h.negative h.significand h.exponent
    simp only [Option.some.injEq, exists_eq_left', ← rounded]
    cases Binary64.ofBinary h.negative h.significand h.exponent with
    | infinite sign => simp
    | nan => simp only [reduceCtorEq, exists_false, iff_false]; split <;> simp
    | finite sign m e => simp only [reduceCtorEq, exists_false, iff_false]; split <;> simp

theorem readNumber_error_iff (token : List Char) :
    readNumber token = .error .floatTooLarge ↔ Oversized token := by
  unfold readNumber Oversized
  rw [← readHexadecimal_tooLarge_iff]
  cases fraction : isFraction token with
  | false => simp
  | true =>
    rw [if_pos rfl, Outcome.bind_eq_error_iff]
    · unfold readFraction
      cases hexadecimal : isHexadecimal token with
      | false => simp
      | true =>
        cases read : Number.readHexadecimal (dropFloatSuffix token) with
        | ok x => simp [read]
        | error f => cases f <;> simp [read]
    · intro x
      exact ⟨_, rfl⟩

/-- The tokens, freed of their parentheses, are one oversized number or a sign and one. -/
def OversizedTokens (tokens : List String) : Prop :=
  ∃ t : String, Oversized t.toList ∧
    (stripParentheses tokens = [t] ∨ stripParentheses tokens = ["-", t] ∨ stripParentheses tokens = ["+", t])

theorem ofTokens_error_iff (tokens : List String) :
    ofTokens tokens = .error .floatTooLarge ↔ OversizedTokens tokens := by
  unfold ofTokens OversizedTokens
  split
  · rename_i none
    simp [none]
  · rename_i t alone
    rw [Outcome.bind_eq_error_iff, readNumber_error_iff, alone]
    · simp
    · intro p
      cases p with
      | some p => exact ⟨_, rfl⟩
      | none => cases readChar t.toList <;> exact ⟨_, rfl⟩
  · rename_i sign t signed
    by_cases isSign : (sign == "-" || sign == "+") = true
    · rw [if_pos isSign, Outcome.bind_eq_error_iff, readNumber_error_iff, signed]
      · have either : sign = "-" ∨ sign = "+" := by simpa using isSign
        rcases either with rfl | rfl
        · simp
        · simp
      · intro p
        exact ⟨_, rfl⟩
    · have neither : sign ≠ "-" ∧ sign ≠ "+" := by simpa using isSign
      rw [if_neg isSign, signed]
      simp [neither]
  · rename_i notOne notTwo
    refine iff_of_false (by simp) ?_
    rintro ⟨t, _, alone | minus | plus⟩
    · exact notOne t alone
    · exact notTwo "-" t minus
    · exact notTwo "+" t plus

end CBindings.Literal
