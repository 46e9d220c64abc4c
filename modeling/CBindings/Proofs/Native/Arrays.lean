import CBindings.Proofs.Native.FieldLists

/-! Array classes. An array is made once, with the size that its element has then; as long as no record changes,
it does not matter which arrays were made before. -/
namespace CBindings

open Outcome

mutual
theorem NativeType.eq_of_same (a b : NativeType) (same : a.same b = true) : a = b := by
  cases a with
  | simple s => cases b <;> simp_all [NativeType.same]
  | pointer t =>
    cases b with
    | pointer t' =>
      have inner := NativeType.eq_of_same t t' (by simpa [NativeType.same] using same)
      rw [inner]
    | _ => simp [NativeType.same] at same
  | array t n =>
    cases b with
    | array t' n' =>
      simp only [NativeType.same, Bool.and_eq_true, beq_iff_eq] at same
      rw [same.1, NativeType.eq_of_same t t' same.2]
    | _ => simp [NativeType.same] at same
  | function result arguments =>
    cases b with
    | function result' arguments' =>
      cases result with
      | none =>
        cases result' with
        | none =>
          rw [eq_of_sameTypes arguments arguments' (by simpa [NativeType.same] using same)]
        | some t' => simp [NativeType.same] at same
      | some t =>
        cases result' with
        | none => simp [NativeType.same] at same
        | some t' =>
          simp only [NativeType.same, Bool.and_eq_true] at same
          rw [NativeType.eq_of_same t t' same.1, eq_of_sameTypes arguments arguments' same.2]
    | _ => simp [NativeType.same] at same
  | record i => cases b <;> simp_all [NativeType.same]

theorem eq_of_sameTypes (as bs : List NativeType) (same : sameTypes as bs = true) : as = bs := by
  cases as with
  | nil => cases bs <;> simp_all [sameTypes]
  | cons a rest =>
    cases bs with
    | nil => simp [sameTypes] at same
    | cons b rest' =>
      simp only [sameTypes, Bool.and_eq_true] at same
      rw [NativeType.eq_of_same a b same.1, eq_of_sameTypes rest rest' same.2]
end

namespace Classes

variable {c c' : Classes}

/-- A new array of `c`: it has the size and alignment that its element gives it, and memory can hold it. -/
structure MakesArray (c : Classes) (a : ArrayClass) : Prop where
  size : a.size = (c.layout a.element).1 * a.length
  align : a.align = (c.layout a.element).2
  small : ((c.layout a.element).1 * a.length : Int) < ClassWork.indexLimit

/-- The same records, and perhaps more arrays. -/
structure MoreArrays (c c' : Classes) : Prop where
  records : c'.records = c.records
  arrays : ∃ more, c'.arrays = c.arrays ++ more ∧ ∀ a ∈ more, c.MakesArray a

theorem MoreArrays.refl (c : Classes) : c.MoreArrays c := ⟨rfl, [], by simp, by simp⟩

theorem MoreArrays.append (grown : c.MoreArrays c') {a : ArrayClass} (made : c.MakesArray a) :
    c.MoreArrays { c' with arrays := c'.arrays ++ [a] } := by
  obtain ⟨records, more, arrays, all⟩ := grown
  refine ⟨records, more ++ [a], by simp [arrays], fun b member => ?_⟩
  rcases List.mem_append.mp member with earlier | last
  · exact all b earlier
  · rw [List.mem_singleton.mp last]
    exact made

/- What is found is an old array, or a new one of just that element and length. -/
theorem MoreArrays.arrayOf? (grown : c.MoreArrays c') (element : NativeType) (length : Nat) :
    c'.arrayOf? element length = c.arrayOf? element length ∨
      c.arrayOf? element length = none ∧ ∃ a, c'.arrayOf? element length = some a ∧ c.MakesArray a ∧
        a.element = element ∧ a.length = length := by
  obtain ⟨-, more, arrays, all⟩ := grown
  simp only [Classes.arrayOf?, arrays, List.find?_append]
  cases old : c.arrays.find? fun a => a.length == length && a.element.same element with
  | some a => exact .inl rfl
  | none =>
    rw [Option.none_or]
    cases new : more.find? fun a => a.length == length && a.element.same element with
    | none => exact .inl rfl
    | some a =>
      have matching := List.find?_some new
      simp only [Bool.and_eq_true, beq_iff_eq] at matching
      exact .inr ⟨rfl, a, rfl, all a (List.mem_of_find?_eq_some new), NativeType.eq_of_same _ _ matching.2, matching.1⟩

theorem layout_array (c : Classes) (t : NativeType) (n : Nat) :
    c.layout (.array t n) = ((c.arrayOf? t n).map fun a => (a.size, a.align)).getD
      ((c.layout t).1 * n, (c.layout t).2) := by
  rw [layout]
  cases c.arrayOf? t n with
  | some a => rfl
  | none => rfl

theorem MoreArrays.layout_eq (grown : c.MoreArrays c') (t : NativeType) : c'.layout t = c.layout t := by
  cases t with
  | array t n =>
    have element := grown.layout_eq t
    rw [layout_array, layout_array, element]
    rcases grown.arrayOf? t n with same | ⟨unmade, a, found, made, rfl, rfl⟩
    · rw [same]
    · simp [unmade, found, made.size, made.align]
  | record i => simp only [layout, record, grown.records]
  | simple s => rfl
  | pointer t => rfl
  | function result arguments => rfl

end Classes

namespace ClassWork

open Classes

/-- The array that is made of an element, unless it is there already. -/
def newArray (c : Classes) (element : NativeType) (length : Nat) : ArrayClass :=
  ⟨element, length, (c.layout element).1 * length, (c.layout element).2⟩

theorem array_run_eq (element : NativeType) {length : Int} (c : Classes)
    (counted : ¬ (decide (length ≥ indexLimit) || decide (length < -indexLimit)) = true) (positive : ¬ length < 0) :
    (array element length).run c =
      if (c.arrayOf? element length.toNat).isSome then (.ok (.array element length.toNat), c)
      else if ((c.layout element).1 * length.toNat : Int) ≥ indexLimit then (.error .arrayTooLarge, c)
      else (.ok (.array element length.toNat),
        { c with arrays := c.arrays ++ [newArray c element length.toNat] }) := by
  unfold array
  rw [if_neg counted, if_neg positive, run_bind, run_get]
  dsimp only
  cases c.arrayOf? element length.toNat with
  | some a => rfl
  | none =>
    rw [Option.isNone_none, Option.isSome_none]
    rw [if_pos rfl, if_neg Bool.false_ne_true]
    split
    · rfl
    · rfl

/- Which arrays were made before does not show in the answer. -/
theorem array_moreArrays {c c' : Classes} (grown : c.MoreArrays c') (element : NativeType) (length : Int) :
    ((array element length).run c').1 = ((array element length).run c).1 ∧
      c.MoreArrays ((array element length).run c').2 := by
  by_cases uncounted : (decide (length ≥ indexLimit) || decide (length < -indexLimit)) = true
  · unfold array
    rw [if_pos uncounted]
    exact ⟨rfl, grown⟩
  · by_cases negative : length < 0
    · unfold array
      rw [if_neg uncounted, if_pos negative]
      exact ⟨rfl, grown⟩
    · rw [array_run_eq element c uncounted negative, array_run_eq element c' uncounted negative, newArray,
        grown.layout_eq]
      rcases grown.arrayOf? element length.toNat with same | ⟨unmade, a, found, made, is, long⟩
      · rw [same]
        split
        · exact ⟨rfl, grown⟩
        · split
          · exact ⟨rfl, grown⟩
          · rename_i small
            exact ⟨rfl, grown.append ⟨rfl, rfl, by simpa using small⟩⟩
      · have small := made.small
        rw [is, long] at small
        have fits : ¬ ((c.layout element).1 * length.toNat : Int) ≥ indexLimit := Int.not_le.mpr small
        simp only [found, unmade, Option.isSome_some, Option.isSome_none, if_true, Bool.false_eq_true, if_false, fits,
          true_and]
        exact grown

end ClassWork

end CBindings
