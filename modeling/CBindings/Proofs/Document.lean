import CBindings.Document
import Mathlib.Data.List.Forall2

/-! When two documents are equal as JSON values: neither the order of members counts nor how a number is kept, but only
its text. -/
namespace CBindings

namespace Document

variable {ε : Type} {d d' : Document ε} {t : String}

/-- The text of a number. -/
def numeral? : Document ε → Option String
  | .integer n _ => some (toString n)
  | .number t => some t
  | _ => none

/-- Equal as JSON values. What is refused is no value, and text that was written before is not compared. -/
inductive Same : Document ε → Document ε → Prop where
  | null : Same .null .null
  | bool (b : Bool) : Same (.bool b) (.bool b)
  | number {d d' : Document ε} {t : String} (left : d.numeral? = some t) (right : d'.numeral? = some t) : Same d d'
  | text (s : String) : Same (.text s) (.text s)
  | bytes (b : List UInt8) (cause cause' : ε) : Same (.bytes b cause) (.bytes b cause')
  | list {ds ds' : List (Document ε)} (items : List.Forall₂ Same ds ds') : Same (.list ds) (.list ds')
  | object {ms ms' : List (String × Document ε)}
      (members : ∀ key, Option.Rel Same (ms.lookup key) (ms'.lookup key)) : Same (.object ms) (.object ms')

inductive Shape where
  | null
  | bool
  | number
  | text
  | bytes
  | block
  | list
  | object
  | refused

def shape : Document ε → Shape
  | .null => .null
  | .bool _ => .bool
  | .integer _ _ => .number
  | .number _ => .number
  | .text _ => .text
  | .bytes _ _ => .bytes
  | .block _ _ => .block
  | .list _ => .list
  | .object _ => .object
  | .refused _ => .refused

def entry? : Document ε → String → Option (Document ε)
  | .object members, key => members.lookup key
  | _, _ => none

theorem shape_of_numeral? (number : d.numeral? = some t) : d.shape = .number := by
  cases d with
  | integer _ _ => rfl
  | number _ => rfl
  | _ => cases number

theorem entry?_of_numeral? (number : d.numeral? = some t) (key : String) : d.entry? key = none := by
  cases d with
  | object _ => cases number
  | _ => rfl

theorem Same.numeral? (same : d.Same d') : d.numeral? = d'.numeral? := by
  cases same with
  | number left right => rw [left, right]
  | _ => rfl

theorem Same.shape (same : d.Same d') : d.shape = d'.shape := by
  cases same with
  | number left right => rw [shape_of_numeral? left, shape_of_numeral? right]
  | _ => rfl

theorem Same.entry? (same : d.Same d') (key : String) : Option.Rel Same (d.entry? key) (d'.entry? key) := by
  cases same with
  | object members => exact members key
  | number left right =>
    rw [entry?_of_numeral? left, entry?_of_numeral? right]
    exact .none
  | _ => exact .none

@[simp] theorem same_bool_iff {b b' : Bool} : Same (.bool b : Document ε) (.bool b') ↔ b = b' := by
  constructor
  · intro same
    cases same with
    | bool => rfl
    | number left _ => cases left
  · rintro rfl
    exact .bool b

@[simp] theorem same_text_iff {s s' : String} : Same (.text s : Document ε) (.text s') ↔ s = s' := by
  constructor
  · intro same
    cases same with
    | text => rfl
    | number left _ => cases left
  · rintro rfl
    exact .text s

@[simp] theorem same_bytes_iff {b b' : List UInt8} {cause cause' : ε} :
    Same (.bytes b cause) (.bytes b' cause') ↔ b = b' := by
  constructor
  · intro same
    cases same with
    | bytes => rfl
    | number left _ => cases left
  · rintro rfl
    exact .bytes b cause cause'

@[simp] theorem same_list_iff {ds ds' : List (Document ε)} :
    Same (.list ds) (.list ds') ↔ List.Forall₂ Same ds ds' := by
  constructor
  · intro same
    cases same with
    | list items => exact items
    | number left _ => cases left
  · exact .list

/- With the same keys in the same order, the values are compared one by one. -/
theorem same_object_iff {ms ms' : List (String × Document ε)} (keys : ms.map Prod.fst = ms'.map Prod.fst)
    (distinct : (ms.map Prod.fst).Nodup) :
    Same (.object ms) (.object ms') ↔ List.Forall₂ Same (ms.map Prod.snd) (ms'.map Prod.snd) := by
  have lookups : Same (.object ms) (.object ms') ↔ ∀ key, Option.Rel Same (ms.lookup key) (ms'.lookup key) :=
    ⟨fun same key => same.entry? key, .object⟩
  rw [lookups]
  clear lookups
  induction ms generalizing ms' with
  | nil =>
    cases ms' with
    | nil => simp
    | cons m ms' => cases keys
  | cons m ms ih =>
    obtain ⟨k, d⟩ := m
    cases ms' with
    | nil => cases keys
    | cons m' ms' =>
      obtain ⟨k', d'⟩ := m'
      obtain ⟨rfl, rest⟩ := List.cons.inj keys
      rw [List.map_cons, List.nodup_cons] at distinct
      have absent : k ∉ ms'.map Prod.fst := rest ▸ distinct.1
      have missing {ms : List (String × Document ε)} (absent : k ∉ ms.map Prod.fst) : ms.lookup k = none := by
        rw [List.lookup_eq_none_iff]
        intro m inside
        rw [bne_iff_ne]
        rintro rfl
        exact absent (List.mem_map_of_mem inside)
      have behind (key : String) (other : key ≠ k) :
          ((k, d) :: ms).lookup key = ms.lookup key ∧ ((k, d') :: ms').lookup key = ms'.lookup key := by
        simp [List.lookup_cons, beq_eq_false_iff_ne.mpr other]
      constructor
      · intro same
        have head : d.Same d' := by simpa using same k
        refine .cons head ((ih rest distinct.2).mp fun key => ?_)
        by_cases own : key = k
        · rw [own, missing distinct.1, missing absent]
          exact .none
        · rw [← (behind key own).1, ← (behind key own).2]
          exact same key
      · intro values key
        obtain ⟨head, tail⟩ := List.forall₂_cons.mp values
        by_cases own : key = k
        · simpa [own] using head
        · rw [(behind key own).1, (behind key own).2]
          exact (ih rest distinct.2).mpr tail key

theorem Same.isSome_entry? (same : d.Same d') (key : String) : (d.entry? key).isSome = (d'.entry? key).isSome := by
  have both := same.entry? key
  generalize d.entry? key = x at both ⊢
  generalize d'.entry? key = y at both ⊢
  cases both <;> rfl

end Document

end CBindings
