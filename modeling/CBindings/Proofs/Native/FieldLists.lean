import CBindings.Native.Class
import CBindings.Proofs.Outcome

/-! Field lists of classes. Work on one class lays its members out and may mark others, but no class gets other
members than it was given, and none goes away. -/
namespace CBindings

open Outcome

/-- What a class is and which members it was given; its layout and its marks are left out. -/
def RecordClass.core (r : RecordClass) : String × Bool × Option (List (Field NativeType)) × Bool :=
  (r.name, r.isUnion, r.fields, r.failed)

theorem RecordClass.fields_eq {a b : RecordClass} (same : a.core = b.core) : a.fields = b.fields :=
  congrArg (fun core => core.2.2.1) same

theorem RecordClass.failed_eq {a b : RecordClass} (same : a.core = b.core) : a.failed = b.failed :=
  congrArg (fun core => core.2.2.2) same

/-- Lengths and sizes that no memory has, and more arguments than a function takes. -/
def ClassFault.isOverflow : ClassFault → Bool
  | .lengthTooLarge | .arrayTooLarge | .tooManyArguments _ => true
  | _ => false

namespace Classes

variable {c c' c'' : Classes}

@[simp] theorem length_update (c : Classes) (i : Nat) (f : RecordClass → RecordClass) :
    (c.update i f).records.length = c.records.length := by
  simp [update]

theorem record_update (c : Classes) (i : Nat) (f : RecordClass → RecordClass) (j : Nat) :
    (c.update i f).record j = if i = j ∧ j < c.records.length then f (c.record j) else c.record j := by
  simp only [record, update, List.getElem?_modify]
  by_cases same : i = j
  · by_cases inside : j < c.records.length
    · simp [same, inside]
    · simp [same, inside]
  · simp [same]

theorem core_update {f : RecordClass → RecordClass} (kept : ∀ r, (f r).core = r.core) (c : Classes) (i j : Nat) :
    ((c.update i f).record j).core = (c.record j).core := by
  rw [record_update]
  split
  · exact kept _
  · rfl

/-- The same classes, each with the members that it had. -/
def SameCores (c c' : Classes) : Prop :=
  c'.records.length = c.records.length ∧ ∀ i, (c'.record i).core = (c.record i).core

theorem SameCores.refl (c : Classes) : SameCores c c := ⟨rfl, fun _ => rfl⟩

theorem SameCores.trans (c c' c'' : Classes) (first : SameCores c c') (second : SameCores c' c'') :
    SameCores c c'' :=
  ⟨second.1.trans first.1, fun i => (second.2 i).trans (first.2 i)⟩

theorem sameCores_update {f : RecordClass → RecordClass} (kept : ∀ r, (f r).core = r.core) (i : Nat) (c : Classes) :
    SameCores c (c.update i f) :=
  ⟨length_update c i f, core_update kept c i⟩

theorem sameCores_markFinal (t : NativeType) (c : Classes) : SameCores c (c.markFinal t) := by
  cases t with
  | record i => exact sameCores_update (f := fun r => { r with isFinal := true }) (fun _ => rfl) i c
  | _ => exact SameCores.refl c

/-- All classes are still there with the members that they had, and there may be more. -/
structure Extends (c c' : Classes) : Prop where
  length_le : c.records.length ≤ c'.records.length
  core_eq : ∀ i < c.records.length, (c'.record i).core = (c.record i).core

theorem Extends.refl (c : Classes) : Extends c c := ⟨Nat.le_refl _, fun _ _ => rfl⟩

theorem Extends.trans (first : Extends c c') (second : Extends c' c'') : Extends c c'' := by
  refine ⟨Nat.le_trans first.length_le second.length_le, fun i inside => ?_⟩
  have inside' : i < c'.records.length := Nat.lt_of_lt_of_le inside first.length_le
  exact (second.core_eq i inside').trans (first.core_eq i inside)

theorem SameCores.extends (same : SameCores c c') : Extends c c' := ⟨Nat.le_of_eq same.1.symm, fun i _ => same.2 i⟩

theorem record_append_of_lt {i : Nat} (inside : i < c.records.length) (more : List RecordClass) :
    ({ c with records := c.records ++ more } : Classes).record i = c.record i := by
  simp [record, List.getElem?_append_left inside]

theorem record_append_length (c : Classes) (new : RecordClass) :
    ({ c with records := c.records ++ [new] } : Classes).record c.records.length = new := by
  simp [record]

theorem extends_append (c : Classes) (more : List RecordClass) :
    Extends c { c with records := c.records ++ more } := by
  refine ⟨by simp, fun i inside => ?_⟩
  rw [record_append_of_lt inside]

end Classes

namespace ClassWork

open Classes

theorem declare_run (name : String) (isUnion : Bool) (c : Classes) :
    name.toList.contains '\x00' = true ∧ (declare name isUnion).run c = (.error .nameHoldsNul, c) ∨
      (declare name isUnion).run c =
        (.ok c.records.length, { c with records := c.records ++ [{ name, isUnion }] }) := by
  unfold declare
  split
  · rename_i holdsNul
    exact .inl ⟨holdsNul, rfl⟩
  · exact .inr rfl

/-- The length of an array cannot be counted, or it is a new one that no memory can hold. -/
def TooLarge (c : Classes) (element : NativeType) (length : Int) : Prop :=
  length ≥ indexLimit ∨ length < -indexLimit ∨
    0 ≤ length ∧ c.arrayOf? element length.toNat = none ∧ (c.layout element).1 * length ≥ indexLimit

theorem array_run (element : NativeType) (length : Int) (c : Classes) :
    (∃ f, (array element length).run c = (.error f, c) ∧ (f.isOverflow = true ↔ TooLarge c element length)) ∨
      ∃ arrays, (array element length).run c = (.ok (.array element length.toNat), { c with arrays }) ∧
        ¬ TooLarge c element length := by
  unfold array TooLarge
  dsimp only
  split
  · rename_i uncounted
    simp only [Bool.or_eq_true, decide_eq_true_eq] at uncounted
    refine .inl ⟨.lengthTooLarge, rfl, iff_of_true rfl ?_⟩
    exact uncounted.imp id .inl
  · rename_i counted
    simp only [Bool.or_eq_true, decide_eq_true_eq, not_or] at counted
    split
    · rename_i negative
      refine .inl ⟨.negativeLength length, rfl, iff_of_false (by simp [ClassFault.isOverflow]) ?_⟩
      omega
    · rename_i positive
      have exact_length : (length.toNat : Int) = length := Int.toNat_of_nonneg (by omega)
      rw [run_bind, run_get]
      dsimp only
      split
      · rename_i new
        have unmade : c.arrayOf? element length.toNat = none := by simpa using new
        split
        · rename_i large
          rw [exact_length] at large
          refine .inl ⟨.arrayTooLarge, rfl, iff_of_true rfl ?_⟩
          exact .inr (.inr ⟨by omega, unmade, large⟩)
        · rename_i small
          rw [exact_length] at small
          refine .inr ⟨_, rfl, ?_⟩
          rintro (large | large | ⟨-, -, large⟩)
          · exact counted.1 large
          · exact counted.2 large
          · exact small large
      · rename_i old
        refine .inr ⟨c.arrays, rfl, ?_⟩
        rintro (large | large | ⟨-, unmade, -⟩)
        · exact counted.1 large
        · exact counted.2 large
        · simp [unmade] at old

/- Laying out: no class gets other members, and every fault is one of this class alone. -/
abbrev LaysOut {α : Type} (x : ClassWork α) : Prop := Within SameCores (fun f => f.isOverflow = false) x

theorem laysOut_pure {α : Type} (a : α) : LaysOut (pure a) := within_pure SameCores.refl a

theorem laysOut_throw {α : Type} {f : ClassFault} (small : f.isOverflow = false) : LaysOut (throw f : ClassWork α) :=
  within_throw SameCores.refl small

theorem LaysOut.bind {α β : Type} {x : ClassWork α} {f : α → ClassWork β} (first : LaysOut x)
    (second : ∀ a, LaysOut (f a)) : LaysOut (x >>= f) :=
  Within.bind SameCores.trans first second

theorem laysOut_refusal {α β : Type} {f : ClassFault} (small : f.isOverflow = false) (rest : α → ClassWork β) :
    LaysOut ((throw f : ClassWork α) >>= rest) := by
  intro c
  refine ⟨SameCores.refl c, fun f' failed => ?_⟩
  cases failed
  exact small

theorem laysOut_get : LaysOut (get : ClassWork Classes) := within_get SameCores.refl

theorem laysOut_update {f : RecordClass → RecordClass} (i : Nat) (kept : ∀ r, (f r).core = r.core) :
    LaysOut (modify fun c => c.update i f) :=
  within_modify (sameCores_update kept i)

theorem laysOut_setSlot (i : Nat) (name : String) (s : Slot) : LaysOut (setSlot i name s) := by
  refine laysOut_update i fun r => ?_
  rfl

theorem laysOut_checkWidth (f : Field NativeType) : LaysOut (checkWidth f) := by
  unfold checkWidth
  split
  · exact laysOut_pure _
  · refine laysOut_get.bind fun c => ?_
    split
    · dsimp only
      split
      · exact laysOut_refusal rfl _
      · split
        · exact laysOut_refusal rfl _
        · exact laysOut_pure _
    · exact laysOut_throw rfl

theorem laysOut_placeMember (i : Nat) (isUnion : Bool) (t : Totals) (f : Field NativeType) :
    LaysOut (placeMember i isUnion t f) := by
  unfold placeMember
  dsimp only
  split
  · exact laysOut_refusal rfl _
  · refine LaysOut.bind (within_modify fun c => sameCores_markFinal f.type c) fun _ => ?_
    refine (laysOut_checkWidth f).bind fun width => laysOut_get.bind fun c => ?_
    split
    · exact laysOut_get.bind fun c' => laysOut_refusal rfl _
    · exact (laysOut_setSlot i f.name _).bind fun _ => laysOut_pure _

theorem laysOut_placeMembers (i : Nat) (isUnion : Bool) (t : Totals) (fields : List (Field NativeType)) :
    LaysOut (placeMembers i isUnion t fields) := by
  induction fields generalizing t with
  | nil =>
    rw [placeMembers]
    exact laysOut_pure t
  | cons f rest ih =>
    rw [placeMembers]
    exact (laysOut_placeMember i isUnion t f).bind ih

theorem laysOut_fieldsOf (t : NativeType) : LaysOut (fieldsOf t) := by
  unfold fieldsOf
  refine laysOut_get.bind fun c => ?_
  split
  · split
    · exact laysOut_pure _
    · exact laysOut_throw rfl
  · exact laysOut_throw rfl

theorem laysOut_promote (i fuel : Nat) (t : NativeType) (offset : Int) : LaysOut (promote i fuel t offset) := by
  induction fuel generalizing t offset with
  | zero =>
    rw [promote]
    exact laysOut_pure ()
  | succ fuel ih =>
    rw [promote]
    refine (laysOut_fieldsOf t).bind fun found => ?_
    refine LaysOut.bind ?_ fun _ => laysOut_pure ()
    refine within_forIn SameCores.refl SameCores.trans _ _ fun f _ => laysOut_get.bind fun c => ?_
    split
    · exact laysOut_get.bind fun c => laysOut_refusal rfl _
    · split
      · exact (ih _ _).bind fun _ => laysOut_pure _
      · exact (laysOut_setSlot i f.name _).bind fun _ => laysOut_pure _

theorem laysOut_promoteAll (i : Nat) (names : List String) : LaysOut (promoteAll i names) := by
  induction names with
  | nil =>
    rw [promoteAll]
    exact laysOut_pure ()
  | cons name rest ih =>
    rw [promoteAll]
    refine laysOut_get.bind fun c => ?_
    split
    · split
      · exact laysOut_throw rfl
      · exact laysOut_throw rfl
    · exact (laysOut_setSlot i name _).bind fun _ => (laysOut_promote i _ _ _).bind fun _ => ih

theorem laysOut_layOut (i : Nat) (fields : List (Field NativeType)) : LaysOut (layOut i fields) := by
  unfold layOut
  refine laysOut_get.bind fun c => ?_
  dsimp only
  split
  · exact laysOut_refusal rfl _
  · refine (laysOut_placeMembers i _ _ fields).bind fun t => ?_
    refine LaysOut.bind (laysOut_update i fun r => rfl) fun _ => laysOut_get.bind fun c' => ?_
    split
    · exact laysOut_refusal rfl _
    · refine LaysOut.bind (laysOut_update i fun r => rfl) fun _ => ?_
      split
      · exact laysOut_refusal rfl _
      · exact laysOut_get.bind fun c'' => laysOut_promoteAll i _

/- The class itself gets its field list, whether it can be laid out or not. -/
theorem setFields_run {i : Nat} {fields : List (Field NativeType)} {anonymous : List String} {c c' : Classes}
    {result : Except ClassFault Unit} (ended : (setFields i fields anonymous).run c = (result, c')) :
    c'.records.length = c.records.length ∧ (∀ j ≠ i, (c'.record j).core = (c.record j).core) ∧
      (∀ f, result = .error f → f.isOverflow = false) ∧
      (result = .ok () → i < c.records.length →
        (c'.record i).core = ((c.record i).name, (c.record i).isUnion, some fields, (c.record i).failed)) := by
  let given : RecordClass → RecordClass := fun r =>
    { r with fields := some fields, anonymous := if anonymous.isEmpty then r.anonymous else anonymous }
  have start : (setFields i fields anonymous).run c =
      (tryCatch (layOut i fields) fun f => do
        modify fun c => c.update i fun r => { r with failed := true }
        throw f : ClassWork Unit).run (c.update i given) := rfl
  have laid := laysOut_layOut i fields (c.update i given)
  rw [start, run_tryCatch] at ended
  rcases tried : (layOut i fields).run (c.update i given) with ⟨result', c₂⟩
  rw [tried] at ended laid
  obtain ⟨⟨length, cores⟩, faults⟩ := laid
  have others : ∀ j ≠ i, (c₂.record j).core = (c.record j).core := by
    intro j other
    rw [cores, record_update, if_neg fun both => other both.1.symm]
  cases result' with
  | ok _ =>
    cases ended
    refine ⟨length.trans (length_update c i given), others, fun f failed => ?_, fun _ inside => ?_⟩
    · cases failed
    · rw [cores, record_update, if_pos ⟨rfl, inside⟩]
      rfl
  | error f =>
    cases ended
    refine ⟨?_, fun j other => ?_, fun f' failed => ?_, fun done => ?_⟩
    · exact (length_update _ i _).trans (length.trans (length_update c i given))
    · rw [record_update, if_neg fun both => other both.1.symm, others j other]
    · cases failed
      exact faults f rfl
    · cases done

end ClassWork

end CBindings
