import CBindings.Proofs.Native.Slots

/-! How far a class gets with its field list: which slots are placed, and which classes are final from then on. -/
namespace CBindings

open Outcome Classes

namespace ClassWork

theorem record_markFinal (c : Classes) (t : NativeType) (j : Nat) :
    ∃ final, (c.markFinal t).record j = { c.record j with isFinal := final } ∧
      ((c.record j).isFinal = true → final = true) ∧ (t = .record j → j < c.records.length → final = true) := by
  cases t with
  | record k =>
    rw [markFinal, record_update]
    split
    · exact ⟨true, rfl, fun _ => rfl, fun _ _ => rfl⟩
    · rename_i other
      refine ⟨(c.record j).isFinal, rfl, id, fun same inside => ?_⟩
      cases same
      exact absurd ⟨rfl, inside⟩ other
  | _ => exact ⟨(c.record j).isFinal, rfl, id, fun same => by cases same⟩

/-- Members of `fields` are placed in the class `i`: all of them, if the work is done to its end. Their classes are
final. -/
structure Placed (i : Nat) (fields : List (Field NativeType)) (done : Prop) (c c' : Classes) : Prop where
  length_eq : c'.records.length = c.records.length
  others : ∀ j ≠ i, (c'.record j).body = (c.record j).body
  final : ∀ j, (c.record j).isFinal = true → (c'.record j).isFinal = true
  own : c'.record i = { c.record i with slots := (c'.record i).slots, isFinal := (c'.record i).isFinal }
  kept : ∀ n, ((c.record i).slots.lookup n).isSome → ((c'.record i).slots.lookup n).isSome
  new : ∀ n s, (c'.record i).slots.lookup n = some s → (c.record i).slots.lookup n = some s ∨
    s.anonymous = false ∧ (∃ f ∈ fields, f.name = n ∧ s.type = f.type) ∧
      ∀ k, s.type = .record k → k < c.records.length → (c'.record k).isFinal = true
  all : done → ∀ f ∈ fields, ((c'.record i).slots.lookup f.name).isSome ∧
    ∀ k, f.type = .record k → k < c.records.length → (c'.record k).isFinal = true

variable {i : Nat} {fields rest : List (Field NativeType)} {f : Field NativeType} {done done' : Prop}
  {c c' c'' : Classes}

theorem placed_nothing (c : Classes) (i : Nat) (nothing : done → fields = []) : Placed i fields done c c := by
  refine ⟨rfl, fun _ _ => rfl, fun _ already => already, rfl, fun _ found => found, fun _ _ found => .inl found, ?_⟩
  intro finished f inside
  rw [nothing finished] at inside
  cases inside

theorem Placed.trans (first : Placed i [f] done c c') (second : Placed i rest done' c' c'') (both : done' → done) :
    Placed i (f :: rest) done' c c'' := by
  have longer := first.length_eq
  refine ⟨second.length_eq.trans longer, fun j other => ?_, fun j already => second.final j (first.final j already), ?_,
    fun n found => second.kept n (first.kept n found), fun n s found => ?_, fun finished g inside => ?_⟩
  · rw [second.others j other, first.others j other]
  · rw [second.own, first.own]
  · rcases second.new n s found with earlier | ⟨named, ⟨g, inside, typed⟩, marked⟩
    · rcases first.new n s earlier with before | ⟨named, ⟨g, inside, typed⟩, marked⟩
      · exact .inl before
      · refine .inr ⟨named, ⟨g, ?_, typed⟩, fun k same inside => second.final k (marked k same inside)⟩
        cases List.mem_singleton.mp inside
        exact .head rest
    · exact .inr ⟨named, ⟨g, .tail f inside, typed⟩, fun k same within => marked k same (longer ▸ within)⟩
  · rcases List.mem_cons.mp inside with rfl | later
    · obtain ⟨found, marked⟩ := first.all (both finished) g (.head [])
      exact ⟨second.kept _ found, fun k same within => second.final k (marked k same within)⟩
    · obtain ⟨found, marked⟩ := second.all finished g later
      exact ⟨found, fun k same within => marked k same (longer ▸ within)⟩

theorem checkWidth_left (f : Field NativeType) (c : Classes) : ((checkWidth f).run c).2 = c := by
  unfold checkWidth
  split
  · rfl
  · rw [run_bind, run_get]
    dsimp only
    split
    · split
      · rfl
      · split
        · rfl
        · rfl
    · rfl

/- The class of the member is marked before its width is checked. -/
theorem placed_markFinal (c : Classes) (i : Nat) (f : Field NativeType) :
    Placed i [f] False c (c.markFinal f.type) := by
  refine ⟨(sameCores_markFinal f.type c).1, fun j _ => ?_, fun j already => ?_, ?_, fun n found => ?_,
    fun n s found => ?_, False.elim⟩
  · obtain ⟨final, marked, -⟩ := record_markFinal c f.type j
    rw [marked]
    rfl
  · obtain ⟨final, marked, mono, -⟩ := record_markFinal c f.type j
    rw [marked]
    exact mono already
  · obtain ⟨final, marked, -⟩ := record_markFinal c f.type i
    rw [marked]
  · obtain ⟨final, marked, -⟩ := record_markFinal c f.type i
    rw [marked]
    exact found
  · obtain ⟨final, marked, -⟩ := record_markFinal c f.type i
    rw [marked] at found
    exact .inl found

theorem placed_slot {s : Slot} (inside : i < c.records.length) (typed : s.type = f.type) (named : s.anonymous = false)
    (done : Prop) : Placed i [f] done c
      ((c.markFinal f.type).update i fun r => { r with slots := putSlot r.slots f.name s }) := by
  obtain ⟨length_eq, others, final, own, -, -, -⟩ := placed_markFinal c i f
  obtain ⟨reslotted, put⟩ := reslotted_putSlot f.name s (length_eq.symm ▸ inside)
  generalize (c.markFinal f.type).update i (fun r => { r with slots := putSlot r.slots f.name s }) = c'
    at reslotted put ⊢
  have isFinal_eq (j : Nat) : (c'.record j).isFinal = ((c.markFinal f.type).record j).isFinal := by
    by_cases same : j = i
    · rw [same, reslotted.own]
    · rw [reslotted.others j same]
  have marked (k : Nat) (same : f.type = .record k) (within : k < c.records.length) :
      (c'.record k).isFinal = true := by
    obtain ⟨final, record_eq, -, set⟩ := record_markFinal c f.type k
    rw [isFinal_eq, record_eq]
    exact set same within
  have slots (n : String) :
      (c'.record i).slots.lookup n = if n = f.name then some s else (c.record i).slots.lookup n := by
    obtain ⟨_, record_eq, -⟩ := record_markFinal c f.type i
    rw [put, record_eq]
  refine ⟨reslotted.length_eq.trans length_eq, fun j other => ?_, fun j already => ?_, ?_, fun n found => ?_,
    fun n s' found => ?_, fun _ g member => ?_⟩
  · rw [reslotted.others j other, others j other]
  · rw [isFinal_eq]
    exact final j already
  · rw [reslotted.own, own]
  · rw [slots]
    split
    · rfl
    · exact found
  · rw [slots] at found
    split at found
    · rename_i same
      cases found
      exact .inr ⟨named, ⟨f, .head [], same.symm, typed⟩, fun k same => marked k (typed.symm.trans same)⟩
    · exact .inl found
  · cases List.mem_singleton.mp member
    rw [slots, if_pos rfl]
    exact ⟨rfl, marked⟩

theorem placeMember_placed {isUnion : Bool} {t : Totals} {result : Except ClassFault Totals}
    (inside : i < c.records.length) (ended : (placeMember i isUnion t f).run c = (result, c')) :
    Placed i [f] (∃ t', result = .ok t') c c' := by
  unfold placeMember at ended
  dsimp only at ended
  split at ended
  · cases ended
    refine placed_nothing c i ?_
    rintro ⟨_, finished⟩
    cases finished
  · have start : (modify (·.markFinal f.type) : ClassWork PUnit).run c = (.ok ⟨⟩, c.markFinal f.type) := rfl
    rw [run_bind, start] at ended
    dsimp only at ended
    rw [run_bind] at ended
    have checked := checkWidth_left f (c.markFinal f.type)
    rcases width : (checkWidth f).run (c.markFinal f.type) with ⟨result', c₁⟩
    rw [width] at ended checked
    dsimp only at checked
    subst checked
    have refused (fault : ClassFault) :
        Placed i [f] (∃ t', (.error fault : Except ClassFault Totals) = .ok t') c (c.markFinal f.type) := by
      refine { placed_markFinal c i f with all := ?_ }
      rintro ⟨_, finished⟩
      cases finished
    cases result' with
    | error fault =>
      cases ended
      exact refused fault
    | ok w =>
      dsimp only at ended
      rw [run_bind, run_get] at ended
      dsimp only at ended
      split at ended
      · cases ended
        exact refused _
      · cases ended
        exact placed_slot inside rfl rfl _

theorem placeMembers_placed {isUnion : Bool} {t : Totals} {result : Except ClassFault Totals}
    (inside : i < c.records.length) (ended : (placeMembers i isUnion t fields).run c = (result, c')) :
    Placed i fields (∃ t', result = .ok t') c c' := by
  induction fields generalizing c t with
  | nil =>
    cases ended
    exact placed_nothing _ i fun _ => rfl
  | cons f rest ih =>
    rw [placeMembers, run_bind] at ended
    rcases one : (placeMember i isUnion t f).run c with ⟨result₁, c₁⟩
    have first := placeMember_placed inside one
    rw [one] at ended
    cases result₁ with
    | error fault =>
      cases ended
      refine first.trans (placed_nothing _ i ?_) ?_
      · rintro ⟨_, finished⟩
        cases finished
      · rintro ⟨_, finished⟩
        cases finished
    | ok t' => exact first.trans (ih (first.length_eq ▸ inside) ended) fun _ => ⟨t', rfl⟩

/-- The class with the field list that it is given. -/
def withFields (fields : List (Field NativeType)) (anonymous : List String) (r : RecordClass) : RecordClass :=
  { r with fields := some fields, anonymous := if anonymous.isEmpty then r.anonymous else anonymous }

def withLayout (size : Nat) (t : Totals) (fields : List (Field NativeType)) (r : RecordClass) : RecordClass :=
  { r with size, align := t.align, length := fields.length }

def asFinal (r : RecordClass) : RecordClass := { r with isFinal := true }

def asFailed (r : RecordClass) : RecordClass := { r with failed := true }

/-- How far a class gets with its field list: the list is refused at once, while its members are placed, since the class
would hold itself, since a member has the place of its nameless ones, or while members are handed up, or it is
accepted. -/
inductive LaidOut (i : Nat) (fields : List (Field NativeType)) (c : Classes) : Except ClassFault Unit → Classes → Prop
  | refused {fault : ClassFault} (final : (c.record i).isFinal = true) : LaidOut i fields c (.error fault) c
  | unplaced {isUnion : Bool} {fault : ClassFault} {c₁ : Classes} (unmarked : (c.record i).isFinal = false)
    (placing : (placeMembers i isUnion {} fields).run c = (.error fault, c₁)) : LaidOut i fields c (.error fault) c₁
  | endless {isUnion : Bool} {t : Totals} {size : Nat} {fault : ClassFault} {c₁ : Classes}
    (unmarked : (c.record i).isFinal = false) (placing : (placeMembers i isUnion {} fields).run c = (.ok t, c₁))
    (marked : ((c₁.update i (withLayout size t fields)).record i).isFinal = true) :
    LaidOut i fields c (.error fault) (c₁.update i (withLayout size t fields))
  | shadowed {isUnion : Bool} {t : Totals} {size : Nat} {fault : ClassFault} {c₁ : Classes}
    (unmarked : (c.record i).isFinal = false) (placing : (placeMembers i isUnion {} fields).run c = (.ok t, c₁)) :
    LaidOut i fields c (.error fault) ((c₁.update i (withLayout size t fields)).update i asFinal)
  | handedUp {isUnion : Bool} {t : Totals} {size : Nat} {c₁ c₂ : Classes} {result : Except ClassFault Unit}
    (unmarked : (c.record i).isFinal = false) (placing : (placeMembers i isUnion {} fields).run c = (.ok t, c₁))
    (still : ((c₁.update i (withLayout size t fields)).record i).isFinal = false)
    (promoting : (promoteAll i (((c₁.update i (withLayout size t fields)).update i asFinal).record i).anonymous).run
      ((c₁.update i (withLayout size t fields)).update i asFinal) = (result, c₂)) : LaidOut i fields c result c₂

theorem layOut_laidOut {result : Except ClassFault Unit} (ended : (layOut i fields).run c = (result, c')) :
    LaidOut i fields c result c' := by
  unfold layOut at ended
  rw [run_bind, run_get] at ended
  dsimp only at ended
  split at ended
  · rename_i final
    cases ended
    exact .refused final
  · rename_i unmarked
    have unmarked : (c.record i).isFinal = false := Bool.eq_false_iff.mpr unmarked
    rw [run_bind] at ended
    rcases placing : (placeMembers i (c.record i).isUnion {} fields).run c with ⟨outcome, c₁⟩
    rw [placing] at ended
    cases outcome with
    | error fault =>
      cases ended
      exact .unplaced unmarked placing
    | ok t =>
      dsimp only at ended
      generalize roundUp (if (c.record i).isUnion = true then t.largest else t.stop.offset) t.align = size at ended
      have laid : (modify fun c => c.update i fun r => { r with size, align := t.align, length := fields.length } :
        ClassWork PUnit).run c₁ = (.ok ⟨⟩, c₁.update i (withLayout size t fields)) := rfl
      rw [run_bind, laid] at ended
      dsimp only at ended
      rw [run_bind, run_get] at ended
      dsimp only at ended
      split at ended
      · rename_i marked
        cases ended
        exact .endless unmarked placing marked
      · rename_i still
        have final : (modify fun c => c.update i fun r => { r with isFinal := true } : ClassWork PUnit).run
            (c₁.update i (withLayout size t fields)) =
          (.ok ⟨⟩, (c₁.update i (withLayout size t fields)).update i asFinal) := rfl
        rw [run_bind, final] at ended
        dsimp only at ended
        split at ended
        · cases ended
          exact .shadowed unmarked placing
        · exact .handedUp unmarked placing (Bool.eq_false_iff.mpr still) ended

end ClassWork

end CBindings
