import CBindings.Proofs.Native.Placing

/-! Tables of classes as they are built: a class gets its members once, its members are final from then on, and so no
class holds another one that holds it. -/
namespace CBindings

open Outcome Classes

namespace Classes

variable {c c' : Classes} {i j : Nat} {t : NativeType}

/-- The class `i` has the type `t` in it: as one of its slots, or as a member that it has laid out. -/
def HasPart (c : Classes) (i : Nat) (t : NativeType) : Prop :=
  (∃ n s, (c.record i).slots.lookup n = some s ∧ s.type = t) ∨
    ∃ fields, (c.record i).fields = some fields ∧ (c.record i).length = fields.length ∧ ∃ f ∈ fields, f.type = t

theorem hasPart_congr (same : (c'.record i).body = (c.record i).body) : c'.HasPart i t ↔ c.HasPart i t := by
  obtain ⟨fields, -, slots, length, -⟩ := RecordClass.body_eq_iff.mp same
  rw [HasPart, HasPart, fields, slots, length]

/-- What is known of a class of a table, whatever became of its field list. -/
structure SoundAt (c : Classes) (i : Nat) : Prop where
  blank : (c.record i).fields = none →
    (c.record i).slots = [] ∧ (c.record i).length = 0 ∧ (c.record i).anonymous = []
  final : ∀ k, c.HasPart i (.record k) → (c.record k).isFinal = true
  nameless : ∀ n s, (c.record i).slots.lookup n = some s → s.anonymous = true → s.type ≠ .record i
  counted : ∀ fields, (c.record i).fields = some fields →
    (c.record i).length = fields.length ∨ (c.record i).length = 0 ∧ (c.record i).failed = true
  own : ∀ fields, (c.record i).fields = some fields → (c.record i).length = fields.length → c.WellNamed i →
    ∀ f ∈ fields, ∃ s, (c.record i).slots.lookup f.name = some s ∧ s.type = f.type
  offers : ∀ fields, (c.record i).fields = some fields → (c.record i).failed = false → c.WellNamed i →
    ∀ n, ((c.record i).slots.lookup n).isSome ↔
      (∃ f ∈ fields, f.name = n) ∨ ∃ f ∈ fields, f.name ∈ (c.record i).anonymous ∧ ∃ u, c.Exposes f.type n u

/-- A table in which no class holds another one that holds it. -/
structure Sound (c : Classes) : Prop where
  classes : ∀ i, c.SoundAt i
  ranked : ∃ rank : Nat → Nat, ∀ i k, c.HasPart i (.record k) → k = i ∨ rank k < rank i

theorem SoundAt.accepted {fields : List (Field NativeType)} (sound : c.SoundAt i)
    (given : (c.record i).fields = some fields) (unfailed : (c.record i).failed = false) :
    (c.record i).length = fields.length := by
  rcases sound.counted fields given with whole | ⟨-, failed⟩
  · exact whole
  · cases unfailed.symm.trans failed

theorem lt_of_isFinal (final : (c.record i).isFinal = true) : i < c.records.length := by
  by_contra outside
  simp [record, List.getElem?_eq_none (Nat.le_of_not_lt outside)] at final

theorem WellNamed.congr (wellNamed : c'.WellNamed i) (same : (c'.record i).body = (c.record i).body)
    (exposed : ∀ f ∈ (c.record i).fields.getD [], ∀ n u, c.Exposes f.type n u → c'.Exposes f.type n u) :
    c.WellNamed i := by
  obtain ⟨fields, anonymous, -⟩ := RecordClass.body_eq_iff.mp same
  obtain ⟨distinct, listed, apart⟩ := wellNamed
  rw [fields] at distinct listed apart
  rw [anonymous] at listed apart
  exact ⟨distinct, listed, fun f inside nameless n u exposes =>
    apart f inside nameless n u (exposed f inside n u exposes)⟩

theorem SoundAt.congr (sound : c.SoundAt i) (same : (c'.record i).body = (c.record i).body)
    (final : ∀ k, (c.record k).isFinal = true → (c'.record k).isFinal = true)
    (exposed : ∀ t, c.HasPart i t → ∀ n u, c.Exposes t n u ↔ c'.Exposes t n u) : c'.SoundAt i := by
  obtain ⟨fields, anonymous, slots, length, failed⟩ := RecordClass.body_eq_iff.mp same
  have known (given : List (Field NativeType)) (found : (c.record i).fields = some given)
      (whole : (c.record i).length = given.length) (wellNamed : c'.WellNamed i) : c.WellNamed i := by
    refine wellNamed.congr same fun f inside n u => (exposed f.type (.inr ⟨given, found, whole, f, ?_, rfl⟩) n u).mp
    rw [found] at inside
    exact inside
  constructor
  · rw [fields, slots, length, anonymous]
    exact sound.blank
  · exact fun k part => final k (sound.final k ((hasPart_congr same).mp part))
  · rw [slots]
    exact sound.nameless
  · rw [fields, length, failed]
    exact sound.counted
  · intro given found whole wellNamed
    rw [fields] at found
    rw [length] at whole
    rw [slots]
    exact sound.own given found whole (known given found whole wellNamed)
  · intro given found accepted wellNamed n
    rw [fields] at found
    rw [failed] at accepted
    have whole := sound.accepted found accepted
    rw [slots, anonymous, sound.offers given found accepted (known given found whole wellNamed) n]
    refine or_congr_right (exists_congr fun f => and_congr_right fun inside => and_congr_right fun _ => ?_)
    exact exists_congr fun u => exposed f.type (.inr ⟨given, found, whole, f, inside, rfl⟩) n u

/- Marks say nothing of the members of a class. -/
theorem Sound.marked (sound : Sound c) (same : ∀ j, (c'.record j).body = (c.record j).body)
    (final : ∀ k, (c.record k).isFinal = true → (c'.record k).isFinal = true) : Sound c' := by
  have equal (j : Nat) := RecordClass.fields_slots_of_body (same j)
  have outside (c : Classes) : (c.record c.records.length).slots = [] := by
    simp [record]
  refine ⟨fun i => (sound.classes i).congr (same i) final fun t _ n u => ⟨fun exposes => ?_, fun exposes => ?_⟩, ?_⟩
  · exact exposes.congr (fun j _ => equal j) (.inl (outside c))
  · exact exposes.congr (fun j _ => ⟨(equal j).1.symm, (equal j).2.symm⟩) (.inl (outside c'))
  · obtain ⟨rank, ranked⟩ := sound.ranked
    exact ⟨rank, fun i k part => ranked i k ((hasPart_congr (same i)).mp part)⟩

theorem sound_empty : Sound {} := by
  have unheld (i : Nat) (t : NativeType) : ¬ HasPart {} i t := by
    rintro (⟨n, s, slot, -⟩ | ⟨fields, given, -⟩)
    · cases slot
    · cases given
  refine ⟨fun i => ?_, fun _ => 0, fun i k part => absurd part (unheld i _)⟩
  constructor
  · exact fun _ => ⟨rfl, rfl, rfl⟩
  · exact fun k part => absurd part (unheld i _)
  · intro n s slot
    cases slot
  · intro fields given
    cases given
  · intro fields given
    cases given
  · intro fields given
    cases given

theorem Sound.unheld (sound : Sound c) (early : (c.record i).isFinal = false) (j : Nat) :
    ¬ c.HasPart j (.record i) := by
  intro part
  cases early.symm.trans ((sound.classes j).final i part)

/- A class that gets its field list is above all others from then on, since none of them has it in it. -/
theorem Sound.ranked_filled (sound : Sound c) (others : ∀ j ≠ i, (c'.record j).body = (c.record j).body)
    (early : (c.record i).isFinal = false) (final : ∀ k, c'.HasPart i (.record k) → (c'.record k).isFinal = true) :
    ∃ rank : Nat → Nat, ∀ j k, c'.HasPart j (.record k) → k = j ∨ rank k < rank j := by
  obtain ⟨rank, ranked⟩ := sound.ranked
  let top : Nat := ∑ k ∈ Finset.range c'.records.length, rank k
  refine ⟨fun j => if j = i then top + 1 else rank j, fun j k part => ?_⟩
  by_cases same : k = j
  · exact .inl same
  · right
    dsimp only
    by_cases other : j = i
    · have inside : k < c'.records.length := lt_of_isFinal (final k (other ▸ part))
      have below : rank k ≤ top := Finset.single_le_sum (fun _ _ => Nat.zero_le _) (Finset.mem_range.mpr inside)
      rw [if_pos other, if_neg (other ▸ same)]
      omega
    · have earlier := (hasPart_congr (others j other)).mp part
      have apart : k ≠ i := by
        rintro rfl
        exact sound.unheld early j earlier
      rw [if_neg other, if_neg apart]
      exact (ranked j k earlier).resolve_left same

/- Only a field list that is refused at once may come too late, when others have the class in them already. -/
theorem Sound.filled (sound : Sound c) (unfilled : (c.record i).fields = none)
    (others : ∀ j ≠ i, (c'.record j).body = (c.record j).body)
    (final : ∀ k, (c.record k).isFinal = true → (c'.record k).isFinal = true)
    (late : (c.record i).isFinal = true → (c'.record i).slots = [] ∧ ∀ t, ¬ c'.HasPart i t)
    (filled : c'.SoundAt i) : Sound c' := by
  have equal (j : Nat) (other : j ≠ i) := RecordClass.fields_slots_of_body (others j other)
  have avoided (j : Nat) (t : NativeType) (part : c.HasPart j t) : (c'.record i).slots = [] ∨
      t ≠ .record i ∧ ∀ j ≠ i, ∀ n s, (c'.record j).slots.lookup n = some s → s.type ≠ .record i := by
    cases marked : (c.record i).isFinal with
    | true => exact .inl (late marked).1
    | false =>
      refine .inr ⟨?_, fun j other n s slot same => ?_⟩
      · rintro rfl
        exact sound.unheld marked j part
      · rw [(equal j other).2] at slot
        exact sound.unheld marked j (.inl ⟨n, s, slot, same⟩)
  refine ⟨fun j => ?_, ?_⟩
  · by_cases other : j = i
    · rw [other]
      exact filled
    · refine (sound.classes j).congr (others j other) final fun t part n u => ⟨fun exposes => ?_, fun exposes => ?_⟩
      · exact exposes.congr equal (.inl ((sound.classes i).blank unfilled).1)
      · refine exposes.congr (fun j other => ?_) (avoided j t part)
        exact ⟨(equal j other).1.symm, (equal j other).2.symm⟩
  · cases marked : (c.record i).isFinal with
    | true =>
      obtain ⟨rank, ranked⟩ := sound.ranked
      refine ⟨rank, fun j k part => ?_⟩
      by_cases other : j = i
      · exact absurd part (other ▸ (late marked).2 _)
      · exact ranked j k ((hasPart_congr (others j other)).mp part)
    | false => exact sound.ranked_filled others marked filled.final

end Classes

namespace ClassWork

variable {i : Nat} {fields : List (Field NativeType)} {done : Prop} {c c₁ c' : Classes}

/- A list that is refused leaves what was placed of it, with each class marked. -/
theorem Placed.soundAt (placed : Placed i fields done c c₁) (start : (c.record i).slots = [])
    (known : ∀ f ∈ fields, ∀ k, f.type = .record k → k < c.records.length)
    (given : (c'.record i).fields = some fields) (slots : (c'.record i).slots = (c₁.record i).slots)
    (final : ∀ k, (c₁.record k).isFinal = true → (c'.record k).isFinal = true)
    (failed : (c'.record i).failed = true)
    (counted : (c'.record i).length = fields.length ∧ done ∨ (c'.record i).length = 0) : c'.SoundAt i := by
  have finished (whole : (c'.record i).length = fields.length) : fields = [] ∨ done := by
    rcases counted with ⟨-, finished⟩ | none
    · exact .inr finished
    · exact .inl (List.length_eq_zero_iff.mp (whole.symm.trans none))
  have new (n : String) (s : Slot) (slot : (c'.record i).slots.lookup n = some s) :
      s.anonymous = false ∧ (∃ f ∈ fields, f.name = n ∧ s.type = f.type) ∧
        ∀ k, s.type = .record k → k < c.records.length → (c₁.record k).isFinal = true := by
    rw [slots] at slot
    refine (placed.new n s slot).resolve_left fun earlier => ?_
    rw [start] at earlier
    cases earlier
  constructor
  · intro ungiven
    cases given.symm.trans ungiven
  · intro k part
    rcases part with ⟨n, s, slot, typed⟩ | ⟨fields', given', whole, f, inside, typed⟩
    · obtain ⟨-, ⟨f, inside, -, same⟩, marked⟩ := new n s slot
      exact final k (marked k typed (known f inside k (same.symm.trans typed)))
    · cases given.symm.trans given'
      rcases finished whole with rfl | finished
      · cases inside
      · exact final k ((placed.all finished f inside).2 k typed (known f inside k typed))
  · intro n s slot nameless
    cases (new n s slot).1.symm.trans nameless
  · intro fields' given'
    cases given.symm.trans given'
    exact counted.imp And.left fun none => ⟨none, failed⟩
  · intro fields' given' whole wellNamed f inside
    cases given.symm.trans given'
    rcases finished whole with rfl | finished
    · cases inside
    · obtain ⟨s, slot⟩ := Option.isSome_iff_exists.mp (placed.all finished f inside).1
      rw [← slots] at slot
      obtain ⟨-, ⟨g, member, same, typed⟩, -⟩ := new f.name s slot
      have distinct := wellNamed.distinct
      rw [given] at distinct
      rw [List.inj_on_of_nodup_map distinct member inside same] at typed
      exact ⟨s, slot, typed⟩
  · intro _ _ accepted
    cases failed.symm.trans accepted

/-- A class whose members are all placed, in a table that was sound before. -/
structure Filled (c : Classes) (i : Nat) (fields : List (Field NativeType)) (c' : Classes) : Prop where
  inside : i < c'.records.length
  others : ∀ j ≠ i, (c'.record j).body = (c.record j).body
  final : ∀ k, (c.record k).isFinal = true → (c'.record k).isFinal = true
  given : (c'.record i).fields = some fields
  whole : (c'.record i).length = fields.length
  placed : ∀ n s, (c'.record i).slots.lookup n = some s →
    s.anonymous = false ∧ ∃ f ∈ fields, f.name = n ∧ s.type = f.type
  all : ∀ f ∈ fields, ((c'.record i).slots.lookup f.name).isSome
  apart : ∀ f ∈ fields, f.type ≠ .record i
  marked : ∀ f ∈ fields, ∀ k, f.type = .record k → (c'.record k).isFinal = true

section HandedUp

variable {c₂ : Classes} {result : Except ClassFault Unit} (sound : Sound c) (unmarked : (c.record i).isFinal = false)
  (filled : Filled c i fields c₁)

include sound unmarked filled

theorem Filled.towards : ∃ rank, Towards c₁ i rank := by
  have earlier {j : Nat} (other : j ≠ i) {n : String} {s : Slot} (slot : (c₁.record j).slots.lookup n = some s) :
      (c.record j).slots.lookup n = some s := by
    rw [← (RecordClass.fields_slots_of_body (filled.others j other)).2]
    exact slot
  obtain ⟨rank, ranked⟩ := sound.ranked
  refine ⟨rank, filled.inside, fun j other n s slot same => ?_, fun j other n s k slot nameless typed => ?_⟩
  · exact sound.unheld unmarked j (.inl ⟨n, s, earlier other slot, same⟩)
  · refine (ranked j k (.inl ⟨n, s, earlier other slot, typed⟩)).resolve_left fun same => ?_
    exact (sound.classes j).nameless n s (earlier other slot) nameless (same ▸ typed)

/-- A type that a slot may have: the class itself apart, classes are final. -/
def Taking (c : Classes) (i : Nat) (t : NativeType) : Prop :=
  t ≠ .record i ∧ ∀ k, t = .record k → (c.record k).isFinal = true

theorem Filled.taking {t : NativeType} {n : String} {u : NativeType} (start : Taking c₁ i t)
    (exposes : c₁.Exposes t n u) : Taking c₁ i u := by
  obtain ⟨rank, towards⟩ := filled.towards sound unmarked
  have next {j : Nat} {n : String} {s : Slot} (start : Taking c₁ i (.record j))
      (slot : (c₁.record j).slots.lookup n = some s) : Taking c₁ i s.type := by
    have other : j ≠ i := fun same => start.1 (same ▸ rfl)
    refine ⟨towards.avoids j other n s slot, fun k typed => filled.final k ?_⟩
    rw [(RecordClass.fields_slots_of_body (filled.others j other)).2] at slot
    exact (sound.classes j).final k (.inl ⟨n, s, slot, typed⟩)
  induction exposes with
  | member given inside slot named => exact next start slot
  | nested given inside slot nameless inner ih => exact ih (next start slot)

theorem Filled.promoted {names : List String} (ended : (promoteAll i names).run c₁ = (result, c₂)) :
    Reslotted i c₁ c₂ ∧ ∀ n s, (c₂.record i).slots.lookup n = some s → Taking c₁ i s.type := by
  obtain ⟨rank, towards⟩ := filled.towards sound unmarked
  refine promoteAll_types towards (fun _ taking => taking.1)
    (fun _ _ _ start exposes => filled.taking sound unmarked start exposes) (Reslotted.refl i c₁) ?_ ended
  intro n s slot
  obtain ⟨-, f, inside, -, typed⟩ := filled.placed n s slot
  rw [typed]
  exact ⟨filled.apart f inside, filled.marked f inside⟩

/- What the members expose does not depend on the class that is filled. -/
theorem Filled.exposes_iff (same : ∀ j ≠ i, c'.record j = c₁.record j) {f : Field NativeType} (inside : f ∈ fields)
    (n : String) (u : NativeType) : c'.Exposes f.type n u ↔ c₁.Exposes f.type n u := by
  obtain ⟨rank, towards⟩ := filled.towards sound unmarked
  constructor
  · refine fun exposes => exposes.congr (fun j other => ?_) (.inr ⟨filled.apart f inside, fun j other n s slot => ?_⟩)
    · rw [same j other]
      exact ⟨rfl, rfl⟩
    · rw [same j other] at slot
      exact towards.avoids j other n s slot
  · refine fun exposes => exposes.congr (fun j other => ?_) (.inr ⟨filled.apart f inside, towards.avoids⟩)
    rw [same j other]
    exact ⟨rfl, rfl⟩

theorem Filled.handedUp (ended : (promoteAll i (c₁.record i).anonymous).run c₁ = (result, c₂))
    (same : ∀ j ≠ i, c'.record j = c₁.record j) (given : (c'.record i).fields = some fields)
    (anonymous : (c'.record i).anonymous = (c₁.record i).anonymous) (wellNamed : c'.WellNamed i) :
    HandedUp c₁ i fields (c₁.record i).anonymous (result = .ok ()) c₁ c₂ := by
  obtain ⟨rank, towards⟩ := filled.towards sound unmarked
  obtain ⟨distinct, listed, apart⟩ := wellNamed
  rw [given] at distinct listed apart
  rw [anonymous] at listed apart
  refine promoteAll_handedUp towards filled.apart distinct listed (fun f inside nameless n u exposes => ?_)
    (Reslotted.refl i c₁) (fun f inside => ?_) ended
  · exact apart f inside nameless n u ((filled.exposes_iff sound unmarked same inside n u).mpr exposes)
  · obtain ⟨s, slot⟩ := Option.isSome_iff_exists.mp (filled.all f inside)
    obtain ⟨-, g, member, same, typed⟩ := filled.placed f.name s slot
    rw [List.inj_on_of_nodup_map distinct member inside same] at typed
    exact ⟨s, slot, typed⟩

theorem Filled.soundAt (ended : (promoteAll i (c₁.record i).anonymous).run c₁ = (result, c₂))
    (others : ∀ j ≠ i, c'.record j = c₂.record j) (own : ∃ failed, c'.record i = { c₂.record i with failed })
    (accepted : (c'.record i).failed = false → result = .ok ()) : c'.SoundAt i := by
  obtain ⟨reslotted, typed⟩ := filled.promoted sound unmarked ended
  obtain ⟨failed, own⟩ := own
  have same (j : Nat) (other : j ≠ i) : c'.record j = c₁.record j :=
    (others j other).trans (reslotted.others j other)
  have given : (c'.record i).fields = some fields := by
    rw [own, reslotted.own]
    exact filled.given
  have anonymous : (c'.record i).anonymous = (c₁.record i).anonymous := by
    rw [own, reslotted.own]
  have slots : (c'.record i).slots = (c₂.record i).slots := by
    rw [own]
  have whole : (c'.record i).length = fields.length := by
    rw [own, reslotted.own]
    exact filled.whole
  have final (k : Nat) : (c'.record k).isFinal = (c₁.record k).isFinal := by
    by_cases other : k = i
    · rw [other, own, reslotted.own]
    · rw [same k other]
  have handed := filled.handedUp sound unmarked ended same given anonymous
  constructor
  · intro ungiven
    cases given.symm.trans ungiven
  · intro k part
    rw [final]
    rcases part with ⟨n, s, slot, same⟩ | ⟨fields', given', -, f, inside, same⟩
    · rw [slots] at slot
      exact (typed n s slot).2 k same
    · cases given.symm.trans given'
      exact filled.marked f inside k same
  · intro n s slot _
    rw [slots] at slot
    exact (typed n s slot).1
  · intro fields' given'
    cases given.symm.trans given'
    exact .inl whole
  · intro fields' given' _ wellNamed
    cases given.symm.trans given'
    rw [slots]
    exact (handed wellNamed).own
  · intro fields' given' unfailed wellNamed n
    cases given.symm.trans given'
    have exposes_iff {f : Field NativeType} (inside : f ∈ fields) := filled.exposes_iff sound unmarked same inside n
    rw [slots, anonymous]
    constructor
    · intro found
      rcases (handed wellNamed).new n found with placed | ⟨f, inside, nameless, u, exposes⟩
      · obtain ⟨s, slot⟩ := Option.isSome_iff_exists.mp placed
        obtain ⟨-, f, inside, same, -⟩ := filled.placed n s slot
        exact .inl ⟨f, inside, same⟩
      · exact .inr ⟨f, inside, nameless, u, (exposes_iff inside u).mpr exposes⟩
    · rintro (⟨f, inside, rfl⟩ | ⟨f, inside, nameless, u, exposes⟩)
      · exact (handed wellNamed).kept f.name (filled.all f inside)
      · exact (handed wellNamed).all (accepted unfailed) f inside nameless n u ((exposes_iff inside u).mp exposes)

end HandedUp

theorem setFields_laidOut {anonymous : List String} {result : Except ClassFault Unit}
    (ended : (setFields i fields anonymous).run c = (result, c')) :
    ∃ c₁, LaidOut i fields (c.update i (withFields fields anonymous)) result c₁ ∧
      (result = .ok () → c' = c₁) ∧ (∀ f, result = .error f → c' = c₁.update i asFailed) := by
  have start : (setFields i fields anonymous).run c =
      (tryCatch (layOut i fields) fun f => do
        modify fun c => c.update i asFailed
        throw f : ClassWork Unit).run (c.update i (withFields fields anonymous)) := rfl
  rw [start, run_tryCatch] at ended
  rcases tried : (layOut i fields).run (c.update i (withFields fields anonymous)) with ⟨outcome, c₁⟩
  rw [tried] at ended
  refine ⟨c₁, ?_⟩
  cases outcome with
  | ok _ =>
    cases ended
    refine ⟨layOut_laidOut tried, fun _ => rfl, fun _ failed => ?_⟩
    cases failed
  | error f =>
    cases ended
    refine ⟨layOut_laidOut tried, fun accepted => ?_, fun _ _ => rfl⟩
    cases accepted

section Given

variable {anonymous : List String} {c₀ : Classes}

/-- A class of a sound table that has just been given its field list, before any of its members is placed. -/
structure Given (c : Classes) (i : Nat) (fields : List (Field NativeType)) (c₀ : Classes) : Prop where
  sound : Sound c
  unfilled : (c.record i).fields = none
  inside : i < c₀.records.length
  others : ∀ j ≠ i, c₀.record j = c.record j
  final : ∀ j, (c₀.record j).isFinal = (c.record j).isFinal
  given : (c₀.record i).fields = some fields
  slots : (c₀.record i).slots = []
  length : (c₀.record i).length = 0
  known : ∀ f ∈ fields, ∀ k, f.type = .record k → k < c₀.records.length

theorem given_withFields (sound : Sound c) (inside : i < c.records.length) (unfilled : (c.record i).fields = none)
    (known : ∀ f ∈ fields, ∀ k, f.type = .record k → k < c.records.length) :
    Given c i fields (c.update i (withFields fields anonymous)) := by
  obtain ⟨slots, length, -⟩ := (sound.classes i).blank unfilled
  have longer := length_update c i (withFields fields anonymous)
  have own := record_update_self (withFields fields anonymous) inside
  have others := record_update_ne c (i := i) (withFields fields anonymous)
  refine ⟨sound, unfilled, longer.symm ▸ inside, others, fun j => ?_, ?_, ?_, ?_, longer.symm ▸ known⟩
  · by_cases same : j = i
    · rw [same, own]
      rfl
    · rw [others j same]
  · rw [own]
    rfl
  · rw [own]
    exact slots
  · rw [own]
    exact length

theorem Given.refused (start : Given c i fields c₀) (placed : Placed i fields done c₀ c₁)
    (late : (c.record i).isFinal = true → (c₁.record i).slots = [] ∧ ¬ done)
    (others : ∀ j ≠ i, c'.record j = c₁.record j)
    (own : ∃ size align length isFinal,
      c'.record i = { c₁.record i with size, align, length, isFinal, failed := true } ∧
        ((c₁.record i).isFinal = true → isFinal = true) ∧ (length = fields.length ∧ done ∨ length = 0)) :
    Sound c' := by
  obtain ⟨size, align, length, isFinal, own, marks, counted⟩ := own
  have given : (c'.record i).fields = some fields := by
    rw [own, placed.own]
    exact start.given
  have slots : (c'.record i).slots = (c₁.record i).slots := by
    rw [own]
  have counted : (c'.record i).length = fields.length ∧ done ∨ (c'.record i).length = 0 := by
    rw [own]
    exact counted
  have final (k : Nat) (marked : (c₁.record k).isFinal = true) : (c'.record k).isFinal = true := by
    by_cases same : k = i
    · rw [same] at marked ⊢
      rw [own]
      exact marks marked
    · rw [others k same]
      exact marked
  refine start.sound.filled start.unfilled (fun j other => ?_) (fun k marked => ?_) (fun marked => ?_) ?_
  · rw [others j other, placed.others j other, start.others j other]
  · exact final k (placed.final k ((start.final k).trans marked))
  · obtain ⟨empty, unfinished⟩ := late marked
    refine ⟨slots.trans empty, fun t part => ?_⟩
    rcases part with ⟨n, s, slot, -⟩ | ⟨fields', given', whole, f, inside, -⟩
    · rw [slots, empty] at slot
      cases slot
    · cases given.symm.trans given'
      rcases counted with ⟨-, finished⟩ | none
      · exact unfinished finished
      · rw [List.length_eq_zero_iff.mp (whole.symm.trans none)] at inside
        cases inside
  · refine placed.soundAt start.slots start.known given slots final ?_ counted
    rw [own]

theorem Given.filled {size : Nat} {t : Totals} (start : Given c i fields c₀) (placed : Placed i fields done c₀ c₁)
    (finished : done) (still : ((c₁.update i (withLayout size t fields)).record i).isFinal = false) :
    Filled c i fields ((c₁.update i (withLayout size t fields)).update i asFinal) := by
  have inside₁ : i < c₁.records.length := placed.length_eq ▸ start.inside
  have inside₂ : i < (c₁.update i (withLayout size t fields)).records.length := (length_update _ _ _).symm ▸ inside₁
  have own : ((c₁.update i (withLayout size t fields)).update i asFinal).record i =
      asFinal (withLayout size t fields (c₁.record i)) := by
    rw [record_update_self _ inside₂, record_update_self _ inside₁]
  have others (j : Nat) (other : j ≠ i) :
      ((c₁.update i (withLayout size t fields)).update i asFinal).record j = c₁.record j := by
    rw [record_update_ne _ _ j other, record_update_ne _ _ j other]
  rw [record_update_self _ inside₁] at still
  have final (k : Nat) (marked : (c₁.record k).isFinal = true) :
      (((c₁.update i (withLayout size t fields)).update i asFinal).record k).isFinal = true := by
    by_cases same : k = i
    · rw [same, own]
      rfl
    · rw [others k same]
      exact marked
  constructor
  · rw [length_update]
    exact inside₂
  · intro j other
    rw [others j other, placed.others j other, start.others j other]
  · exact fun k marked => final k (placed.final k ((start.final k).trans marked))
  · rw [own, placed.own]
    exact start.given
  · rw [own]
    rfl
  · intro n s slot
    rw [own] at slot
    obtain ⟨named, found, -⟩ := (placed.new n s slot).resolve_left fun earlier => by
      rw [start.slots] at earlier
      cases earlier
    exact ⟨named, found⟩
  · intro f inside
    rw [own]
    exact (placed.all finished f inside).1
  · intro f inside same
    cases still.symm.trans ((placed.all finished f inside).2 i same start.inside)
  · intro f inside k typed
    exact final k ((placed.all finished f inside).2 k typed (start.known f inside k typed))

theorem Given.accepted {c₂ : Classes} {result : Except ClassFault Unit} (start : Given c i fields c₀)
    (early : (c.record i).isFinal = false) (filled : Filled c i fields c₁)
    (promoting : (promoteAll i (c₁.record i).anonymous).run c₁ = (result, c₂))
    (left : (∀ j ≠ i, c'.record j = c₂.record j) ∧ (∃ failed, c'.record i = { c₂.record i with failed }) ∧
      ((c'.record i).failed = false → result = .ok ())) : Sound c' := by
  obtain ⟨others, own, accepted⟩ := left
  obtain ⟨reslotted, -⟩ := filled.promoted start.sound early promoting
  refine start.sound.filled start.unfilled (fun j other => ?_) (fun k marked => ?_) (fun marked => ?_)
    (filled.soundAt start.sound early promoting others own accepted)
  · rw [others j other, reslotted.others j other, filled.others j other]
  · have marked := filled.final k marked
    by_cases same : k = i
    · obtain ⟨failed, own⟩ := own
      rw [same] at marked ⊢
      rw [own, reslotted.own]
      exact marked
    · rw [others k same, reslotted.others k same]
      exact marked
  · cases early.symm.trans marked

end Given

theorem setFields_sound {anonymous : List String} {result : Except ClassFault Unit} (sound : Sound c)
    (inside : i < c.records.length) (unfilled : (c.record i).fields = none)
    (known : ∀ f ∈ fields, ∀ k, f.type = .record k → k < c.records.length)
    (ended : (setFields i fields anonymous).run c = (result, c')) : Sound c' := by
  obtain ⟨c₂, laid, accepted, failed⟩ := setFields_laidOut ended
  have start : Given c i fields (c.update i (withFields fields anonymous)) :=
    given_withFields sound inside unfilled known
  generalize c.update i (withFields fields anonymous) = c₀ at laid start
  cases laid with
  | refused final =>
    obtain rfl := failed _ rfl
    have placed : Placed i fields False c₂ c₂ := placed_nothing c₂ i False.elim
    refine start.refused placed (fun _ => ⟨start.slots, id⟩) (record_update_ne c₂ asFailed) ?_
    exact ⟨_, _, _, _, record_update_self asFailed start.inside, id, .inr start.length⟩
  | unplaced unmarked placing =>
    obtain rfl := failed _ rfl
    have placed := placeMembers_placed start.inside placing
    have inside₂ := placed.length_eq ▸ start.inside
    refine start.refused placed (fun marked => ?_) (record_update_ne c₂ asFailed) ?_
    · cases unmarked.symm.trans ((start.final i).trans marked)
    · refine ⟨_, _, _, _, record_update_self asFailed inside₂, id, .inr ?_⟩
      rw [placed.own]
      exact start.length
  | @endless isUnion t size fault c₁ unmarked placing marked =>
    obtain rfl := failed _ rfl
    have placed := placeMembers_placed start.inside placing
    have inside₁ := placed.length_eq ▸ start.inside
    refine start.refused placed (fun marked => ?_) (fun j other => ?_) ?_
    · cases unmarked.symm.trans ((start.final i).trans marked)
    · rw [record_update_ne _ _ j other, record_update_ne _ _ j other]
    · refine ⟨size, t.align, fields.length, (c₁.record i).isFinal, ?_, id, .inl ⟨rfl, t, rfl⟩⟩
      rw [record_update_self _ (by simpa using inside₁), record_update_self _ inside₁]
      rfl
  | @shadowed isUnion t size fault c₁ unmarked placing =>
    obtain rfl := failed _ rfl
    have placed := placeMembers_placed start.inside placing
    have inside₁ := placed.length_eq ▸ start.inside
    refine start.refused placed (fun marked => ?_) (fun j other => ?_) ?_
    · cases unmarked.symm.trans ((start.final i).trans marked)
    · rw [record_update_ne _ _ j other, record_update_ne _ _ j other, record_update_ne _ _ j other]
    · refine ⟨size, t.align, fields.length, true, ?_, fun _ => rfl, .inl ⟨rfl, t, rfl⟩⟩
      rw [record_update_self _ (by simpa using inside₁), record_update_self _ (by simpa using inside₁),
        record_update_self _ inside₁]
      rfl
  | @handedUp isUnion t size c₁ _ _ unmarked placing still promoting =>
    have placed := placeMembers_placed start.inside placing
    have filled := start.filled placed ⟨t, rfl⟩ still
    have early : (c.record i).isFinal = false := (start.final i).symm.trans unmarked
    refine start.accepted early filled promoting ?_
    cases result with
    | ok _ =>
      obtain rfl := accepted rfl
      exact ⟨fun _ _ => rfl, ⟨_, rfl⟩, fun _ => rfl⟩
    | error fault =>
      obtain rfl := failed fault rfl
      have inside₂ : i < c₂.records.length := by
        rw [(filled.promoted sound early promoting).1.length_eq]
        exact filled.inside
      refine ⟨record_update_ne c₂ asFailed, ⟨true, record_update_self asFailed inside₂⟩, fun unfailed => ?_⟩
      rw [record_update_self asFailed inside₂] at unfailed
      cases unfailed

end ClassWork

end CBindings
