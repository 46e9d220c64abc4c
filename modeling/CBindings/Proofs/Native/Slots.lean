import CBindings.Proofs.Native.FieldLists
import Mathlib.Algebra.Order.BigOperators.Group.Finset

/-! The slots of a class that is laid out: one for each of its members, and one for each member that a nested record
without a name hands up to it. -/
namespace CBindings

open Outcome

/-- All that is known of a class but its name, its kind, its size and its marks. -/
def RecordClass.body (r : RecordClass) :
    Option (List (Field NativeType)) × List String × List (String × Slot) × Nat × Bool :=
  (r.fields, r.anonymous, r.slots, r.length, r.failed)

theorem RecordClass.body_eq_iff {a b : RecordClass} : a.body = b.body ↔
    a.fields = b.fields ∧ a.anonymous = b.anonymous ∧ a.slots = b.slots ∧ a.length = b.length ∧
      a.failed = b.failed := by
  simp [RecordClass.body]

theorem RecordClass.fields_slots_of_body {a b : RecordClass} (same : a.body = b.body) :
    a.fields = b.fields ∧ a.slots = b.slots :=
  have parts := RecordClass.body_eq_iff.mp same
  ⟨parts.1, parts.2.2.1⟩

section Weight

/-- The weight of the first `count` classes that are not above the class `j`. -/
def burden (rank weight : Nat → Nat) (count j : Nat) : Nat :=
  ∑ k ∈ (Finset.range count).filter fun k => rank k ≤ rank j, weight k

variable {rank weight : Nat → Nat} {count j k : Nat}

theorem burden_add_le (below : rank k < rank j) (inside : j < count) :
    burden rank weight count k + weight j ≤ burden rank weight count j := by
  have absent : j ∉ (Finset.range count).filter fun m => rank m ≤ rank k := by
    simp only [Finset.mem_filter, not_and]
    omega
  rw [burden, burden, Nat.add_comm, ← Finset.sum_insert absent]
  refine Finset.sum_le_sum_of_subset fun m member => ?_
  simp only [Finset.mem_insert, Finset.mem_filter, Finset.mem_range] at member ⊢
  rcases member with rfl | ⟨within, low⟩
  · exact ⟨inside, Nat.le_refl _⟩
  · exact ⟨within, by omega⟩

theorem weight_le_burden (weight : Nat → Nat) (inside : j < count) : weight j ≤ burden rank weight count j :=
  Finset.single_le_sum (fun _ _ => Nat.zero_le _) (by simpa using inside)

theorem burden_le_sum (rank weight : Nat → Nat) (count j : Nat) :
    burden rank weight count j ≤ ∑ k ∈ Finset.range count, weight k :=
  Finset.sum_le_sum_of_subset (Finset.filter_subset _ _)

end Weight

namespace Classes

theorem record_update_ne (c : Classes) {i : Nat} (f : RecordClass → RecordClass) (j : Nat) (other : j ≠ i) :
    (c.update i f).record j = c.record j := by
  rw [record_update, if_neg fun both => other both.1.symm]

theorem record_update_self {c : Classes} {i : Nat} (f : RecordClass → RecordClass)
    (inside : i < c.records.length) : (c.update i f).record i = f (c.record i) := by
  rw [record_update, if_pos ⟨rfl, inside⟩]

/-- A record type hands the member `name`, of type `u`, up to the record that holds it without a name: it is a member
of its own, or one that is handed up to it. -/
inductive Exposes (c : Classes) : NativeType → String → NativeType → Prop
  | member {j fields f s} (given : (c.record j).fields = some fields) (inside : f ∈ fields)
    (slot : (c.record j).slots.lookup f.name = some s) (named : s.anonymous = false) :
    Exposes c (.record j) f.name s.type
  | nested {j fields f s name u} (given : (c.record j).fields = some fields) (inside : f ∈ fields)
    (slot : (c.record j).slots.lookup f.name = some s) (nameless : s.anonymous = true)
    (inner : Exposes c s.type name u) : Exposes c (.record j) name u

/-- What is handed up depends on no slots but those of the classes on the way: not on those of a class `i` that has
none, or that is no one's member. -/
theorem Exposes.congr {c c' : Classes} {i : Nat} {t u : NativeType} {name : String} (exposes : Exposes c t name u)
    (same : ∀ j ≠ i, (c'.record j).fields = (c.record j).fields ∧ (c'.record j).slots = (c.record j).slots)
    (avoided : (c.record i).slots = [] ∨
      t ≠ .record i ∧ ∀ j ≠ i, ∀ n s, (c.record j).slots.lookup n = some s → s.type ≠ .record i) :
    Exposes c' t name u := by
  have other {j : Nat} {n : String} {s : Slot} (slot : (c.record j).slots.lookup n = some s)
      (avoided : (c.record i).slots = [] ∨ NativeType.record j ≠ .record i) : j ≠ i := by
    rintro rfl
    rcases avoided with empty | apart
    · simp [empty] at slot
    · exact apart rfl
  induction exposes with
  | member given inside slot named =>
    obtain ⟨fields, slots⟩ := same _ (other slot (avoided.imp_right And.left))
    exact .member (fields ▸ given) inside (slots ▸ slot) named
  | nested given inside slot nameless inner ih =>
    have apart := other slot (avoided.imp_right And.left)
    obtain ⟨fields, slots⟩ := same _ apart
    refine .nested (fields ▸ given) inside (slots ▸ slot) nameless (ih ?_)
    exact avoided.imp_right fun both => ⟨both.2 _ apart _ _ slot, both.2⟩

/-- The member `f` of the class `j` hands this member up: itself, or what is handed up to it if it has no name. -/
def HandedBy (c : Classes) (j : Nat) (f : Field NativeType) (name : String) (u : NativeType) : Prop :=
  ∃ s, (c.record j).slots.lookup f.name = some s ∧
    (s.anonymous = false ∧ name = f.name ∧ u = s.type ∨ s.anonymous = true ∧ c.Exposes s.type name u)

theorem exposes_record_iff {c : Classes} {j : Nat} {name : String} {u : NativeType} :
    c.Exposes (.record j) name u ↔
      ∃ fields, (c.record j).fields = some fields ∧ ∃ f ∈ fields, c.HandedBy j f name u := by
  constructor
  · intro exposes
    cases exposes with
    | member given inside slot named => exact ⟨_, given, _, inside, _, slot, .inl ⟨named, rfl, rfl⟩⟩
    | nested given inside slot nameless inner => exact ⟨_, given, _, inside, _, slot, .inr ⟨nameless, inner⟩⟩
  · rintro ⟨fields, given, f, inside, s, slot, ⟨named, rfl, rfl⟩ | ⟨nameless, inner⟩⟩
    · exact .member given inside slot named
    · exact .nested given inside slot nameless inner

/-- As C demands, no two members of the class have the same name, be they its own or handed up to it; and only its own
members are without a name. -/
structure WellNamed (c : Classes) (i : Nat) : Prop where
  distinct : (((c.record i).fields.getD []).map (·.name)).Nodup
  listed : ∀ name ∈ (c.record i).anonymous, ∃ f ∈ (c.record i).fields.getD [], f.name = name
  apart : ∀ f ∈ (c.record i).fields.getD [], f.name ∈ (c.record i).anonymous → ∀ name u, c.Exposes f.type name u →
    ∀ g ∈ (c.record i).fields.getD [], g.name ≠ name

/-- The names that a type hands up, if none of its own members is without a name. -/
def handedUp? (c : Classes) : NativeType → Option (List String)
  | .record k =>
    if (c.record k).slots.all (!·.2.anonymous) then some (((c.record k).fields.getD []).map (·.name)) else none
  | _ => some []

theorem mem_of_handedUp? {c : Classes} {t u : NativeType} {name : String} {names : List String}
    (found : c.handedUp? t = some names) (exposes : c.Exposes t name u) : name ∈ names := by
  have named {j : Nat} {n : String} {s : Slot} (found : c.handedUp? (.record j) = some names)
      (slot : (c.record j).slots.lookup n = some s) : s.anonymous = false := by
    rw [handedUp?] at found
    split at found
    · rename_i all
      obtain ⟨before, after, split, -⟩ := List.lookup_eq_some_iff.mp slot
      have member : (n, s) ∈ (c.record j).slots := by simp [split]
      simpa using List.all_eq_true.mp all (n, s) member
    · cases found
  cases exposes with
  | member given inside slot _ =>
    rw [handedUp?] at found
    split at found
    · cases found
      rw [given]
      exact List.mem_map_of_mem inside
    · cases found
  | nested given inside slot nameless inner => cases (named found slot).symm.trans nameless

/-- A check of names that goes one step deep. -/
def plainlyNamed (c : Classes) (i : Nat) : Bool :=
  let own := ((c.record i).fields.getD []).map (·.name)
  own.Nodup && (c.record i).anonymous.all own.contains &&
    ((c.record i).fields.getD []).all fun f => !(c.record i).anonymous.contains f.name ||
      (c.handedUp? f.type).any fun names => names.all (!own.contains ·)

theorem wellNamed_of_plainlyNamed {c : Classes} {i : Nat} (plain : c.plainlyNamed i = true) : c.WellNamed i := by
  simp only [plainlyNamed, Bool.and_eq_true, decide_eq_true_eq, List.all_eq_true, List.contains_iff_mem] at plain
  obtain ⟨⟨distinct, listed⟩, handed⟩ := plain
  refine ⟨distinct, fun name inside => List.mem_map.mp (listed name inside), ?_⟩
  intro f inside nameless name u exposes g member same
  have checked := handed f inside
  rw [List.contains_iff_mem.mpr nameless, Bool.not_true, Bool.false_or] at checked
  cases found : c.handedUp? f.type with
  | none =>
    rw [found] at checked
    cases checked
  | some names =>
    rw [found, Option.any_some] at checked
    have absent := List.all_eq_true.mp checked name (mem_of_handedUp? found exposes)
    rw [← same, List.contains_iff_mem.mpr (List.mem_map_of_mem member)] at absent
    cases absent

end Classes

namespace ClassWork

open Classes

theorem lookup_cons_eq (entry : String × Slot) (slots : List (String × Slot)) (name : String) :
    (entry :: slots).lookup name = if name = entry.1 then some entry.2 else slots.lookup name := by
  obtain ⟨key, s⟩ := entry
  by_cases same : name = key
  · simp [same]
  · have apart : (name == key) = false := beq_eq_false_iff_ne.mpr same
    simp [List.lookup_cons, apart, same]

theorem lookup_putSlot (slots : List (String × Slot)) (name : String) (s : Slot) (other : String) :
    (putSlot slots name s).lookup other = if other = name then some s else slots.lookup other := by
  have replaced (slots : List (String × Slot)) :
      (slots.map fun e => if e.1 == name then (name, s) else e).lookup other =
        if other = name then (if slots.any (·.1 == name) then some s else none) else slots.lookup other := by
    induction slots with
    | nil => simp
    | cons entry rest ih =>
      rw [List.map_cons, lookup_cons_eq, lookup_cons_eq, ih, List.any_cons]
      cases here : entry.1 == name with
      | true =>
        have same : entry.1 = name := beq_iff_eq.mp here
        by_cases asked : other = name <;> simp [same, asked]
      | false =>
        have unlike : name ≠ entry.1 := (beq_eq_false_iff_ne.mp here).symm
        by_cases asked : other = name
        · subst asked
          rw [if_neg Bool.false_ne_true, if_neg unlike, if_pos rfl, if_pos rfl, Bool.false_or]
        · simp [asked]
  unfold putSlot
  split
  · rename_i present
    rw [replaced, present]
    simp
  · rename_i absent
    rw [List.lookup_append, lookup_cons_eq]
    by_cases asked : other = name
    · have nothing : slots.lookup name = none := by
        refine List.lookup_eq_none_iff.mpr fun entry inside => bne_iff_ne.mpr fun same => absent ?_
        exact List.any_eq_true.mpr ⟨entry, inside, by simp [same]⟩
      simp [asked, nothing]
    · simp [asked]

/-- The nested record hands one of its members up to the class `i`. -/
def handUp (i fuel j : Nat) (offset : Int) (f : Field NativeType) : ClassWork Unit := do
  match ((← get).record j).slots.lookup f.name with
  | none => throw (.noAttribute ((← get).record j).name f.name)
  | some s =>
    if s.anonymous then promote i fuel s.type (offset + s.offset)
    else setSlot i f.name { s with offset := offset + s.offset }

def handUpAll (i fuel j : Nat) (offset : Int) : List (Field NativeType) → ClassWork Unit
  | [] => pure ()
  | f :: rest => do
    handUp i fuel j offset f
    handUpAll i fuel j offset rest

theorem promote_succ (i fuel : Nat) (t : NativeType) (offset : Int) :
    promote i (fuel + 1) t offset = (do
      let found ← fieldsOf t
      handUpAll i fuel found.1 offset found.2) := by
  rw [promote]
  refine bind_congr fun found => ?_
  obtain ⟨j, fields⟩ := found
  dsimp only
  induction fields with
  | nil => rfl
  | cons f rest ih =>
    rw [handUpAll, ← ih, List.forIn_cons, handUp]
    simp only [bind_assoc]
    refine bind_congr fun c => ?_
    cases (c.record j).slots.lookup f.name with
    | none => rfl
    | some s =>
      dsimp only
      by_cases nameless : s.anonymous = true
      · rw [if_pos nameless, if_pos nameless, bind_assoc]
        rfl
      · rw [if_neg nameless, if_neg nameless, bind_assoc]
        rfl

/-- Only the slots of the class `i` may differ. -/
structure Reslotted (i : Nat) (c c' : Classes) : Prop where
  length_eq : c'.records.length = c.records.length
  others : ∀ j ≠ i, c'.record j = c.record j
  own : c'.record i = { c.record i with slots := (c'.record i).slots }

theorem Reslotted.refl (i : Nat) (c : Classes) : Reslotted i c c := ⟨rfl, fun _ _ => rfl, rfl⟩

theorem Reslotted.trans {i : Nat} {c c' c'' : Classes} (first : Reslotted i c c') (second : Reslotted i c' c'') :
    Reslotted i c c'' := by
  refine ⟨second.length_eq.trans first.length_eq, fun j other => ?_, ?_⟩
  · rw [second.others j other, first.others j other]
  · rw [second.own, first.own]

/- One slot is set, whether there was one of the name or not. -/
theorem reslotted_putSlot {i : Nat} {c : Classes} (name : String) (s : Slot) (inside : i < c.records.length) :
    Reslotted i c (c.update i fun r => { r with slots := putSlot r.slots name s }) ∧
      ∀ n, ((c.update i fun r => { r with slots := putSlot r.slots name s }).record i).slots.lookup n =
        if n = name then some s else (c.record i).slots.lookup n := by
  have own := record_update_self (fun r => { r with slots := putSlot r.slots name s }) inside
  refine ⟨⟨length_update c i _, record_update_ne c _, ?_⟩, fun n => ?_⟩
  · rw [own]
  · rw [own]
    exact lookup_putSlot _ _ _ _

/-- The class `i` keeps its slots by name and gets new ones of the names and types of `E`: all of them, if the work is
done to its end. -/
structure Gathered (i : Nat) (E : String → NativeType → Prop) (done : Prop) (c c' : Classes) : Prop where
  reslotted : Reslotted i c c'
  kept : ∀ name, ((c.record i).slots.lookup name).isSome → ((c'.record i).slots.lookup name).isSome
  new : ∀ name s, (c'.record i).slots.lookup name = some s →
    (c.record i).slots.lookup name = some s ∨ s.anonymous = false ∧ E name s.type
  all : done → ∀ name u, E name u → ((c'.record i).slots.lookup name).isSome

variable {i j fuel : Nat} {E E' : String → NativeType → Prop} {done done' : Prop} {c c' c'' c₀ : Classes}

theorem gathered_nothing (c : Classes) (i : Nat) (nothing : done → ∀ name u, ¬ E name u) : Gathered i E done c c :=
  ⟨Reslotted.refl i c, fun _ found => found, fun _ _ found => .inl found,
    fun finished name u exposed => absurd exposed (nothing finished name u)⟩

theorem Gathered.trans {F : String → NativeType → Prop} {whole : Prop} (first : Gathered i E done c c')
    (second : Gathered i E' done' c' c'') (sound : ∀ name u, E name u ∨ E' name u → F name u)
    (complete : whole → done ∧ done' ∧ ∀ name u, F name u → E name u ∨ E' name u) : Gathered i F whole c c'' := by
  refine ⟨first.reslotted.trans second.reslotted, fun name found => second.kept name (first.kept name found), ?_, ?_⟩
  · intro name s found
    rcases second.new name s found with earlier | ⟨named, exposed⟩
    · rcases first.new name s earlier with before | ⟨named, exposed⟩
      · exact .inl before
      · exact .inr ⟨named, sound _ _ (.inl exposed)⟩
    · exact .inr ⟨named, sound _ _ (.inr exposed)⟩
  · intro finished name u exposed
    obtain ⟨ended, ended', either⟩ := complete finished
    rcases either name u exposed with one | other
    · exact second.kept name (first.all ended name u one)
    · exact second.all ended' name u other

theorem Gathered.imp {F : String → NativeType → Prop} {whole : Prop} (gathered : Gathered i E done c c')
    (sound : ∀ name u, E name u → F name u) (complete : whole → done ∧ ∀ name u, F name u → E name u) :
    Gathered i F whole c c' := by
  obtain ⟨reslotted, kept, new, all⟩ := gathered
  refine ⟨reslotted, kept, fun name s found => ?_, fun finished name u exposed => ?_⟩
  · exact (new name s found).imp_right fun both => ⟨both.1, sound _ _ both.2⟩
  · exact all (complete finished).1 name u ((complete finished).2 name u exposed)

theorem gathered_setSlot (name : String) (s : Slot) (inside : i < c.records.length) (named : s.anonymous = false) :
    Gathered i (fun n u => n = name ∧ u = s.type) True c ((setSlot i name s).run c).2 := by
  change Gathered i _ True c (c.update i fun r => { r with slots := putSlot r.slots name s })
  obtain ⟨reslotted, slots⟩ := reslotted_putSlot (c := c) name s inside
  refine ⟨reslotted, fun n found => ?_, fun n s' found => ?_, fun _ n u same => ?_⟩
  · rw [slots]
    split
    · rfl
    · exact found
  · rw [slots] at found
    split at found
    · rename_i same
      cases found
      exact .inr ⟨named, same, rfl⟩
    · exact .inl found
  · rw [slots, if_pos same.1]
    rfl

/-- No class but `i` has it as a member, and members without a name are of lower classes: while the slots of `i` are
gathered, they are not looked at. -/
structure Towards (c : Classes) (i : Nat) (rank : Nat → Nat) : Prop where
  inside : i < c.records.length
  avoids : ∀ j ≠ i, ∀ n s, (c.record j).slots.lookup n = some s → s.type ≠ .record i
  lower : ∀ j ≠ i, ∀ n s k, (c.record j).slots.lookup n = some s → s.anonymous = true → s.type = .record k →
    rank k < rank j

/-- So much fuel is more than there are classes below the type. -/
def Enough (c : Classes) (rank : Nat → Nat) (fuel : Nat) (t : NativeType) : Prop :=
  ∀ j, t = .record j → burden rank (fun _ => 1) c.records.length j ≤ fuel

variable {rank : Nat → Nat} {t : NativeType} {offset : Int} {result : Except ClassFault Unit}

theorem lt_of_fields {c : Classes} {j : Nat} {fields : List (Field NativeType)}
    (given : (c.record j).fields = some fields) : j < c.records.length := by
  by_contra outside
  simp [record, List.getElem?_eq_none (Nat.le_of_not_lt outside)] at given

theorem fieldsOf_run (t : NativeType) (c : Classes) :
    (∃ f, (fieldsOf t).run c = (.error f, c)) ∨
      ∃ j fields, t = .record j ∧ (c.record j).fields = some fields ∧ (fieldsOf t).run c = (.ok (j, fields), c) := by
  unfold fieldsOf
  rw [run_bind, run_get]
  dsimp only
  split
  · rename_i j
    split
    · rename_i fields given
      exact .inr ⟨j, fields, rfl, given, rfl⟩
    · exact .inl ⟨_, rfl⟩
  · exact .inl ⟨_, rfl⟩

theorem handUp_gathered (towards : Towards c₀ i rank) (other : j ≠ i)
    (inner : ∀ {t : NativeType} {offset : Int} {c c' : Classes} {result : Except ClassFault Unit}, Reslotted i c₀ c →
      t ≠ .record i → (promote i fuel t offset).run c = (result, c') →
      Gathered i (c₀.Exposes t) (result = .ok () ∧ Enough c₀ rank fuel t) c c')
    {f : Field NativeType} (view : Reslotted i c₀ c) (ended : (handUp i fuel j offset f).run c = (result, c')) :
    Gathered i (c₀.HandedBy j f)
      (result = .ok () ∧ j < c₀.records.length ∧ burden rank (fun _ => 1) c₀.records.length j ≤ fuel + 1) c c' := by
  unfold handUp at ended
  rw [run_bind, run_get] at ended
  dsimp only at ended
  rw [view.others j other] at ended
  cases slot : (c₀.record j).slots.lookup f.name with
  | none =>
    rw [slot] at ended
    cases ended
    exact gathered_nothing c i fun finished => by cases finished.1
  | some s =>
    rw [slot] at ended
    dsimp only at ended
    split at ended
    · rename_i nameless
      refine (inner view (towards.avoids j other _ s slot) ended).imp ?_ ?_
      · exact fun name u exposes => ⟨s, slot, .inr ⟨nameless, exposes⟩⟩
      · rintro ⟨finished, within, fuelled⟩
        refine ⟨⟨finished, fun k same => ?_⟩, ?_⟩
        · have below : burden rank (fun _ => 1) c₀.records.length k + 1 ≤
              burden rank (fun _ => 1) c₀.records.length j :=
            burden_add_le (towards.lower j other _ s k slot nameless same) within
          omega
        · rintro name u ⟨s', slot', ⟨named, -⟩ | ⟨-, exposes⟩⟩
          · cases slot.symm.trans slot'
            cases nameless.symm.trans named
          · cases slot.symm.trans slot'
            exact exposes
    · rename_i named
      have named : s.anonymous = false := Bool.eq_false_iff.mpr named
      have set : Gathered i (fun n u => n = f.name ∧ u = s.type) True c
          ((setSlot i f.name { s with offset := offset + s.offset }).run c).2 :=
        gathered_setSlot f.name { s with offset := offset + s.offset } (view.length_eq ▸ towards.inside) named
      rw [ended] at set
      refine set.imp ?_ ?_
      · rintro name u ⟨rfl, rfl⟩
        exact ⟨s, slot, .inl ⟨named, rfl, rfl⟩⟩
      · intro _
        refine ⟨trivial, ?_⟩
        rintro name u ⟨s', slot', ⟨-, own⟩ | ⟨nameless, -⟩⟩
        · cases slot.symm.trans slot'
          exact own
        · cases slot.symm.trans slot'
          cases named.symm.trans nameless

theorem handUpAll_gathered (towards : Towards c₀ i rank) (other : j ≠ i)
    (inner : ∀ {t : NativeType} {offset : Int} {c c' : Classes} {result : Except ClassFault Unit}, Reslotted i c₀ c →
      t ≠ .record i → (promote i fuel t offset).run c = (result, c') →
      Gathered i (c₀.Exposes t) (result = .ok () ∧ Enough c₀ rank fuel t) c c')
    {fields : List (Field NativeType)} (view : Reslotted i c₀ c)
    (ended : (handUpAll i fuel j offset fields).run c = (result, c')) :
    Gathered i (fun name u => ∃ f ∈ fields, c₀.HandedBy j f name u)
      (result = .ok () ∧ j < c₀.records.length ∧ burden rank (fun _ => 1) c₀.records.length j ≤ fuel + 1) c c' := by
  induction fields generalizing c with
  | nil =>
    cases ended
    exact gathered_nothing _ i fun _ => by simp
  | cons f rest ih =>
    rw [handUpAll, run_bind] at ended
    rcases one : (handUp i fuel j offset f).run c with ⟨result₁, c₁⟩
    have first := handUp_gathered towards other inner view one
    rw [one] at ended
    cases result₁ with
    | error fault =>
      cases ended
      refine first.imp (fun name u handed => ⟨f, .head rest, handed⟩) fun finished => ?_
      cases finished.1
    | ok _ =>
      have others := ih (view.trans first.reslotted) ended
      refine first.trans others ?_ ?_
      · rintro name u (handed | ⟨g, inside, handed⟩)
        · exact ⟨f, .head rest, handed⟩
        · exact ⟨g, .tail f inside, handed⟩
      · intro finished
        refine ⟨⟨rfl, finished.2⟩, finished, ?_⟩
        rintro name u ⟨g, inside, handed⟩
        rcases List.mem_cons.mp inside with rfl | later
        · exact .inl handed
        · exact .inr ⟨g, later, handed⟩

/- The class gets what the nested record exposes; the fuel lasts, since every step inwards leads to a lower class. -/
theorem promote_gathered (towards : Towards c₀ i rank) (fuel : Nat) {t : NativeType} {offset : Int} {c c' : Classes}
    {result : Except ClassFault Unit} (view : Reslotted i c₀ c) (other : t ≠ .record i)
    (ended : (promote i fuel t offset).run c = (result, c')) :
    Gathered i (c₀.Exposes t) (result = .ok () ∧ Enough c₀ rank fuel t) c c' := by
  induction fuel generalizing t offset c c' result with
  | zero =>
    rw [promote] at ended
    cases ended
    refine gathered_nothing c i ?_
    rintro ⟨-, enough⟩ name u exposes
    have inside : ∃ j, t = .record j ∧ j < c₀.records.length := by
      cases exposes with
      | member given => exact ⟨_, rfl, lt_of_fields given⟩
      | nested given => exact ⟨_, rfl, lt_of_fields given⟩
    obtain ⟨j, same, within⟩ := inside
    have positive : 1 ≤ burden rank (fun _ => 1) c₀.records.length j := weight_le_burden (fun _ => 1) within
    have none_left := enough j same
    omega
  | succ fuel ih =>
    rw [promote_succ, run_bind] at ended
    rcases fieldsOf_run t c with ⟨f, refused⟩ | ⟨j, fields, rfl, given, found⟩
    · rw [refused] at ended
      cases ended
      exact gathered_nothing c i fun finished => by cases finished.1
    · rw [found] at ended
      have apart : j ≠ i := fun same => other (congrArg NativeType.record same)
      have given₀ : (c₀.record j).fields = some fields := view.others j apart ▸ given
      refine (handUpAll_gathered towards apart ih view ended).imp ?_ ?_
      · exact fun name u handed => Classes.exposes_record_iff.mpr ⟨fields, given₀, handed⟩
      · rintro ⟨finished, enough⟩
        refine ⟨⟨finished, lt_of_fields given₀, enough j rfl⟩, fun name u exposes => ?_⟩
        obtain ⟨fields', given', handed⟩ := Classes.exposes_record_iff.mp exposes
        cases given₀.symm.trans given'
        exact handed

/-- What a member without a name exposes is handed up to its class. -/
def promoteOne (i : Nat) (name : String) : ClassWork Unit := do
  let c ← get
  match (c.record i).slots.lookup name with
  | none =>
    if name == "_fields_" || name == "_anonymous_" then throw (.notAMember name)
    else throw (.noAttribute (c.record i).name name)
  | some s =>
    setSlot i name { s with anonymous := true }
    promote i (c.records.length + 1) s.type s.offset

theorem promoteAll_cons (i : Nat) (name : String) (rest : List String) :
    promoteAll i (name :: rest) = (do
      promoteOne i name
      promoteAll i rest) := by
  rw [promoteAll, promoteOne, bind_assoc]
  refine bind_congr fun c => ?_
  cases (c.record i).slots.lookup name with
  | none =>
    dsimp only
    split
    · rfl
    · rfl
  | some s => exact (bind_assoc _ _ _).symm

theorem enough_of_length (c : Classes) (rank : Nat → Nat) (t : NativeType) :
    Enough c rank (c.records.length + 1) t := by
  intro j _
  have below := burden_le_sum rank (fun _ => 1) c.records.length j
  rw [← Finset.card_eq_sum_ones, Finset.card_range] at below
  omega

theorem promoteOne_run {name : String} (towards : Towards c₀ i rank) (view : Reslotted i c₀ c)
    (ended : (promoteOne i name).run c = (result, c')) :
    result ≠ .ok () ∧ c' = c ∨
      ∃ s c₁, (c.record i).slots.lookup name = some s ∧ Reslotted i c c₁ ∧
        (∀ n, (c₁.record i).slots.lookup n =
          if n = name then some { s with anonymous := true } else (c.record i).slots.lookup n) ∧
        (s.type ≠ .record i → Gathered i (c₀.Exposes s.type) (result = .ok ()) c₁ c') := by
  unfold promoteOne at ended
  rw [run_bind, run_get] at ended
  dsimp only at ended
  have inside : i < c.records.length := view.length_eq ▸ towards.inside
  cases slot : (c.record i).slots.lookup name with
  | none =>
    rw [slot] at ended
    dsimp only at ended
    left
    split at ended
    · cases ended
      exact ⟨by simp, rfl⟩
    · cases ended
      exact ⟨by simp, rfl⟩
  | some s =>
    rw [slot] at ended
    dsimp only at ended
    right
    obtain ⟨reslotted, marked⟩ := reslotted_putSlot name { s with anonymous := true } inside
    refine ⟨s, _, rfl, reslotted, marked, fun other => ?_⟩
    have onward : (promote i (c.records.length + 1) s.type s.offset).run (c.update i fun r =>
      { r with slots := putSlot r.slots name { s with anonymous := true } }) = (result, c') := ended
    rw [view.length_eq] at onward
    refine (promote_gathered towards _ (view.trans reslotted) other onward).imp (fun _ _ exposes => exposes) ?_
    exact fun finished => ⟨⟨finished, enough_of_length c₀ rank s.type⟩, fun _ _ exposes => exposes⟩

/- Whatever holds of the types of all slots, and of what they expose, still holds. -/
theorem promoteAll_types {names : List String} {Q : NativeType → Prop} (towards : Towards c₀ i rank)
    (other : ∀ t, Q t → t ≠ .record i) (closed : ∀ t n u, Q t → c₀.Exposes t n u → Q u) (view : Reslotted i c₀ c)
    (start : ∀ n s, (c.record i).slots.lookup n = some s → Q s.type)
    (ended : (promoteAll i names).run c = (result, c')) :
    Reslotted i c₀ c' ∧ ∀ n s, (c'.record i).slots.lookup n = some s → Q s.type := by
  induction names generalizing c with
  | nil =>
    cases ended
    exact ⟨view, start⟩
  | cons name rest ih =>
    rw [promoteAll_cons, run_bind] at ended
    rcases one : (promoteOne i name).run c with ⟨result₁, c₁⟩
    rw [one] at ended
    have first : Reslotted i c₀ c₁ ∧ ∀ n s, (c₁.record i).slots.lookup n = some s → Q s.type := by
      rcases promoteOne_run towards view one with ⟨-, rfl⟩ | ⟨s, c₂, slot, reslotted, marked, gathers⟩
      · exact ⟨view, start⟩
      · have gathered := gathers (other _ (start name s slot))
        refine ⟨view.trans (reslotted.trans gathered.reslotted), fun n s' found => ?_⟩
        rcases gathered.new n s' found with before | ⟨-, exposes⟩
        · rw [marked] at before
          split at before
          · cases before
            exact start name s slot
          · exact start n s' before
        · exact closed _ _ _ (start name s slot) exposes
    cases result₁ with
    | error f =>
      cases ended
      exact first
    | ok _ => exact ih first.1 first.2 ended

/-- The members `fields` of the class `i` have slots of their own types, and what those in `names` expose has been
handed up to it: all of that, if the work is done to its end. -/
structure HandedUp (c₀ : Classes) (i : Nat) (fields : List (Field NativeType)) (names : List String) (done : Prop)
    (c c' : Classes) : Prop where
  own : ∀ f ∈ fields, ∃ s, (c'.record i).slots.lookup f.name = some s ∧ s.type = f.type
  kept : ∀ n, ((c.record i).slots.lookup n).isSome → ((c'.record i).slots.lookup n).isSome
  new : ∀ n, ((c'.record i).slots.lookup n).isSome → ((c.record i).slots.lookup n).isSome ∨
    ∃ f ∈ fields, f.name ∈ names ∧ ∃ u, c₀.Exposes f.type n u
  all : done → ∀ f ∈ fields, f.name ∈ names → ∀ n u, c₀.Exposes f.type n u → ((c'.record i).slots.lookup n).isSome

section HandedUp

variable {fields : List (Field NativeType)} {names : List String} {name : String} {c₁ : Classes}

theorem handedUp_nothing (own : ∀ f ∈ fields, ∃ s, (c.record i).slots.lookup f.name = some s ∧ s.type = f.type)
    (nothing : done → names = []) : HandedUp c₀ i fields names done c c := by
  refine ⟨own, fun _ found => found, fun _ found => .inl found, fun finished f _ inside => ?_⟩
  rw [nothing finished] at inside
  cases inside

theorem HandedUp.trans (first : HandedUp c₀ i fields [name] done c c₁)
    (second : HandedUp c₀ i fields names done' c₁ c') (both : done' → done) :
    HandedUp c₀ i fields (name :: names) done' c c' := by
  refine ⟨second.own, fun n found => second.kept n (first.kept n found), fun n found => ?_,
    fun finished f inside nameless n u exposes => ?_⟩
  · rcases second.new n found with earlier | ⟨f, inside, nameless, exposes⟩
    · refine (first.new n earlier).imp_right ?_
      rintro ⟨f, inside, same, exposes⟩
      exact ⟨f, inside, List.mem_cons.mpr (.inl (List.mem_singleton.mp same)), exposes⟩
    · exact .inr ⟨f, inside, .tail name nameless, exposes⟩
  · rcases List.mem_cons.mp nameless with same | later
    · exact second.kept n (first.all (both finished) f inside (List.mem_singleton.mpr same) n u exposes)
    · exact second.all finished f inside later n u exposes

variable (towards : Towards c₀ i rank) (other : ∀ f ∈ fields, f.type ≠ .record i)
  (distinct : (fields.map (·.name)).Nodup)

include towards other distinct

/- What is handed up takes the place of no own member, since none has a name of it. -/
theorem promoteOne_handedUp {f : Field NativeType} (inside : f ∈ fields)
    (apart : ∀ n u, c₀.Exposes f.type n u → ∀ g ∈ fields, g.name ≠ n) (view : Reslotted i c₀ c)
    (own : ∀ f ∈ fields, ∃ s, (c.record i).slots.lookup f.name = some s ∧ s.type = f.type)
    (ended : (promoteOne i f.name).run c = (result, c')) :
    Reslotted i c₀ c' ∧ HandedUp c₀ i fields [f.name] (result = .ok ()) c c' := by
  rcases promoteOne_run towards view ended with ⟨failed, rfl⟩ | ⟨s, c₁, slot, reslotted, marked, gathers⟩
  · exact ⟨view, handedUp_nothing own fun finished => absurd finished failed⟩
  · obtain ⟨s', slot', typed⟩ := own f inside
    cases slot.symm.trans slot'
    have gathered := gathers (typed ▸ other f inside)
    rw [typed] at gathered
    have kept (n : String) (found : ((c.record i).slots.lookup n).isSome) : ((c'.record i).slots.lookup n).isSome := by
      refine gathered.kept n ?_
      rw [marked]
      split
      · rfl
      · exact found
    refine ⟨view.trans (reslotted.trans gathered.reslotted), fun g member => ?_, kept, fun n found => ?_,
      fun finished g member nameless n u exposes => ?_⟩
    · obtain ⟨before, slot', typed'⟩ := own g member
      obtain ⟨after, found⟩ := Option.isSome_iff_exists.mp (kept g.name (Option.isSome_of_eq_some slot'))
      refine ⟨after, found, ?_⟩
      rcases gathered.new g.name after found with earlier | ⟨-, exposes⟩
      · rw [marked] at earlier
        split at earlier
        · rename_i same
          cases earlier
          rw [List.inj_on_of_nodup_map distinct member inside same]
          exact typed
        · cases slot'.symm.trans earlier
          exact typed'
      · exact absurd rfl (apart _ _ exposes g member)
    · obtain ⟨after, found⟩ := Option.isSome_iff_exists.mp found
      rcases gathered.new n after found with earlier | ⟨-, exposes⟩
      · left
        rw [marked] at earlier
        split at earlier
        · rename_i same
          rw [same]
          exact Option.isSome_of_eq_some slot
        · exact Option.isSome_of_eq_some earlier
      · exact .inr ⟨f, inside, List.mem_singleton.mpr rfl, _, exposes⟩
    · rw [List.inj_on_of_nodup_map distinct member inside (List.mem_singleton.mp nameless)] at exposes
      exact gathered.all finished n u exposes

theorem promoteAll_handedUp (listed : ∀ name ∈ names, ∃ f ∈ fields, f.name = name)
    (apart : ∀ f ∈ fields, f.name ∈ names → ∀ n u, c₀.Exposes f.type n u → ∀ g ∈ fields, g.name ≠ n)
    (view : Reslotted i c₀ c)
    (own : ∀ f ∈ fields, ∃ s, (c.record i).slots.lookup f.name = some s ∧ s.type = f.type)
    (ended : (promoteAll i names).run c = (result, c')) : HandedUp c₀ i fields names (result = .ok ()) c c' := by
  induction names generalizing c with
  | nil =>
    cases ended
    exact handedUp_nothing own fun _ => rfl
  | cons name rest ih =>
    rw [promoteAll_cons, run_bind] at ended
    rcases one : (promoteOne i name).run c with ⟨result₁, c₁⟩
    rw [one] at ended
    obtain ⟨f, inside, rfl⟩ := listed name (.head rest)
    obtain ⟨view₁, first⟩ :=
      promoteOne_handedUp towards other distinct inside (apart f inside (.head rest)) view own one
    cases result₁ with
    | error fault =>
      cases ended
      exact first.trans (handedUp_nothing first.own fun finished => by cases finished) fun finished => by cases finished
    | ok _ =>
      have others := ih (fun n member => listed n (.tail _ member))
        (fun g member nameless => apart g member (.tail _ nameless)) view₁ first.own ended
      exact first.trans others fun _ => rfl

end HandedUp

end ClassWork

end CBindings
