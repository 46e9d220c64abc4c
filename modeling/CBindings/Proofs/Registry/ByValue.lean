import CBindings.Proofs.Registry.Sessions

/-! Records held by value. A record can be registered with members of a record that has no members yet; this happens
exactly if its declaration mentions, by value, a record that is not defined. -/
namespace CBindings

/-- The class has got its field list, and the list was accepted. -/
def RecordClass.Complete (r : RecordClass) : Prop := r.fields.isSome = true ∧ r.failed = false

instance (r : RecordClass) : Decidable r.Complete := inferInstanceAs (Decidable (_ ∧ _))

/-- Values of the type hold values of the record class: it is the type itself, its element, or the type of a member, and
so on. Pointers hold nothing. -/
inductive Holds (c : Classes) : NativeType → Nat → Prop
  | here {i} : Holds c (.record i) i
  | element {t length k} (inner : Holds c t k) : Holds c (.array t length) k
  | member {i fields f k} (given : (c.record i).fields = some fields) (inside : f ∈ fields)
    (inner : Holds c f.type k) : Holds c (.record i) k

def Unfinished (c : Classes) (t : NativeType) : Prop := ∃ k, Holds c t k ∧ ¬ (c.record k).Complete

section Unfinished

variable {c c' : Classes} {t : NativeType} {i : Nat}

theorem RecordClass.not_complete_of_core {a : RecordClass} {name : String} {isUnion failed : Bool}
    (core : a.core = (name, isUnion, none, failed)) : ¬ a.Complete := by
  have fields : a.fields = none := congrArg (fun core => core.2.2.1) core
  simp [RecordClass.Complete, fields]

theorem RecordClass.complete_of_core {a : RecordClass} {name : String} {isUnion : Bool}
    {members : List (Field NativeType)} (core : a.core = (name, isUnion, some members, false)) :
    a.Complete ∧ a.fields = some members := by
  have fields : a.fields = some members := congrArg (fun core => core.2.2.1) core
  have failed : a.failed = false := congrArg (fun core => core.2.2.2) core
  simp [RecordClass.Complete, fields, failed]

theorem RecordClass.complete_iff {a b : RecordClass} (same : a.core = b.core) : a.Complete ↔ b.Complete := by
  rw [RecordClass.Complete, RecordClass.Complete, RecordClass.fields_eq same, RecordClass.failed_eq same]

theorem unfinished_array {length : Nat} : Unfinished c (.array t length) ↔ Unfinished c t := by
  constructor
  · rintro ⟨k, held, incomplete⟩
    cases held with
    | element inner => exact ⟨k, inner, incomplete⟩
  · rintro ⟨k, held, incomplete⟩
    exact ⟨k, .element held, incomplete⟩

theorem unfinished_record : Unfinished c (.record i) ↔
    ¬ (c.record i).Complete ∨ ∃ fields, (c.record i).fields = some fields ∧ ∃ f ∈ fields, Unfinished c f.type := by
  constructor
  · rintro ⟨k, held, incomplete⟩
    cases held with
    | here => exact .inl incomplete
    | member given inside inner => exact .inr ⟨_, given, _, inside, k, inner, incomplete⟩
  · rintro (incomplete | ⟨fields, given, f, inside, k, held, incomplete⟩)
    · exact ⟨i, .here, incomplete⟩
    · exact ⟨k, .member given inside held, incomplete⟩

/-- The record class that values of the type hold without going through another one. -/
def NativeType.recordIndex? : NativeType → Option Nat
  | .record i => some i
  | .array element _ => element.recordIndex?
  | _ => none

theorem not_unfinished_of_recordIndex? (nothing : t.recordIndex? = none) : ¬ Unfinished c t := by
  rintro ⟨k, held, -⟩
  induction held with
  | here => cases nothing
  | element _ ih => exact ih nothing
  | member => cases nothing

/-- A table in which the class `i` has no members yet, and the table in which it has got them. -/
structure Fills (i : Nat) (members : List (Field NativeType)) (c c' : Classes) : Prop where
  others : ∀ j ≠ i, (c'.record j).core = (c.record j).core
  blank : (c.record i).Complete ∧ (c.record i).fields = some []
  filled : (c'.record i).Complete ∧ (c'.record i).fields = some members

variable {members : List (Field NativeType)}

theorem Fills.not_unfinished (fills : Fills i members c c') : ¬ Unfinished c (.record i) := by
  obtain ⟨complete, fields⟩ := fills.blank
  simp [unfinished_record, complete, fields]

theorem Fills.holds {k : Nat} (fills : Fills i members c c') (held : Holds c t k) : Holds c' t k := by
  induction held with
  | here => exact .here
  | element _ ih => exact .element ih
  | @member j fields f k given inside _ ih =>
    by_cases same : j = i
    · rw [same, fills.blank.2] at given
      cases given
      cases inside
    · exact .member ((RecordClass.fields_eq (fills.others j same)).trans given) inside ih

/- What is held in the end is held before, or in a member of the class. -/
theorem Fills.held {k : Nat} (fills : Fills i members c c') (held : Holds c' t k) :
    Holds c t k ∨ ∃ m ∈ members, Holds c m.type k := by
  induction held with
  | here => exact .inl .here
  | element _ ih => exact ih.imp_left .element
  | @member j fields f k given inside _ ih =>
    rcases ih with before | later
    · by_cases same : j = i
      · rw [same, fills.filled.2] at given
        cases given
        exact .inr ⟨f, inside, before⟩
      · exact .inl (.member ((RecordClass.fields_eq (fills.others j same)).symm.trans given) inside before)
    · exact .inr later

theorem Fills.incomplete_iff {k : Nat} (fills : Fills i members c c') :
    ¬ (c'.record k).Complete ↔ ¬ (c.record k).Complete := by
  by_cases same : k = i
  · rw [same]
    simp [fills.blank.1, fills.filled.1]
  · rw [RecordClass.complete_iff (fills.others k same)]

theorem Fills.unfinished (fills : Fills i members c c') (unfinished : Unfinished c t) : Unfinished c' t := by
  obtain ⟨k, held, incomplete⟩ := unfinished
  exact ⟨k, fills.holds held, fills.incomplete_iff.mpr incomplete⟩

theorem Fills.unfinished_before (fills : Fills i members c c') (unfinished : Unfinished c' t) :
    Unfinished c t ∨ ∃ m ∈ members, Unfinished c m.type := by
  obtain ⟨k, held, incomplete⟩ := unfinished
  have incomplete := fills.incomplete_iff.mp incomplete
  rcases fills.held held with before | ⟨m, inside, before⟩
  · exact .inl ⟨k, before, incomplete⟩
  · exact .inr ⟨m, inside, k, before, incomplete⟩

theorem Fills.unfinished_iff (fills : Fills i members c c') :
    Unfinished c' (.record i) ↔ ∃ m ∈ members, Unfinished c m.type := by
  constructor
  · intro unfinished
    exact (fills.unfinished_before unfinished).resolve_left fills.not_unfinished
  · rintro ⟨m, inside, unfinished⟩
    exact unfinished_record.mpr (.inr ⟨members, fills.filled.2, m, inside, fills.unfinished unfinished⟩)

end Unfinished

namespace Register

open Outcome

/-- A member of this type, of a record `own` that is tried in the state `r`, holds by value a record without members:
one that is only declared or not defined before, or one that a bound type holds. -/
inductive Lacks (own : String) (r : Registry) (U : NativeType → Prop) : TypeExpr → Prop
  | undefined {name quals canonical tag} {isUnion : Bool}
    (tagged : splitTag name = some (if isUnion then .union else .struct, tag)) (other : tag ≠ own)
    (unbound : boundClass? r.names tag = none) : Lacks own r U (.named name quals canonical)
  | tag {name quals canonical tag i} {isUnion : Bool}
    (tagged : splitTag name = some (if isUnion then .union else .struct, tag)) (other : tag ≠ own)
    (bound : boundClass? r.names tag = some i) (unfinished : U (.record i)) :
    Lacks own r U (.named name quals canonical)
  | enumeration {name bare quals t} (tagged : splitTag name = some (.enum, bare)) (inner : Lacks own r U t) :
    Lacks own r U (.named name quals (some t))
  | bound {name quals canonical native} (untagged : splitTag name = none) (unknown : basicTypes.lookup name = none)
    (other : name ≠ own) (bound : typeOf? r name = some native) (unfinished : U native) :
    Lacks own r U (.named name quals canonical)
  | canonical {name quals t} (untagged : splitTag name = none) (unknown : basicTypes.lookup name = none)
    (other : name ≠ own) (unbound : typeOf? r name = none) (inner : Lacks own r U t) :
    Lacks own r U (.named name quals (some t))
  | element {t size} (inner : Lacks own r U t) : Lacks own r U (.array t size)
  | declared {name isUnion anonymous location} : Lacks own r U (.record ⟨name, none, isUnion, anonymous, location⟩)
  | member {name fields isUnion anonymous location f} (inside : f ∈ fields) (inner : Lacks own r U f.type) :
    Lacks own r U (.record ⟨name, some fields, isUnion, anonymous, location⟩)

variable {own : String} {r s s' s₁ : Registry} {i j : Nat} {c c' : Classes} {U V : NativeType → Prop} {t : TypeExpr}
  {native : NativeType}

theorem Lacks.mono (implied : ∀ native, U native → V native) (lacks : Lacks own r U t) : Lacks own r V t := by
  induction lacks with
  | undefined tagged other unbound => exact .undefined tagged other unbound
  | tag tagged other bound unfinished => exact .tag tagged other bound (implied _ unfinished)
  | enumeration tagged _ ih => exact .enumeration tagged ih
  | bound untagged unknown other bound unfinished => exact .bound untagged unknown other bound (implied _ unfinished)
  | canonical untagged unknown other unbound _ ih => exact .canonical untagged unknown other unbound ih
  | element _ ih => exact .element ih
  | declared => exact .declared
  | member inside _ ih => exact .member inside ih

section Inversion

variable {name tag : String} {quals : List String} {canonical : Option TypeExpr}

/- The tag of a record is not the one of an enumeration. -/
theorem splitTag_ne_enum {isUnion : Bool} (tagged : splitTag name = some (if isUnion then .union else .struct, tag))
    (bare : String) : splitTag name ≠ some (.enum, bare) := by
  rw [tagged]
  cases isUnion with
  | true => simp
  | false => simp

theorem lacks_tagged_iff {isUnion : Bool} (tagged : splitTag name = some (if isUnion then .union else .struct, tag)) :
    Lacks own r U (.named name quals canonical) ↔ tag ≠ own ∧
      (boundClass? r.names tag = none ∨ ∃ i, boundClass? r.names tag = some i ∧ U (.record i)) := by
  constructor
  · intro lacks
    cases lacks with
    | undefined tagged' other unbound =>
      cases congrArg Prod.snd (Option.some.inj (tagged.symm.trans tagged'))
      exact ⟨other, .inl unbound⟩
    | tag tagged' other bound unfinished =>
      cases congrArg Prod.snd (Option.some.inj (tagged.symm.trans tagged'))
      exact ⟨other, .inr ⟨_, bound, unfinished⟩⟩
    | enumeration tagged' inner => exact absurd tagged' (splitTag_ne_enum tagged _)
    | bound untagged => cases tagged.symm.trans untagged
    | canonical untagged => cases tagged.symm.trans untagged
  · rintro ⟨other, unbound | ⟨i, bound, unfinished⟩⟩
    · exact .undefined tagged other unbound
    · exact .tag tagged other bound unfinished

theorem lacks_enumeration_iff {bare : String} (tagged : splitTag name = some (.enum, bare)) :
    Lacks own r U (.named name quals canonical) ↔ ∃ t, canonical = some t ∧ Lacks own r U t := by
  constructor
  · intro lacks
    cases lacks with
    | undefined tagged' => exact absurd tagged (splitTag_ne_enum tagged' _)
    | tag tagged' => exact absurd tagged (splitTag_ne_enum tagged' _)
    | enumeration _ inner => exact ⟨_, rfl, inner⟩
    | bound untagged => cases tagged.symm.trans untagged
    | canonical untagged => cases tagged.symm.trans untagged
  · rintro ⟨t, rfl, inner⟩
    exact .enumeration tagged inner

theorem lacks_untagged_iff (untagged : splitTag name = none) :
    Lacks own r U (.named name quals canonical) ↔ basicTypes.lookup name = none ∧ name ≠ own ∧
      ((∃ native, typeOf? r name = some native ∧ U native) ∨
        typeOf? r name = none ∧ ∃ t, canonical = some t ∧ Lacks own r U t) := by
  constructor
  · intro lacks
    cases lacks with
    | undefined tagged => cases untagged.symm.trans tagged
    | tag tagged => cases untagged.symm.trans tagged
    | enumeration tagged => cases untagged.symm.trans tagged
    | bound _ unknown other bound unfinished => exact ⟨unknown, other, .inl ⟨_, bound, unfinished⟩⟩
    | canonical _ unknown other unbound inner => exact ⟨unknown, other, .inr ⟨unbound, _, rfl, inner⟩⟩
  · rintro ⟨unknown, other, ⟨native, bound, unfinished⟩ | ⟨unbound, t, rfl, inner⟩⟩
    · exact .bound untagged unknown other bound unfinished
    · exact .canonical untagged unknown other unbound inner

theorem lacks_array_iff {size : Option Int} : Lacks own r U (.array t size) ↔ Lacks own r U t := by
  refine ⟨fun lacks => ?_, .element⟩
  cases lacks with
  | element inner => exact inner

theorem lacks_nested_iff {fields : List (Field TypeExpr)} {isUnion : Bool} {anonymous : List String}
    {location : Option Location} :
    Lacks own r U (.record ⟨name, some fields, isUnion, anonymous, location⟩) ↔ ∃ f ∈ fields, Lacks own r U f.type := by
  constructor
  · intro lacks
    cases lacks with
    | member inside inner => exact ⟨_, inside, inner⟩
  · rintro ⟨f, inside, inner⟩
    exact .member inside inner

end Inversion

/- The state of a search for the members of `own`, which was tried in `r` and is of the class `i`. -/
structure Defining (own : String) (r : Registry) (i : Nat) (s : Registry) : Prop where
  names : s.names = r.names.insert own (.type (.record i))
  waiting : Waiting (fun _ _ => True) 0 s.classes s.pending

theorem Defining.grown (defining : Defining own r i s) (grown : Grown (fun _ _ => True) s s') :
    Defining own r i s' := by
  obtain ⟨classes, pending, same⟩ := grown.rest
  refine ⟨?_, defining.waiting.gained grown.toGained⟩
  rw [same]
  exact defining.names

theorem Defining.boundClass? (defining : Defining own r i s) (tag : String) :
    Register.boundClass? s.names tag = if tag = own then some i else Register.boundClass? r.names tag := by
  rw [Register.boundClass?, defining.names, Namespace.get?_insert]
  by_cases same : tag = own
  · rw [if_pos same, if_pos same]
  · rw [if_neg same, if_neg same, Register.boundClass?]

theorem Defining.typeOf? (defining : Defining own r i s) (name : String) :
    Register.typeOf? s name = if name = own then some (.record i) else Register.typeOf? r name := by
  rw [Register.typeOf?, defining.names, Namespace.get?_insert]
  by_cases same : name = own
  · rw [if_pos same, if_pos same]
  · rw [if_neg same, if_neg same, Register.typeOf?]

/- The classes made since `start`, and those that wait, are found in the table as they are. -/
structure Lasts (start : Nat) (s : Registry) (c : Classes) : Prop where
  made : ∀ k, start ≤ k → k < s.classes.records.length → (c.record k).core = (s.classes.record k).core
  waiting : ∀ entry ∈ s.pending, (c.record entry.2).core = (s.classes.record entry.2).core

theorem Lasts.back {start start' : Nat} (lasts : Lasts start s' c) (grown : Grown (fun _ _ => True) s₁ s')
    (waiting : Waiting (fun _ _ => True) 0 s₁.classes s₁.pending) (later : start ≤ start') : Lasts start' s₁ c := by
  obtain ⟨extended, more, same, -⟩ := grown.toGained
  have longer := extended.length_le
  refine ⟨fun k above below => ?_, fun entry inside => ?_⟩
  · exact (lasts.made k (by omega) (by omega)).trans (extended.core_eq k below)
  · have kept : entry ∈ s'.pending := same ▸ List.mem_append_left more inside
    exact (lasts.waiting entry kept).trans (extended.core_eq _ (waiting entry inside).2.1)

section Search

variable {name tag : String} {quals : List String} {canonical : Option TypeExpr}

/- The class of a tag that is not bound waits for its members. -/
theorem tagged_unfinished_iff {isUnion : Bool}
    (tagged : splitTag name = some (if isUnion then .union else .struct, tag))
    (defining : Defining own r i s) (ended : (recordClass tag isUnion).run s = (.ok native, s'))
    (lasts : Lasts s.classes.records.length s' c) (empty : ¬ Unfinished c (.record i)) :
    Unfinished c native ↔ Lacks own r (Unfinished c) (.named name quals canonical) := by
  have grown : Grown (fun _ _ => True) s ((recordClass tag isUnion).run s).2 := grown_recordClass trivial s
  have answer := recordClass_answer tag isUnion s
  rw [ended] at grown answer
  have defining' := defining.grown grown
  rcases answer with ⟨j, told, known⟩ | ⟨-, refused⟩
  · cases told
    rw [lacks_tagged_iff tagged]
    rw [tagClass?, defining'.boundClass?] at known
    by_cases same : tag = own
    · rw [if_pos same] at known
      cases known
      exact iff_of_false empty fun lacks => lacks.1 same
    · rw [if_neg same] at known
      rw [and_iff_right same]
      cases bound : boundClass? r.names tag with
      | some k =>
        rw [bound] at known
        cases known
        simp
      | none =>
        rw [bound, Option.none_or] at known
        obtain ⟨before, after, split, -⟩ := List.lookup_eq_some_iff.mp known
        have entry : (tag, j) ∈ s'.pending := split ▸ List.mem_append_right before (.head after)
        obtain ⟨-, -, kind, -, core⟩ := defining'.waiting _ entry
        have blank := RecordClass.not_complete_of_core ((lasts.waiting _ entry).trans core)
        exact iff_of_true (unfinished_record.mpr (.inl blank)) (.inl rfl)
  · cases refused

/- The members of a record, of `own` itself or of one that is nested in it. -/
theorem members_unfinished_iff {fields : List (Field TypeExpr)} {members : List (Field NativeType)}
    (each : ∀ f ∈ fields, ∀ s s' native, Defining own r i s → (nativeType f.type).run s = (.ok (some native), s') →
      Lasts s.classes.records.length s' c → (Unfinished c native ↔ Lacks own r (Unfinished c) f.type))
    (defining : Defining own r i s) (ended : (memberTypes fields).run s = (.ok members, s'))
    (lasts : Lasts s.classes.records.length s' c) :
    (∃ m ∈ members, Unfinished c m.type) ↔ ∃ f ∈ fields, Lacks own r (Unfinished c) f.type := by
  rw [memberTypes_eq] at ended
  refine mapM_exists_iff ended fun before f after earlierMembers s₁ m s₂ laterMembers split earlier one later => ?_
  have first : Grown (fun _ _ => True) s s₁ := by
    rw [← memberTypes_eq] at earlier
    have grown := memberTypes_grows before s
    rwa [earlier] at grown
  have rest : Grown (fun _ _ => True) s₂ s' := by
    rw [← memberTypes_eq] at later
    have grown := memberTypes_grows after s₂
    rwa [later] at grown
  obtain ⟨native, s₂', found, remaining⟩ := run_bind_ok one
  cases remaining
  have found := nativeType_of_valueType found
  have defining₁ := defining.grown first
  have own := nativeType_grows f.type s₁
  rw [found] at own
  refine each f (by simp [split]) s₁ s₂ native defining₁ found ?_
  exact lasts.back rest (defining₁.grown own).waiting first.toGained.classes.length_le

/- A nested record is complete once its own class has got its members. -/
theorem nested_unfinished_iff {isUnion : Bool} {fields : List (Field TypeExpr)} {anonymous : List String}
    {location : Option Location}
    (each : ∀ f ∈ fields, ∀ s s' native, Defining own r i s → (nativeType f.type).run s = (.ok (some native), s') →
      Lasts s.classes.records.length s' c → (Unfinished c native ↔ Lacks own r (Unfinished c) f.type))
    (defining : Defining own r i s)
    (ended : (nativeType (.record ⟨tag, some fields, isUnion, anonymous, location⟩)).run s = (.ok (some native), s'))
    (lasts : Lasts s.classes.records.length s' c) :
    Unfinished c native ↔ Lacks own r (Unfinished c) (.record ⟨tag, some fields, isUnion, anonymous, location⟩) := by
  rw [nativeType] at ended
  obtain ⟨j, s₁, made, onward⟩ := run_bind_ok ended
  obtain ⟨members, s₂, found, onward'⟩ := run_bind_ok onward
  obtain ⟨_, s₃, set, remaining⟩ := run_bind_ok onward'
  cases remaining
  have declared := grown_declare (P := fun _ _ => True) tag isUnion s
  have grown := memberTypes_grows fields s₁
  rw [made] at declared
  rw [found] at grown
  -- No tag waits for the class of the record, so only its own members are set on it.
  have settled : Settled j (tag, isUnion, none, false) s₂ := by
    refine Settled.gained ?_ grown.toGained
    obtain ⟨rfl, rfl⟩ := declare_ok made
    refine ⟨by simp, ?_, fun entry inside => Nat.ne_of_lt (defining.waiting entry inside).2.1⟩
    rw [Classes.record_append_length]
    rfl
  obtain ⟨table, rfl, length, others, own_core⟩ := setFields_ok set
  have core := own_core tag isUnion none false settled.core_eq settled.inside
  have lasts₂ : Lasts s₁.classes.records.length s₂ c := by
    obtain ⟨rfl, rfl⟩ := declare_ok made
    refine ⟨fun k above below => ?_, fun entry inside => ?_⟩
    · rw [List.length_append, List.length_singleton] at above
      exact (lasts.made k (by omega) (length ▸ below)).trans (others k (by omega))
    · exact (lasts.waiting entry inside).trans (others _ (settled.alone entry inside))
  have new : s.classes.records.length ≤ j := Nat.le_of_eq (declare_ok made).1.symm
  obtain ⟨complete, fields_eq⟩ := RecordClass.complete_of_core
    ((lasts.made j new (length ▸ settled.inside)).trans core)
  rw [unfinished_record, lacks_nested_iff, ← members_unfinished_iff each (defining.grown declared) found lasts₂,
    fields_eq]
  simp [complete]

theorem unfinished_iff_lacks (t : TypeExpr) (defining : Defining own r i s)
    (ended : (nativeType t).run s = (.ok (some native), s')) (lasts : Lasts s.classes.records.length s' c)
    (empty : ¬ Unfinished c (.record i)) : Unfinished c native ↔ Lacks own r (Unfinished c) t := by
  induction t using TypeExpr.induction generalizing s s' native with
  | named name quals canonical ih =>
    have named := nativeType_named name quals canonical s
    generalize (nativeType (.named name quals canonical)).run s = answer at named ended
    cases named with
    | tagged cut =>
      obtain ⟨found, between, answered, remaining⟩ := run_bind_ok ended
      cases remaining
      exact tagged_unfinished_iff cut defining answered lasts empty
    | integer cut =>
      cases ended
      rw [lacks_enumeration_iff cut]
      refine iff_of_false (not_unfinished_of_recordIndex? rfl) ?_
      rintro ⟨_, given, -⟩
      cases given
    | enumeration cut =>
      rw [lacks_enumeration_iff cut, ih _ rfl defining ended lasts]
      simp
    | @basic _ simple untagged known =>
      cases simple with
      | none => cases ended
      | some simple =>
        cases ended
        rw [lacks_untagged_iff untagged, known]
        exact iff_of_false (not_unfinished_of_recordIndex? rfl) fun lacks => by cases lacks.1
    | bound untagged unknown bound =>
      cases ended
      rw [lacks_untagged_iff untagged, and_iff_right unknown]
      rw [defining.typeOf?] at bound
      by_cases same : name = own
      · rw [if_pos same] at bound
        cases bound
        exact iff_of_false empty fun lacks => lacks.1 same
      · rw [if_neg same] at bound
        simp [same, bound]
    | canonical untagged unknown unbound =>
      rw [lacks_untagged_iff untagged, and_iff_right unknown, ih _ rfl defining ended lasts]
      rw [defining.typeOf?] at unbound
      by_cases same : name = own
      · rw [if_pos same] at unbound
        cases unbound
      · rw [if_neg same] at unbound
        simp [same, unbound]
    | missing => cases ended
  | pointer pointee _ =>
    refine iff_of_false ?_ fun lacks => by cases lacks
    rcases nativeType_pointer_ok ended with ⟨target, rfl⟩ | ⟨simple, rfl⟩
    · exact not_unfinished_of_recordIndex? rfl
    · exact not_unfinished_of_recordIndex? rfl
  | array element size ih =>
    obtain ⟨found, length, s₁, searched, rfl, grown⟩ := nativeType_array_ok ended
    have first := nativeType_grows element s
    rw [searched] at first
    rw [unfinished_array, lacks_array_iff]
    exact ih defining searched (lasts.back grown (defining.grown first).waiting (Nat.le_refl _))
  | function result parameters variadic _ _ =>
    obtain ⟨types, -, same⟩ := nativeType_function_ok ended
    cases same
    exact iff_of_false (not_unfinished_of_recordIndex? rfl) fun lacks => by cases lacks
  | record body ih =>
    obtain ⟨tag, fields, isUnion, anonymous, location⟩ := body
    cases fields with
    | none =>
      rw [nativeType] at ended
      obtain ⟨j, s₁, made, remaining⟩ := run_bind_ok ended
      cases remaining
      obtain ⟨rfl, rfl⟩ := declare_ok made
      have core := lasts.made s.classes.records.length (Nat.le_refl _) (by simp)
      rw [Classes.record_append_length] at core
      exact iff_of_true (unfinished_record.mpr (.inl (RecordClass.not_complete_of_core core))) .declared
    | some fields =>
      exact nested_unfinished_iff (fun f inside s s' native => ih fields rfl f inside) defining ended lasts
  | stray text =>
    rw [nativeType] at ended
    cases ended

end Search

section Registration

variable {record : Record} {fields : List (Field TypeExpr)} {members : List (Field NativeType)}

/- Whether a bound type holds a record without members may be asked before the class has got its own or afterwards. -/
theorem lacks_fills_iff (fills : Fills i members c c')
    (searched : (∃ m ∈ members, Unfinished c m.type) ↔ ∃ f ∈ fields, Lacks own r (Unfinished c) f.type) :
    Unfinished c' (.record i) ↔ ∃ f ∈ fields, Lacks own r (Unfinished c') f.type := by
  constructor
  · intro unfinished
    obtain ⟨f, inside, lacks⟩ := searched.mp (fills.unfinished_iff.mp unfinished)
    exact ⟨f, inside, lacks.mono fun _ => fills.unfinished⟩
  · rintro ⟨f, inside, lacks⟩
    rcases Classical.em (Unfinished c' (.record i)) with unfinished | finished
    · exact unfinished
    · rw [fills.unfinished_iff] at finished
      refine absurd (searched.mpr ⟨f, inside, lacks.mono fun native unfinished => ?_⟩) finished
      exact (fills.unfinished_before unfinished).resolve_right finished

theorem defineMembers_unfinished_iff (given : record.fields = some fields) (defining : Defining record.name r i s)
    (blank : Settled i (record.name, record.isUnion, none, false) s)
    (ended : (defineMembers i record).run s = (.ok (), s')) :
    Unfinished s'.classes (.record i) ↔ ∃ f ∈ fields, Lacks record.name r (Unfinished s'.classes) f.type := by
  unfold defineMembers at ended
  rw [given] at ended
  obtain ⟨members, mid, found, set⟩ := run_bind_ok ended
  have grown := memberTypes_grows fields s
  rw [found] at grown
  have settled := blank.gained grown.toGained
  obtain ⟨table, rfl, -, others, own_core⟩ := setFields_ok set
  -- The table that the search left, with the class made complete but empty.
  let emptied : RecordClass → RecordClass := fun a => { a with fields := some [] }
  have untouched (j : Nat) (other : j ≠ i) : (mid.classes.update i emptied).record j = mid.classes.record j := by
    rw [Classes.record_update, if_neg fun both => other both.1.symm]
  have fills : Fills i members (mid.classes.update i emptied) table := by
    refine ⟨fun j other => ?_, ?_, ?_⟩
    · rw [untouched j other]
      exact others j other
    · rw [Classes.record_update, if_pos ⟨rfl, settled.inside⟩]
      have core : (emptied (mid.classes.record i)).core = (record.name, record.isUnion, some [], false) := by
        have blank := settled.core_eq
        simp only [RecordClass.core, Prod.mk.injEq] at blank ⊢
        exact ⟨blank.1, blank.2.1, rfl, blank.2.2.2⟩
      exact RecordClass.complete_of_core core
    · exact RecordClass.complete_of_core (own_core _ _ _ _ settled.core_eq settled.inside)
  have lasts : Lasts s.classes.records.length mid (mid.classes.update i emptied) := by
    refine ⟨fun k above _ => ?_, fun entry inside => ?_⟩
    · rw [untouched k (Nat.ne_of_gt (Nat.lt_of_lt_of_le blank.inside above))]
    · rw [untouched _ (settled.alone entry inside)]
  refine lacks_fills_iff fills
    (members_unfinished_iff (fun f _ s s' native searching ended kept => ?_) defining found lasts)
  exact unfinished_iff_lacks f.type searching ended kept fills.not_unfinished

theorem registerRecord_unfinished_iff (waiting : Waiting (fun _ _ => True) 0 r.classes r.pending)
    (given : record.fields = some fields) (ended : (registerRecord record).run r = (.ok true, s')) :
    ∃ i, s'.names.get? record.name = some (.type (.record i)) ∧ (Unfinished s'.classes (.record i) ↔
      ∃ f ∈ fields, Lacks record.name r (Unfinished s'.classes) f.type) := by
  obtain ⟨i, r₁, r₂, taken, defined, rfl⟩ := registerRecord_registered waiting ended
  have blank : Settled i _ (withRecord r₁ record.name i) := taken.settled.congr rfl rfl
  have defining : Defining record.name r i (withRecord r₁ record.name i) := by
    refine ⟨?_, taken.waiting waiting⟩
    obtain ⟨classes, rfl⟩ := taken.rest
    rfl
  have names := (onlyResolves_defineMembers i record).names (withRecord r₁ record.name i)
  rw [defined] at names
  have held := defineMembers_unfinished_iff given defining blank defined
  refine ⟨i, ?_, held⟩
  refine (congrArg (Namespace.get? · record.name) names).trans ?_
  exact (Namespace.get?_insert _ _ _ _).trans (if_pos rfl)

/-- Of a record that was registered, all the records that it holds have their members exactly if its declaration does
not mention, by value, a record that lacks them. -/
theorem registered_complete_iff {calls : List Call} (fresh : r.pending = [])
    (inside : (s, .trial (.record record)) ∈ session r calls) (given : record.fields = some fields)
    (registered : verdict (s, .record record) = some true) :
    ∃ i s', (Step.trial (.record record)).after s = s' ∧ s'.names.get? record.name = some (.type (.record i)) ∧
      ((∀ k, Holds s'.classes (.record i) k → (s'.classes.record k).Complete) ↔
        ∀ f ∈ fields, ¬ Lacks record.name s (Unfinished s'.classes) f.type) := by
  have start : Waiting (fun _ _ => True) 0 r.classes r.pending := fresh ▸ waiting_nil _ _ _
  have waiting := ((session_run r calls).waiting start fun _ _ _ _ _ _ _ _ _ => trivial).1 _ inside
  obtain ⟨s₁, ended⟩ := run_of_verdict registered
  obtain ⟨i, bound, unfinished_iff⟩ := registerRecord_unfinished_iff waiting given ended
  obtain ⟨log, left⟩ := trial_left (.record record) s
  rw [ended] at left
  refine ⟨i, _, left, bound, ?_⟩
  have negated := not_congr unfinished_iff
  simpa [Unfinished] using negated

def pointRecord : Record :=
  { name := "point",
    fields := some [{ name := "x", type := .named "int" [] none }, { name := "y", type := .named "int" [] none }] }

def frameRecord : Record :=
  { name := "frame", fields := some [{ name := "corners", type := .array (.named "struct point" [] none) (some 2) }] }

def frameCalls : List Call := [.register [.record pointRecord], .register [.record frameRecord]]

theorem frameRecord_complete : ∃ s, (s, .trial (.record frameRecord)) ∈ session {} frameCalls ∧
    verdict (s, .record frameRecord) = some true ∧ ∃ i s', (Step.trial (.record frameRecord)).after s = s' ∧
      s'.names.get? "frame" = some (.type (.record i)) ∧
      ∀ k, Holds s'.classes (.record i) k → (s'.classes.record k).Complete := by
  let s := (Call.after (.register [.record pointRecord]) {}).begun
  have inside : (s, .trial (.record frameRecord)) ∈ session {} frameCalls := by
    simp only [frameCalls, session, Call.steps, trials_single]
    exact .tail _ (.head _)
  have registered : verdict (s, .record frameRecord) = some true := by decide +kernel
  obtain ⟨i, s', left, bound, complete_iff⟩ := registered_complete_iff rfl inside rfl registered
  refine ⟨s, inside, registered, i, s', left, bound, complete_iff.mpr fun f member lacks => ?_⟩
  cases List.mem_singleton.mp member
  have point : boundClass? s.names "point" = some 0 := by decide +kernel
  have tagged : splitTag "struct point" = some (if false then .union else .struct, "point") := by decide
  rw [lacks_array_iff, lacks_tagged_iff tagged, point] at lacks
  have unfinished : Unfinished s'.classes (.record 0) := by simpa using lacks.2
  -- The class of `point` has its members, and both are numbers.
  have complete : (s'.classes.record 0).Complete := by
    rw [← left]
    decide +kernel
  have numbers : ((s'.classes.record 0).fields.getD []).all (·.type.recordIndex?.isNone) = true := by
    rw [← left]
    decide +kernel
  rcases unfinished_record.mp unfinished with incomplete | ⟨fields, given, f, member, held⟩
  · exact incomplete complete
  · rw [given] at numbers
    exact not_unfinished_of_recordIndex? (Option.isNone_iff_eq_none.mp (List.all_eq_true.mp numbers f member)) held

def outerRecord : Record :=
  { name := "outer", fields := some [{ name := "x", type := .named "struct inner" [] none }] }

/- The record `inner` is defined nowhere, and still the record that holds it is registered. -/
theorem outerRecord_incomplete : verdict ({}, .record outerRecord) = some true ∧
    ∃ i s', (Step.trial (.record outerRecord)).after {} = s' ∧ s'.names.get? "outer" = some (.type (.record i)) ∧
      ∃ k, Holds s'.classes (.record i) k ∧ ¬ (s'.classes.record k).Complete := by
  have registered : verdict ({}, .record outerRecord) = some true := by decide +kernel
  obtain ⟨s₁, ended⟩ := run_of_verdict registered
  obtain ⟨i, bound, unfinished_iff⟩ := registerRecord_unfinished_iff (waiting_nil _ _ _) rfl ended
  obtain ⟨log, left⟩ := trial_left (.record outerRecord) {}
  rw [ended] at left
  refine ⟨registered, i, _, left, bound, unfinished_iff.mpr ⟨_, .head _, ?_⟩⟩
  have tagged : splitTag "struct inner" = some (if false then .union else .struct, "inner") := by decide
  exact .undefined tagged (by decide) rfl

end Registration

end Register

end CBindings
