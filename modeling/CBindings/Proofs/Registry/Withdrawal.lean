import CBindings.Proofs.Registry.Atomicity
import CBindings.Proofs.Registry.Moves

/-! Records that fail. The name of the record is taken back, and all other tags wait for the classes that they waited
for; but the record's own tag has lost the class that was to become the record. -/
namespace CBindings.Register

open Outcome

variable {r r' : Registry} {record : Record} {tag : String} {i : Nat} {f : RegistrationFault}

/-- The same names are bound, and tags that are bound to a class wait as they did before. -/
structure BoundTagsKept (r r' : Registry) : Prop where
  names : r'.names = r.names
  length_le : r.classes.records.length ≤ r'.classes.records.length
  waiting : ∃ more, r'.pending = r.pending ++ more ∧ ∀ entry ∈ more, boundClass? r.names entry.1 = none

theorem boundTagsKept_of_same (names : r'.names = r.names)
    (length_le : r.classes.records.length ≤ r'.classes.records.length) (pending : r'.pending = r.pending) :
    BoundTagsKept r r' :=
  ⟨names, length_le, [], by rw [pending, List.append_nil], by simp⟩

theorem boundTagsKept_onClasses {α : Type} {work : ClassWork α}
    (length_le : r.classes.records.length ≤ (work.run r.classes).2.records.length) :
    BoundTagsKept r ((onClasses work).run r).2 := by
  rw [onClasses_run]
  exact boundTagsKept_of_same rfl length_le rfl

theorem boundTagsKept_recordClass (tag : String) (isUnion : Bool) (r : Registry) :
    BoundTagsKept r ((recordClass tag isUnion).run r).2 := by
  rcases recordClass_cases tag isUnion r with ⟨i, -, known⟩ | ⟨unknown, ⟨-, refused⟩ | made⟩
  · rw [known]
    exact boundTagsKept_of_same rfl (Nat.le_refl _) rfl
  · rw [refused]
    exact boundTagsKept_of_same rfl (Nat.le_refl _) rfl
  · rw [made]
    refine ⟨rfl, by simp, [(tag, r.classes.records.length)], rfl, fun entry inside => ?_⟩
    cases List.mem_singleton.mp inside
    exact (Option.or_eq_none_iff.mp unknown).1

theorem BoundTagsKept.trans (r r' r'' : Registry) (first : BoundTagsKept r r') (second : BoundTagsKept r' r'') :
    BoundTagsKept r r'' := by
  obtain ⟨names, length_le, more, same, unbound⟩ := first
  obtain ⟨names', length_le', more', same', unbound'⟩ := second
  refine ⟨names'.trans names, Nat.le_trans length_le length_le', more ++ more', ?_, fun entry inside => ?_⟩
  · rw [same', same, List.append_assoc]
  · rcases List.mem_append.mp inside with earlier | later
    · exact unbound entry earlier
    · rw [← names]
      exact unbound' entry later

theorem boundTagsKept_setFields (i : Nat) (members : List (Field NativeType)) (anonymous : List String)
    (r : Registry) : BoundTagsKept r ((onClasses (ClassWork.setFields i members anonymous)).run r).2 := by
  refine boundTagsKept_onClasses ?_
  rcases set : (ClassWork.setFields i members anonymous).run r.classes with ⟨_, c⟩
  exact Nat.le_of_eq (ClassWork.setFields_run set).1.symm

theorem boundTagsKept_moves : Moves BoundTagsKept where
  refl r := boundTagsKept_of_same rfl (Nat.le_refl _) rfl
  trans := BoundTagsKept.trans
  tag := boundTagsKept_recordClass
  array element length r := by
    refine boundTagsKept_onClasses ?_
    rcases ClassWork.array_run element length r.classes with ⟨_, refused, -⟩ | ⟨_, made, -⟩
    · exact Nat.le_of_eq (by rw [refused])
    · exact Nat.le_of_eq (by rw [made])
  declare name isUnion r := by
    refine boundTagsKept_onClasses ?_
    rcases ClassWork.declare_run name isUnion r.classes with ⟨-, refused⟩ | made
    · exact Nat.le_of_eq (by rw [refused])
    · simp [made]
  fill i members anonymous r _ _ := boundTagsKept_setFields i members anonymous r

/- Only the tag of the record itself is taken off the waiting list, and it does not come back: while the members are
looked for, the name stands for the class. -/
theorem registerRecord_failed_pending (ended : (registerRecord record).run r = (.error f, r')) :
    r.classes.records.length ≤ r'.classes.records.length ∧
      ∃ more, r'.pending = r.pending.filter (·.1 != record.name) ++ more ∧ ∀ entry ∈ more, entry.1 ≠ record.name := by
  have free : r.names.has record.name = false := guarded_failed ended
  rw [registerRecord_free free] at ended
  rcases found : (takePending record).run r with ⟨result, r₁⟩
  have taken : r.classes.records.length ≤ r₁.classes.records.length ∧
      r₁.pending = r.pending.filter (·.1 != record.name) := by
    rcases takePending_cases record r with ⟨_, -, -, waited⟩ | ⟨-, declared⟩
    · cases found.symm.trans waited
      exact ⟨Nat.le_refl _, rfl⟩
    · have kept := boundTagsKept_moves.declare record.name record.isUnion
        { r with pending := r.pending.filter (·.1 != record.name) }
      rw [declared, onClasses_run] at found
      rw [onClasses_run] at kept
      cases found
      exact ⟨kept.length_le, rfl⟩
  rw [found] at ended
  cases result with
  | error f' =>
    cases ended
    exact ⟨taken.1, [], by rw [taken.2, List.append_nil], by simp⟩
  | ok i =>
    have kept : BoundTagsKept (withRecord r₁ record.name i)
        ((defineMembers i record).run (withRecord r₁ record.name i)).2 :=
      boundTagsKept_moves.defineMembers fun members r' _ _ => boundTagsKept_setFields i members record.anonymous r'
    dsimp only at ended
    rcases defined : (defineMembers i record).run (withRecord r₁ record.name i) with ⟨result', r₂⟩
    rw [defined] at ended kept
    cases result' with
    | ok _ => cases ended
    | error f' =>
      cases ended
      obtain ⟨-, length_le, more, same, unbound⟩ := kept
      refine ⟨Nat.le_trans taken.1 length_le, more, same.trans (by rw [← taken.2]; rfl), fun entry inside own => ?_⟩
      have bound := unbound entry inside
      rw [own, boundClass?, withRecord, Namespace.get?_insert, if_pos rfl] at bound
      cases bound

theorem lookup_eq_none_of_absent {name : String} {entries : List (String × Nat)}
    (absent : ∀ entry ∈ entries, entry.1 ≠ name) : entries.lookup name = none := by
  refine List.lookup_eq_none_iff.mpr fun entry inside => ?_
  exact bne_iff_ne.mpr (absent entry inside).symm

theorem registerRecord_failed_lookup (ended : (registerRecord record).run r = (.error f, r'))
    (waits : r.pending.lookup tag = some i) :
    r'.pending.lookup tag = if tag = record.name then none else some i := by
  obtain ⟨-, more, same, absent⟩ := registerRecord_failed_pending ended
  rw [same, List.lookup_append]
  by_cases own : tag = record.name
  · have taken : (r.pending.filter (·.1 != record.name)).lookup record.name = none :=
      lookup_eq_none_of_absent fun entry inside => bne_iff_ne.mp (List.mem_filter.mp inside).2
    rw [own, taken, lookup_eq_none_of_absent absent, if_pos rfl, Option.none_or]
  · rw [if_neg own, Namespace.lookup_filter_ne own, waits, Option.some_or]

theorem get?_of_failed (ended : (registerRecord record).run r = (.error f, r')) :
    r'.names = r.names ∧ r.names.get? record.name = none := by
  have free : r.names.has record.name = false := guarded_failed ended
  obtain ⟨_, _, _, rfl⟩ := registerRecord_failed ended
  exact ⟨rfl, by simpa [Namespace.has] using free⟩

/- The names are the same before and after, so the waiting list decides. -/
theorem registerRecord_failed_tagClass? (ended : (registerRecord record).run r = (.error f, r'))
    (waits : r.pending.lookup tag = some i) :
    tagClass? r' tag = if tag = record.name then none else tagClass? r tag := by
  obtain ⟨names, unbound⟩ := get?_of_failed ended
  rw [tagClass?, tagClass?, names, registerRecord_failed_lookup ended waits, waits]
  by_cases own : tag = record.name
  · rw [if_pos own, if_pos own, own, boundClass?, unbound]
    rfl
  · rw [if_neg own, if_neg own]

/- Earlier mentions of the record's own tag led to the class `i`, and later ones lead to a new class. -/
theorem registerRecord_failed_own {isUnion : Bool} (ended : (registerRecord record).run r = (.error f, r'))
    (waits : r.pending.lookup record.name = some i) (made : i < r.classes.records.length) :
    ((recordClass record.name isUnion).run r).1 = .ok (.record i) ∧
      ((recordClass record.name isUnion).run r').1 ≠ .ok (.record i) := by
  obtain ⟨-, unbound⟩ := get?_of_failed ended
  obtain ⟨longer, -⟩ := registerRecord_failed_pending ended
  have unknown := registerRecord_failed_tagClass? ended waits
  rw [if_pos rfl] at unknown
  have known : tagClass? r record.name = some i := by
    rw [tagClass?, boundClass?, unbound]
    exact waits
  refine ⟨by rw [recordClass_run, known], ?_⟩
  rcases recordClass_cases record.name isUnion r' with ⟨_, found, -⟩ | ⟨-, ⟨-, refused⟩ | renewed⟩
  · cases unknown.symm.trans found
  · rw [refused]
    simp
  · rw [renewed]
    intro same
    injection same with same
    injection same with same
    omega

/-- A record that fails leaves every waiting tag its class, and later mentions of the tag find that class, exactly if
the tag is not the record's own. -/
theorem failed_record_keeps_waiting_iff {isUnion : Bool} (ended : (registerRecord record).run r = (.error f, r'))
    (waits : r.pending.lookup tag = some i) (made : i < r.classes.records.length) :
    (r'.pending.lookup tag = some i ↔ tag ≠ record.name) ∧
      (((recordClass tag isUnion).run r').1 = ((recordClass tag isUnion).run r).1 ↔ tag ≠ record.name) := by
  have left := registerRecord_failed_lookup ended waits
  by_cases own : tag = record.name
  · subst own
    obtain ⟨before, after⟩ := registerRecord_failed_own ended waits made
    rw [if_pos rfl] at left
    refine ⟨iff_of_false (by simp [left]) (not_not_intro rfl), iff_of_false ?_ (not_not_intro rfl)⟩
    rw [before]
    exact after
  · have known := registerRecord_failed_tagClass? ended waits
    rw [if_neg own] at left known
    refine ⟨iff_of_true left own, iff_of_true ?_ own⟩
    have before : (tagClass? r tag).isSome = true := by simp [tagClass?, waits]
    obtain ⟨k, class_eq⟩ := Option.isSome_iff_exists.mp before
    rw [recordClass_run, recordClass_run, known, class_eq]

/-- Two tags were mentioned and wait for their records. -/
def waitingTags : Registry :=
  { classes := { records := [{ name := "node" }, { name := "edge" }] }, pending := [("node", 0), ("edge", 1)] }

/-- The type of the member is unknown. -/
def brokenRecord : Record :=
  { name := "node", fields := some [{ name := "value", type := .named "missing" [] none }] }

theorem brokenRecord_fails : ∃ f r', (registerRecord brokenRecord).run waitingTags = (.error f, r') := by
  have failed : verdict (waitingTags, .record brokenRecord) = none := by decide +kernel
  change ((registerRecord brokenRecord).run waitingTags).1.toOption = none at failed
  rcases ended : (registerRecord brokenRecord).run waitingTags with ⟨result, r'⟩
  rw [ended] at failed
  cases result with
  | ok done => cases failed
  | error f => exact ⟨f, r', rfl⟩

theorem brokenRecord_edge_waits : ∃ f r', (registerRecord brokenRecord).run waitingTags = (.error f, r') ∧
    r'.pending.lookup "edge" = some 1 ∧
    ((recordClass "edge" false).run r').1 = ((recordClass "edge" false).run waitingTags).1 := by
  obtain ⟨f, r', ended⟩ := brokenRecord_fails
  have waits : waitingTags.pending.lookup "edge" = some 1 := by decide
  obtain ⟨pending, mentions⟩ := failed_record_keeps_waiting_iff ended waits (by decide)
  have apart : "edge" ≠ brokenRecord.name := by decide
  exact ⟨f, r', ended, pending.mpr apart, mentions.mpr apart⟩

/- The tag `node` waits for the class 0 before its record fails, and for none afterwards. -/
theorem brokenRecord_node_lost : ∃ f r', (registerRecord brokenRecord).run waitingTags = (.error f, r') ∧
    waitingTags.pending.lookup "node" = some 0 ∧ r'.pending.lookup "node" = none ∧
    ((recordClass "node" false).run waitingTags).1 = .ok (.record 0) ∧
    ((recordClass "node" false).run r').1 ≠ .ok (.record 0) := by
  obtain ⟨f, r', ended⟩ := brokenRecord_fails
  have waits : waitingTags.pending.lookup brokenRecord.name = some 0 := by decide
  have lost := registerRecord_failed_lookup ended waits
  rw [if_pos rfl] at lost
  exact ⟨f, r', ended, waits, lost, registerRecord_failed_own ended waits (by decide)⟩

end CBindings.Register
