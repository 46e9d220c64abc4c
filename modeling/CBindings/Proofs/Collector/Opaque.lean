import CBindings.Proofs.Collector.Names

/-! Records without fields. Whether a record is defined is asked of the header that declares it, while a name is
given once over all headers; so what counts is whether a bare declaration comes before every definition. -/
namespace CBindings

/-- The header defines a struct or union of that tag at its top. -/
def HeaderUnit.DefinesTag (u : HeaderUnit) (tag : String) : Prop :=
  ∃ r ∈ u.top, (u.cursor (some r)).isRecord = true ∧ (u.cursor (some r)).isDefinition = true ∧
    (u.cursor (some r)).name = tag

instance (u : HeaderUnit) (tag : String) : Decidable (u.DefinesTag tag) :=
  inferInstanceAs (Decidable (∃ r ∈ u.top, _))

namespace Collector

namespace Visit

theorem isEnumeration_of_recordOf {v : Visit} {k : CursorRef}
    (stands : v.unit.recordOf (some v.cursor) = some k) : v.isEnumeration = false :=
  beq_eq_false_iff_ne.mpr (HeaderUnit.kind_of_recordOf stands).2

theorem added_opaque_iff (c : Collection) (v : Visit) (tag : String) :
    (∃ d ∈ v.added c, d.IsOpaque tag) ↔ v.admitted? c = some tag ∧ v.unit.OnlyDeclares (some v.cursor) := by
  constructor
  · rintro ⟨d, member, isOpaque⟩
    unfold added at member
    split at member
    · rename_i ds given
      have declared : d ∈ ds := mem_of_mem_fresh member
      cases admitted : v.admitted? c with
      | none => simp [gain, admitted] at given
      | some name =>
        rw [gain_eq admitted] at given
        obtain ⟨_, k, rfl, _⟩ | read := gain_declared given
        · obtain ⟨body, same, _⟩ := isOpaque
          cases (List.mem_singleton.mp declared).symm.trans same
        · obtain ⟨rfl, only⟩ :=
            (HeaderUnit.declarations_opaque_iff (admitted?_goesBy admitted) read).mp ⟨d, declared, isOpaque⟩
          exact ⟨rfl, only⟩
    · cases member
  · rintro ⟨admitted, only⟩
    have new := ((admitted?_eq_some_iff c v tag).mp admitted).2.2.1
    obtain ⟨body, read, same, bare⟩ :=
      HeaderUnit.declarations_of_onlyDeclares c.library (admitted?_goesBy admitted) only
    obtain ⟨k, stands, _⟩ := only
    have given : v.gain c = _ :=
      (gain_eq admitted).trans (gain_of_declarations (HeaderUnit.kind_of_recordOf stands).1 read)
    refine ⟨.record body, ?_, body, rfl, same, bare⟩
    simp [added, given, fresh, Declaration.boundName?, same, new]

/-- A bare declaration: the cursor names a record that its own header never defines, and the filter lets the
name pass. -/
def BarelyDeclares (c : Collection) (v : Visit) (tag : String) : Prop :=
  v.unit.OnlyDeclares (some v.cursor) ∧ (v.before.nameFor v.unit v.cursor v.following).1 = some tag ∧
    tag ≠ "" ∧ c.filter.leavesOut tag false = false

theorem admitted_onlyDeclares_iff (c : Collection) (v : Visit) (tag : String) :
    (v.admitted? c = some tag ∧ v.unit.OnlyDeclares (some v.cursor)) ↔
      v.BarelyDeclares c tag ∧ tag ∉ v.before.seen := by
  rw [admitted?_eq_some_iff]
  constructor
  · rintro ⟨⟨named, nonempty, new, kept⟩, k, stands, only⟩
    exact ⟨⟨⟨k, stands, only⟩, named, nonempty, isEnumeration_of_recordOf stands ▸ kept⟩, new⟩
  · rintro ⟨⟨⟨k, stands, only⟩, named, nonempty, kept⟩, new⟩
    exact ⟨⟨named, nonempty, new, isEnumeration_of_recordOf stands ▸ kept⟩, k, stands, only⟩

/-- The visit meets a definition of the record, and its members can be converted. -/
def Defines (v : Visit) (tag : String) : Prop :=
  (v.unit.cursor (some v.cursor)).isUnnamed = false ∧ (v.unit.cursor (some v.cursor)).name = tag ∧
    (v.unit.cursor (some v.cursor)).isRecord = true ∧ ∃ m, v.unit.Converts (some v.cursor) tag (some v.cursor) m

theorem mem_seen_of_defines {c : Collection} {v : Visit} {tag : String} (defines : v.Defines tag)
    (nonempty : tag ≠ "") (kept : c.filter.leavesOut tag false = false) :
    tag ∈ v.before.seen ∨ tag ∈ v.taken c := by
  obtain ⟨named, same, record, m, converts⟩ := defines
  by_cases old : tag ∈ v.before.seen
  · exact .inl old
  · have other := isEnumeration_of_recordOf converts.1
    have admitted : v.admitted? c = some tag :=
      (admitted?_eq_some_iff c v tag).mpr ⟨by simp [nameFor, named, same], nonempty, old, other ▸ kept⟩
    have read := HeaderUnit.declarations_of_converts c.library (admitted?_goesBy admitted) converts
    have given : v.gain c = _ :=
      (gain_eq admitted).trans (gain_of_declarations (HeaderUnit.kind_of_recordOf converts.1).1 read)
    refine .inr (List.mem_append_left _ ?_)
    simp only [added, given]
    refine (mem_names_fresh_iff _ _ _).mpr ⟨old, (Declaration.mem_names_iff _ _).mpr ?_⟩
    exact ⟨_, List.mem_append_right _ (List.mem_singleton_self _), rfl⟩

end Visit

theorem seen_before {c : Collection} {us : List HeaderUnit} {earlier later : List Visit} {v : Visit}
    (row : allVisits c {} us = earlier ++ v :: later) : v.before.seen = earlier.flatMap (Visit.taken c) := by
  have grown : v.before.seen = _ ++ earlier.flatMap (Visit.taken c) :=
    before_of_allVisits (fun _ _ => rfl) (fun w => (w.after_grown c).2.2) us {} earlier v later row
  simpa using grown

/-- The first visit to take the name is a bare declaration. -/
def DeclaredFirst (c : Collection) (us : List HeaderUnit) (tag : String) : Prop :=
  ∃ earlier v later, allVisits c {} us = earlier ++ v :: later ∧ v.BarelyDeclares c tag ∧
    ∀ w ∈ earlier, tag ∉ w.taken c

theorem opaque_iff_declaredFirst (c : Collection) (us : List HeaderUnit) (tag : String) :
    (∃ d ∈ (walkAll c {} us).declarations, d.IsOpaque tag) ↔ DeclaredFirst c us tag := by
  have inVisit : (∃ d ∈ (walkAll c {} us).declarations, d.IsOpaque tag) ↔
      ∃ v ∈ allVisits c {} us, v.BarelyDeclares c tag ∧ tag ∉ v.before.seen := by
    simp only [mem_declarations_iff, ← Visit.admitted_onlyDeclares_iff, ← Visit.added_opaque_iff]
    constructor
    · rintro ⟨d, ⟨v, visited, added⟩, isOpaque⟩
      exact ⟨v, visited, d, added, isOpaque⟩
    · rintro ⟨v, visited, d, added, isOpaque⟩
      exact ⟨d, ⟨v, visited, added⟩, isOpaque⟩
  rw [inVisit]
  -- what is seen before a visit is what the earlier visits took
  constructor
  · rintro ⟨v, visited, bare, new⟩
    obtain ⟨earlier, later, row⟩ := List.append_of_mem visited
    refine ⟨earlier, v, later, row, bare, fun w member taken => new ?_⟩
    rw [seen_before row]
    exact List.mem_flatMap.mpr ⟨w, member, taken⟩
  · rintro ⟨earlier, v, later, row, bare, first⟩
    refine ⟨v, by simp [row], bare, fun old => ?_⟩
    rw [seen_before row] at old
    obtain ⟨w, member, taken⟩ := List.mem_flatMap.mp old
    exact first w member taken

/-- A record is opaque exactly when a bare declaration is the first to take its name. So an opaque record is one
that no header defines, unless some header does and a bare declaration comes first; definitions met before that
declaration could not be converted. -/
theorem opaque_undefined_iff (c : Collection) (us : List HeaderUnit) (tag : String) :
    ((∃ d ∈ (walkAll c {} us).declarations, d.IsOpaque tag) ↔ DeclaredFirst c us tag) ∧
    (((∃ d ∈ (walkAll c {} us).declarations, d.IsOpaque tag) → ∀ u ∈ us, ¬ u.DefinesTag tag) ↔
      ¬ ((∃ u ∈ us, u.DefinesTag tag) ∧ DeclaredFirst c us tag)) ∧
    ∀ earlier v later, allVisits c {} us = earlier ++ v :: later → v.BarelyDeclares c tag →
      (∀ w ∈ earlier, tag ∉ w.taken c) → ∀ w ∈ earlier, ¬ w.Defines tag := by
  have isFirst := opaque_iff_declaredFirst c us tag
  refine ⟨isFirst, ?_, ?_⟩
  · rw [isFirst]
    constructor
    · rintro undefined ⟨⟨u, member, defines⟩, first⟩
      exact undefined first u member defines
    · intro never first u member defines
      exact never ⟨⟨u, member, defines⟩, first⟩
  · intro earlier v later row bare first w member defines
    obtain ⟨_, _, nonempty, kept⟩ := bare
    obtain ⟨earliest, between, split⟩ := List.append_of_mem member
    have rowAt : allVisits c {} us = earliest ++ w :: (between ++ v :: later) := by simp [row, split]
    rcases Visit.mem_seen_of_defines defines nonempty kept with old | new
    · rw [seen_before rowAt] at old
      obtain ⟨x, before, taken⟩ := List.mem_flatMap.mp old
      exact first x (by simp [split, before]) taken
    · exact first w member new

/-- One header declares a record, the next one defines it. -/
def declaredThenDefined : List HeaderUnit :=
  [{ cursors := [{ kind := .record false, name := "s", location := some ⟨"a.h", 1, some 1⟩ }], top := [0] },
   { cursors := [{ kind := .record false, name := "s", location := some ⟨"b.h", 1, some 1⟩,
                   isDefinition := true, definition := some 0 }], top := [0] }]

theorem opaque_declaredThenDefined :
    (∃ d ∈ (walkAll {} {} declaredThenDefined).declarations, d.IsOpaque "s") ∧
      ∃ u ∈ declaredThenDefined, u.DefinesTag "s" := by
  decide +kernel

end Collector

end CBindings
