import CBindings.Proofs.Collector.Names

/-! Which names pass the filter of a collection. The filter looks at the cursors at the top of a header; tagged
records inside a record are moved in front of it without another look. -/
namespace CBindings.Collector

open Declaration (names)

namespace Visit

theorem admitted?_kept {c : Collection} {v : Visit} {name : String} (admitted : v.admitted? c = some name)
    (other : (v.unit.cursor (some v.cursor)).kind ≠ .enumeration) :
    c.filter.leavesOut name false = false := by
  have kept := ((admitted?_eq_some_iff c v name).mp admitted).2.2.2
  have same : v.isEnumeration = false := beq_eq_false_iff_ne.mpr other
  exact same ▸ kept

/-- The visit declares a tagged record that is nested in the record which its cursor stands for. -/
def Hoists (c : Collection) (v : Visit) (tag : String) : Prop :=
  tag ∉ v.before.seen ∧ ∃ name k m i, v.admitted? c = some name ∧
    v.unit.Converts (some v.cursor) name k m ∧ v.unit.Nested k i ∧ (v.unit.cursor (some i)).name = tag

theorem noted_kept {c : Collection} {v : Visit} {name : String} (member : name ∈ v.noted c) :
    c.filter.leavesOut name false = false := by
  obtain ⟨admitted, given⟩ := noted_admitted member
  rw [gain_eq admitted] at given
  exact admitted?_kept admitted (by simp [gain_computed given])

/-- Of the declarations that a visit adds under a name the filter leaves out, those that are no enumeration are
exactly the hoisted ones. -/
theorem added_leftOut_iff (c : Collection) (v : Visit) (tag : String)
    (leftOut : c.filter.leavesOut tag false = true) :
    (∃ d ∈ v.added c, d.isEnumeration = false ∧ d.boundName? = some tag) ↔ v.Hoists c tag := by
  constructor
  · rintro ⟨d, member, noEnumeration, bound⟩
    unfold added at member
    split at member
    · rename_i ds given
      have declared : d ∈ ds := mem_of_mem_fresh member
      have new := ((mem_names_fresh_iff _ ds tag).mp ((Declaration.mem_names_iff _ tag).mpr ⟨d, member, bound⟩)).1
      cases admitted : v.admitted? c with
      | none => simp [gain, admitted] at given
      | some name =>
        rw [gain_eq admitted] at given
        have goesBy := admitted?_goesBy admitted
        -- a cursor whose own name is left out can only be an enumeration
        have different (other : (v.unit.cursor (some v.cursor)).kind ≠ .enumeration) : tag ≠ name := by
          rintro rfl
          exact absurd (leftOut.symm.trans (admitted?_kept admitted other)) (by simp)
        obtain ⟨isMacro, k, rfl, same, _⟩ | read := gain_declared given
        · rw [List.mem_singleton.mp declared] at bound
          exact absurd ((Option.some.inj bound).symm.trans same) (different (by simp [isMacro]))
        · by_cases enumeration : (v.unit.cursor (some v.cursor)).kind = .enumeration
          · have is := HeaderUnit.declarations_isEnumeration enumeration read d declared
            exact absurd (noEnumeration.symm.trans is) (by simp)
          · obtain ⟨k, m, i, converts, nested, same⟩ :=
              (HeaderUnit.declarations_boundName_iff goesBy read (different enumeration)).mp ⟨d, declared, bound⟩
            exact ⟨new, name, k, m, i, admitted, converts, nested, same⟩
    · cases member
  · rintro ⟨new, name, k, m, i, admitted, converts, nested, same⟩
    -- the tag is among the names of what the record gives, and new, so one of them is added under it
    have read := HeaderUnit.declarations_of_converts c.library (admitted?_goesBy admitted) converts
    have given : v.gain c = _ :=
      (gain_eq admitted).trans (gain_of_declarations (HeaderUnit.kind_of_recordOf converts.1).1 read)
    obtain ⟨e, nestedIn, tagged⟩ := (HeaderUnit.nested_front_names converts.2.2 tag).mpr ⟨i, nested, same⟩
    have declared : tag ∈ names (m.nested ++ [.record (m.record (v.unit.cursor k) name)]) :=
      (Declaration.mem_names_iff _ tag).mpr ⟨e, List.mem_append_left _ nestedIn, tagged⟩
    obtain ⟨d, member, bound⟩ :=
      (Declaration.mem_names_iff _ tag).mp ((mem_names_fresh_iff v.before.seen _ tag).mpr ⟨new, declared⟩)
    refine ⟨d, by simpa only [added, given] using member, ?_, bound⟩
    rcases List.mem_append.mp (mem_of_mem_fresh member) with inner | last
    · obtain ⟨body, rfl, _⟩ := HeaderUnit.nested_front_defined converts.2.2 inner
      rfl
    · rw [List.mem_singleton.mp last]
      rfl

end Visit

/-- What is declared passes the filter, enumerations apart, exactly when no left out tag is hoisted. Macros noted
for the compiler always pass. -/
theorem kept_iff_no_leftOut_hoisted (c : Collection) (us : List HeaderUnit) :
    ((∀ d ∈ (walkAll c {} us).declarations, d.isEnumeration = false →
        ∀ name, d.boundName? = some name → c.filter.leavesOut name false = false) ∧
      ∀ name ∈ (walkAll c {} us).computed, c.filter.leavesOut name false = false) ↔
    ∀ v ∈ allVisits c {} us, ∀ tag, v.Hoists c tag → c.filter.leavesOut tag false = false := by
  constructor
  · rintro ⟨kept, _⟩ v visited tag hoists
    cases leftOut : c.filter.leavesOut tag false with
    | false => rfl
    | true =>
      obtain ⟨d, added, noEnumeration, bound⟩ := (v.added_leftOut_iff c tag leftOut).mpr hoists
      have member := (mem_declarations_iff c us d).mpr ⟨v, visited, added⟩
      exact leftOut.symm.trans (kept d member noEnumeration tag bound)
  · intro none
    refine ⟨fun d member noEnumeration name bound => ?_, fun name member => ?_⟩
    · cases leftOut : c.filter.leavesOut name false with
      | false => rfl
      | true =>
        obtain ⟨v, visited, added⟩ := (mem_declarations_iff c us d).mp member
        have hoists := (v.added_leftOut_iff c name leftOut).mp ⟨d, added, noEnumeration, bound⟩
        exact leftOut.symm.trans (none v visited name hoists)
    · obtain ⟨v, _, noted⟩ := (mem_computed_iff c us name).mp member
      exact Visit.noted_kept noted

/-- A record with a tagged record inside it, of which the tag is to be left out. -/
def outerAroundInner : HeaderUnit :=
  { cursors := [{ kind := .record false, name := "outer", location := some ⟨"a.h", 1, some 1⟩,
                  isDefinition := true, definition := some 0, children := [1] },
                { kind := .record false, name := "inner", location := some ⟨"a.h", 1, some 16⟩,
                  isDefinition := true, definition := some 1 }],
    top := [0] }

def leavingOutInner : Request := { headers := ["a.h"], drop := some "inner" }

theorem leftOut_inner_declared :
    ∃ c, leavingOutInner.collection = .ok c ∧ c.filter.leavesOut "inner" false = true ∧
      ∃ d ∈ (walkAll c {} [outerAroundInner]).declarations,
        d.isEnumeration = false ∧ d.boundName? = some "inner" := by
  have evaluated : (match leavingOutInner.collection with
      | .ok c => c.filter.leavesOut "inner" false &&
          (walkAll c {} [outerAroundInner]).declarations.any fun d =>
            !d.isEnumeration && d.boundName? == some "inner"
      | .error _ => false) = true := by
    decide +kernel
  cases compiled : leavingOutInner.collection with
  | error f => simp [compiled] at evaluated
  | ok c => exact ⟨c, rfl, by simpa [compiled] using evaluated⟩

end CBindings.Collector
