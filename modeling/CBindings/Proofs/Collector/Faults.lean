import CBindings.Proofs.Collector.Names
import CBindings.Proofs.HeaderUnit.Acyclic
import CBindings.Proofs.Literal.Oversized

/-! What ends a collection early. When no type is made of itself, only a macro can: one that is looked at and
has an oversized number for its value. -/
namespace CBindings.Collector

/-- The macro has a value, and its tokens are an oversized number. -/
def OversizedMacro (c : Collection) (cursor : Cursor) (name : String) : Prop :=
  MacroDefinition.hasNoValue name (cursor.tokens.map (·.text)) (some cursor.takesArguments) c.reserved = false ∧
    Literal.OversizedTokens ((cursor.tokens.map (·.text)).drop 1)

theorem macroGain_error_iff (c : Collection) (cursor : Cursor) (name : String) :
    (∃ f, macroGain c cursor name = .error f) ↔ OversizedMacro c cursor name := by
  unfold macroGain OversizedMacro MacroDefinition.classify MacroDefinition.constant
  rw [← Literal.ofTokens_error_iff]
  dsimp only
  generalize cursor.tokens.map (·.text) = tokens
  cases MacroDefinition.hasNoValue name tokens (some cursor.takesArguments) c.reserved with
  | true => simp
  | false =>
    cases read : Literal.ofTokens (tokens.drop 1) with
    | error f =>
      cases f
      simp [bind, Except.bind]
    | ok value =>
      cases value with
      | none => simp [bind, Except.bind, pure, Except.pure]
      | some parsed => simp [bind, Except.bind, pure, Except.pure]

theorem declarationGain_ok {u : HeaderUnit} (acyclic : u.Acyclic) (c : Collection) (r : Nat) (name : String) :
    ∃ g, declarationGain c u r name = .ok g := by
  have finite := HeaderUnit.declarations_ne_endless acyclic (some r) name c.library
  unfold declarationGain
  split
  · exact ⟨_, rfl⟩
  · rename_i endless
    exact absurd endless finite
  · exact ⟨_, rfl⟩

namespace Visit

def Oversized (c : Collection) (v : Visit) : Prop :=
  ∃ name, v.admitted? c = some name ∧ (v.unit.cursor (some v.cursor)).kind = .macroDefinition ∧
    OversizedMacro c (v.unit.cursor (some v.cursor)) name

theorem fault?_iff (c : Collection) (v : Visit) (acyclic : v.unit.Acyclic) :
    (∃ f, v.fault? c = some f) ↔ v.Oversized c := by
  unfold fault? Oversized
  cases admitted : v.admitted? c with
  | none => simp [gain, admitted]
  | some name =>
    simp only [gain_eq admitted, Option.some.injEq, exists_eq_left']
    by_cases isMacro : (v.unit.cursor (some v.cursor)).kind = .macroDefinition
    · rw [gain_of_isMacro isMacro, ← macroGain_error_iff]
      cases macroGain c (v.unit.cursor (some v.cursor)) name with
      | ok g => simp
      | error f => simp [isMacro]
    · obtain ⟨g, given⟩ := declarationGain_ok acyclic c v.cursor name
      simp [gain_of_other isMacro, isMacro, given]

end Visit

theorem unit_of_visitsFrom {c : Collection} {u : HeaderUnit} {s : Collector} {rs : List Nat} {v : Visit}
    (visited : v ∈ visitsFrom c u s rs) : v.unit = u := by
  induction rs generalizing s with
  | nil => simp [visitsFrom] at visited
  | cons r rest ih =>
    rw [visitsFrom] at visited
    rcases List.mem_cons.mp visited with rfl | later
    · rfl
    · split at later
      · cases later
      · exact ih later

theorem unit_of_allVisits {c : Collection} {s : Collector} {us : List HeaderUnit} {v : Visit}
    (visited : v ∈ allVisits c s us) : v.unit ∈ us := by
  induction us generalizing s with
  | nil => simp [allVisits] at visited
  | cons u rest ih =>
    rw [allVisits] at visited
    rcases List.mem_append.mp visited with first | later
    · rw [unit_of_visitsFrom first]
      exact List.mem_cons_self
    · exact List.mem_cons_of_mem u (ih later)

theorem fault_iff_oversized (c : Collection) (us : List HeaderUnit) (acyclic : ∀ u ∈ us, u.Acyclic) :
    (∃ f, (allVisits c {} us).findSome? (Visit.fault? c) = some f) ↔
      ∃ v ∈ allVisits c {} us, v.Oversized c := by
  constructor
  · rintro ⟨f, first⟩
    obtain ⟨v, visited, fault⟩ := List.exists_of_findSome?_eq_some first
    exact ⟨v, visited, (v.fault?_iff c (acyclic _ (unit_of_allVisits visited))).mp ⟨f, fault⟩⟩
  · rintro ⟨v, visited, oversized⟩
    obtain ⟨f, fault⟩ := (v.fault?_iff c (acyclic _ (unit_of_allVisits visited))).mpr oversized
    exact Option.isSome_iff_exists.mp (List.findSome?_isSome_iff.mpr ⟨v, visited, by simp [fault]⟩)

end CBindings.Collector
