import CBindings.HeaderUnit.Declarations
import CBindings.Proofs.BoundName
import CBindings.Proofs.Outcome

/-! Records defined inside other records. Those with a tag are declared in front of the record they stand in,
whatever their depth. -/
namespace CBindings.HeaderUnit

/-- Whether the members of the record at `r` are read with a look into its child `i`: a record that is
defined there, unless it only serves as the type of a member with a name. -/
def opens (u : HeaderUnit) (r : CursorRef) (i : Nat) : Bool :=
  let child := u.cursor (some i)
  child.isRecord && child.isDefinition && (!child.isUnnamed || !(u.memberRecords r).contains (some i))

def definesRecord (u : HeaderUnit) (i : Nat) : Bool :=
  (u.cursor (some i)).isRecord && (u.cursor (some i)).isDefinition

theorem opens_eq (u : HeaderUnit) (r : CursorRef) (i : Nat) : u.opens r i =
    (u.definesRecord i && (!(u.cursor (some i)).isUnnamed || !(u.memberRecords r).contains (some i))) := rfl

/-- A record with a tag, defined at `i` somewhere inside the record at `r`. -/
inductive Nested (u : HeaderUnit) : CursorRef → Nat → Prop where
  | tagged {r : CursorRef} {i : Nat} (child : i ∈ (u.cursor r).children) (opened : u.opens r i = true)
      (named : (u.cursor (some i)).isUnnamed = false) : Nested u r i
  | deeper {r : CursorRef} {i j : Nat} (child : i ∈ (u.cursor r).children) (opened : u.opens r i = true)
      (inner : Nested u (some i) j) : Nested u r j

/-- What becomes of the child `i` of the record at `r`. -/
inductive Adds (u : HeaderUnit) (convert : TypeRef → String → Except Fault TypeExpr)
    (inside : CursorRef → String → Except Fault Members) (r : CursorRef) (name : String) (m : Members) (i : Nat) :
    Members → Prop
  | hoisted {inner} (defined : u.definesRecord i = true) (named : (u.cursor (some i)).isUnnamed = false)
    (read : inside (some i) (u.cursor (some i)).name = .ok inner) :
    Adds u convert inside r name m i { m with
      nested := m.nested ++ inner.nested ++ [.record (inner.record (u.cursor (some i)) (u.cursor (some i)).name)] }
  | memberType (defined : u.definesRecord i = true) (unnamed : (u.cursor (some i)).isUnnamed = true)
    (used : (u.memberRecords r).contains (some i) = true) : Adds u convert inside r name m i m
  | anonymous {inner member whole} (defined : u.definesRecord i = true)
    (unnamed : (u.cursor (some i)).isUnnamed = true) (apart : (u.memberRecords r).contains (some i) = false)
    (read : inside (some i) whole = .ok inner) :
    Adds u convert inside r name m i {
      nested := m.nested ++ inner.nested
      fields := m.fields ++ [⟨member, .record (inner.record (u.cursor (some i)) whole), none⟩]
      anonymous := m.anonymous ++ [member] }
  | field {type} (other : u.definesRecord i = false) (named : isNamedField (u.cursor (some i)) = true)
    (read : convert (u.cursor (some i)).type (name ++ "_" ++ (u.cursor (some i)).name) = .ok type) :
    Adds u convert inside r name m i { m with
      fields := m.fields ++ [⟨(u.cursor (some i)).name, type, (u.cursor (some i)).width⟩] }
  | skipped (other : u.definesRecord i = false) (nameless : isNamedField (u.cursor (some i)) = false) :
    Adds u convert inside r name m i m

theorem addMember_adds {u : HeaderUnit} {convert : TypeRef → String → Except Fault TypeExpr}
    {inside : CursorRef → String → Except Fault Members} {r : CursorRef} {name : String} {m m' : Members}
    {i : Nat} (added : u.addMember convert inside r name m i = .ok m') : u.Adds convert inside r name m i m' := by
  unfold addMember at added
  dsimp only at added
  split at added
  · rename_i defined
    split at added
    · rename_i named
      simp only [Outcome.bind_eq_ok_iff, pure, Except.pure, Except.ok.injEq] at added
      obtain ⟨inner, read, rfl⟩ := added
      exact .hoisted defined (by simpa using named) read
    · rename_i unnamed
      split at added
      · rename_i used
        cases added
        exact .memberType defined (by simpa using unnamed) used
      · rename_i apart
        simp only [Outcome.bind_eq_ok_iff, pure, Except.pure, Except.ok.injEq] at added
        obtain ⟨inner, read, rfl⟩ := added
        exact .anonymous defined (by simpa using unnamed) (by simpa using apart) read
  · rename_i undefined
    have other : u.definesRecord i = false := by simpa [definesRecord] using undefined
    split at added
    · rename_i named
      simp only [Outcome.bind_eq_ok_iff, pure, Except.pure, Except.ok.injEq] at added
      obtain ⟨type, read, rfl⟩ := added
      exact .field other named read
    · rename_i nameless
      cases added
      exact .skipped other (by simpa using nameless)

/-- What conversion makes of the record that is defined at `r`, under a name. -/
def Makes (u : HeaderUnit) (r : CursorRef) (name : String) (d : Declaration) : Prop :=
  ∃ fuel m, u.members fuel r name = .ok m ∧ d = .record (m.record (u.cursor r) name)

theorem Makes.defined {u : HeaderUnit} {r : CursorRef} {name : String} {d : Declaration} (makes : u.Makes r name d) :
    ∃ body, d = .record body ∧ body.fields.isSome = true := by
  obtain ⟨_, m, _, rfl⟩ := makes
  exact ⟨_, rfl, rfl⟩

theorem Makes.boundName? {u : HeaderUnit} {r : CursorRef} {name : String} {d : Declaration}
    (makes : u.Makes r name d) : d.boundName? = some name := by
  obtain ⟨_, m, _, rfl⟩ := makes
  rfl

/-- What conversion makes of the record that is defined at `i`, under its tag. -/
def MakesTagged (u : HeaderUnit) (i : Nat) (d : Declaration) : Prop := u.Makes (some i) (u.cursor (some i)).name d

/-- The child `i` of the record at `r` is looked into, and it is or holds the tagged record at `j`. -/
def LeadsTo (u : HeaderUnit) (r : CursorRef) (i j : Nat) : Prop :=
  u.opens r i = true ∧ (j = i ∧ (u.cursor (some i)).isUnnamed = false ∨ u.Nested (some i) j)

theorem nested_iff_leadsTo (u : HeaderUnit) (r : CursorRef) (j : Nat) :
    u.Nested r j ↔ ∃ i ∈ (u.cursor r).children, u.LeadsTo r i j := by
  constructor
  · intro nested
    cases nested with
    | tagged child opened named => exact ⟨j, child, opened, .inl ⟨rfl, named⟩⟩
    | deeper child opened inner => exact ⟨_, child, opened, .inr inner⟩
  · rintro ⟨i, child, opened, ⟨rfl, named⟩ | inner⟩
    · exact .tagged child opened named
    · exact .deeper child opened inner

/-- `front` is what conversion makes of the tagged records in the children `passed` of the record at `r`. -/
structure Hoisted (u : HeaderUnit) (r : CursorRef) (passed : List Nat) (front : List Declaration) : Prop where
  all : ∀ i ∈ passed, ∀ j, u.LeadsTo r i j → ∃ d ∈ front, u.MakesTagged j d
  only : ∀ d ∈ front, ∃ i ∈ passed, ∃ j, u.LeadsTo r i j ∧ u.MakesTagged j d

namespace Hoisted

variable {u : HeaderUnit} {r : CursorRef} {passed : List Nat} {front : List Declaration} {i : Nat}

theorem closed (before : u.Hoisted r passed front) (closed : u.opens r i = false) :
    u.Hoisted r (passed ++ [i]) front := by
  refine ⟨fun k member j leads => ?_, fun d member => ?_⟩
  · rcases List.mem_append.mp member with earlier | last
    · exact before.all k earlier j leads
    · rw [List.mem_singleton.mp last, LeadsTo, closed] at leads
      exact absurd leads.1 Bool.false_ne_true
  · obtain ⟨k, earlier, made⟩ := before.only d member
    exact ⟨k, List.mem_append_left _ earlier, made⟩

/- The records inside the child come first, then the child itself if it has a tag. -/
theorem opened {inner own : List Declaration} (before : u.Hoisted r passed front) (opened : u.opens r i = true)
    (below : u.Hoisted (some i) (u.cursor (some i)).children inner)
    (tagged : (u.cursor (some i)).isUnnamed = false → ∃ d ∈ own, u.MakesTagged i d)
    (single : ∀ d ∈ own, (u.cursor (some i)).isUnnamed = false ∧ u.MakesTagged i d) :
    u.Hoisted r (passed ++ [i]) (front ++ inner ++ own) := by
  have here : i ∈ passed ++ [i] := List.mem_append_right _ (List.mem_singleton_self i)
  refine ⟨fun k member j leads => ?_, fun d member => ?_⟩
  · rcases List.mem_append.mp member with earlier | last
    · obtain ⟨d, declared, makes⟩ := before.all k earlier j leads
      exact ⟨d, List.mem_append_left _ (List.mem_append_left _ declared), makes⟩
    · rw [List.mem_singleton.mp last] at leads
      obtain ⟨_, ⟨rfl, named⟩ | inside⟩ := leads
      · obtain ⟨d, declared, makes⟩ := tagged named
        exact ⟨d, List.mem_append_right _ declared, makes⟩
      · obtain ⟨k', child, leads⟩ := (nested_iff_leadsTo u _ j).mp inside
        obtain ⟨d, declared, makes⟩ := below.all k' child j leads
        exact ⟨d, List.mem_append_left _ (List.mem_append_right _ declared), makes⟩
  · rcases List.mem_append.mp member with earlier | last
    · rcases List.mem_append.mp earlier with earlier | inside
      · obtain ⟨k, passedBy, made⟩ := before.only d earlier
        exact ⟨k, List.mem_append_left _ passedBy, made⟩
      · obtain ⟨k, child, j, leads, makes⟩ := below.only d inside
        exact ⟨i, here, j, ⟨opened, .inr ((nested_iff_leadsTo u _ j).mpr ⟨k, child, leads⟩)⟩, makes⟩
    · obtain ⟨named, makes⟩ := single d last
      exact ⟨i, here, i, ⟨opened, .inl ⟨rfl, named⟩⟩, makes⟩

theorem step {fuel : Nat} {name : String} {m m' : Members} (before : u.Hoisted r passed m.nested)
    (below : ∀ whole inner, u.members fuel (some i) whole = .ok inner →
      u.Hoisted (some i) (u.cursor (some i)).children inner.nested)
    (added : u.Adds (u.typeExpr fuel) (u.members fuel) r name m i m') :
    u.Hoisted r (passed ++ [i]) m'.nested := by
  cases added with
  | hoisted defined named read =>
    have makes : u.MakesTagged i _ := ⟨fuel, _, read, rfl⟩
    refine before.opened (by simp [opens_eq, defined, named]) (below _ _ read)
      (fun _ => ⟨_, List.mem_singleton_self _, makes⟩) fun d member => ?_
    rw [List.mem_singleton.mp member]
    exact ⟨named, makes⟩
  | anonymous defined unnamed apart read =>
    have opened : u.opens r i = true := by simp only [opens_eq, defined, unnamed, apart]; rfl
    have whole : u.Hoisted r (passed ++ [i]) (m.nested ++ _ ++ []) :=
      before.opened opened (below _ _ read) (by simp [unnamed]) (by simp)
    simpa only [List.append_nil] using whole
  | memberType defined unnamed used =>
    exact before.closed (by simp only [opens_eq, defined, unnamed, used]; rfl)
  | field other => exact before.closed (by simp [opens_eq, other])
  | skipped other => exact before.closed (by simp [opens_eq, other])

end Hoisted

theorem members_hoisted {u : HeaderUnit} (fuel : Nat) (r : CursorRef) (name : String) (m : Members)
    (read : u.members fuel r name = .ok m) : u.Hoisted r (u.cursor r).children m.nested := by
  induction fuel generalizing r name m with
  | zero => cases read
  | succ fuel ih =>
    -- fuel is the induction, since a child is read with less of it than its record
    have start : u.Hoisted r [] ({} : Members).nested := ⟨by simp, by simp⟩
    refine Outcome.foldlM_ok_induction (P := fun passed (m : Members) => u.Hoisted r passed m.nested) ?_
      (u.cursor r).children [] {} m start (by simpa [members] using read)
    intro passed i m m' before added
    exact before.step (fun whole inner => ih (some i) whole inner) (addMember_adds added)

section Front

variable {u : HeaderUnit} {fuel : Nat} {r : CursorRef} {name : String} {m : Members}
  (read : u.members fuel r name = .ok m)

include read

/-- In front of a record stands what conversion makes of the tagged records nested in it. -/
theorem nested_front_all {j : Nat} (nested : u.Nested r j) : ∃ d ∈ m.nested, u.MakesTagged j d := by
  obtain ⟨i, child, leads⟩ := (nested_iff_leadsTo u r j).mp nested
  exact (members_hoisted _ _ _ _ read).all i child j leads

theorem nested_front_only {d : Declaration} (member : d ∈ m.nested) : ∃ j, u.Nested r j ∧ u.MakesTagged j d := by
  obtain ⟨i, child, j, leads, makes⟩ := (members_hoisted _ _ _ _ read).only d member
  exact ⟨j, (nested_iff_leadsTo u r j).mpr ⟨i, child, leads⟩, makes⟩

theorem nested_front_defined {d : Declaration} (member : d ∈ m.nested) :
    ∃ body, d = .record body ∧ body.fields.isSome = true := by
  obtain ⟨_, _, makes⟩ := nested_front_only read member
  exact makes.defined

theorem nested_front_names (tag : String) :
    (∃ d ∈ m.nested, d.boundName? = some tag) ↔ ∃ j, u.Nested r j ∧ (u.cursor (some j)).name = tag := by
  constructor
  · rintro ⟨d, member, bound⟩
    obtain ⟨j, nested, makes⟩ := nested_front_only read member
    exact ⟨j, nested, Option.some.inj (makes.boundName?.symm.trans bound)⟩
  · rintro ⟨j, nested, rfl⟩
    obtain ⟨d, member, makes⟩ := nested_front_all read nested
    exact ⟨d, member, makes.boundName?⟩

end Front

end CBindings.HeaderUnit
