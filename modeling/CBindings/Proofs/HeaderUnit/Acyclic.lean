import CBindings.HeaderUnit.Declarations
import CBindings.Proofs.Outcome
import Mathlib.Data.Finset.Card
import Mathlib.Logic.Relation

/-! Units whose types are not made of themselves. Conversion follows references from a type to what it is
made of; where that never comes back, the steps foreseen for it are enough. -/
namespace CBindings.HeaderUnit

open Relation

/-- A type or a cursor that a conversion may come to. -/
inductive Node where
  | type (r : TypeRef)
  | cursor (r : CursorRef)
deriving DecidableEq

/-- What a type is made of. A record with a tag is known by the tag, so nothing inside it counts. -/
def typeParts (u : HeaderUnit) (r : TypeRef) : List Node :=
  let t := u.type r
  match t.kind with
  | .builtin _ => []
  | .pointer =>
    match (u.type (u.canonicalRef t.pointee)).kind with
    | .function _ => [.type (u.canonicalRef t.pointee)]
    | _ => [.type t.pointee]
  | .constantArray | .incompleteArray => [.type t.element]
  | .function prototyped =>
    .type t.result :: if prototyped then t.parameters.map fun p => .type (some p) else []
  | .elaborated => [.type t.named]
  | .record => if (u.cursor t.declaration).isUnnamed then [.cursor t.declaration] else []
  | .enumeration => [.type (u.cursor t.declaration).integerType]
  | .alias => [.type (u.canonicalRef r)]
  | kind => if (u.type (u.canonicalRef r)).kind = kind then [] else [.type (u.canonicalRef r)]

/-- The records defined in a record, and the types of its fields. -/
def recordParts (u : HeaderUnit) (r : CursorRef) : List Node :=
  (u.cursor r).children.filterMap fun i =>
    let child := u.cursor (some i)
    if child.isRecord && child.isDefinition then some (.cursor (some i))
    else if isNamedField child then some (.type child.type)
    else none

def parts (u : HeaderUnit) : Node → List Node
  | .type r => u.typeParts r
  | .cursor r => u.recordParts r

def MadeOf (u : HeaderUnit) (a b : Node) : Prop := b ∈ u.parts a

/-- No type is made of itself, directly or through others. -/
def Acyclic (u : HeaderUnit) : Prop := ∀ a, ¬ TransGen u.MadeOf a a

def nodes (u : HeaderUnit) : List Node :=
  ((List.range u.types.length).map fun i => .type (some i)) ++
    (List.range u.cursors.length).map fun i => .cursor (some i)

theorem type_of_not_mem_nodes {u : HeaderUnit} {r : TypeRef} (outside : .type r ∉ u.nodes) : u.type r = {} := by
  cases r with
  | none => rfl
  | some i =>
    have beyond : u.types.length ≤ i := by simpa [nodes] using outside
    simp [type, List.getElem?_eq_none beyond]

theorem cursor_of_not_mem_nodes {u : HeaderUnit} {r : CursorRef} (outside : .cursor r ∉ u.nodes) :
    u.cursor r = {} := by
  cases r with
  | none => rfl
  | some i =>
    have beyond : u.cursors.length ≤ i := by simpa [nodes] using outside
    simp [cursor, List.getElem?_eq_none beyond]

/- A reference that leads nowhere leads to something without parts. -/
theorem mem_nodes_of_madeOf {u : HeaderUnit} {a b : Node} (made : u.MadeOf a b) : a ∈ u.nodes := by
  by_contra outside
  cases a with
  | type r =>
    have nothing := type_of_not_mem_nodes outside
    simp [MadeOf, parts, typeParts, canonicalRef, nothing] at made
  | cursor r =>
    have nothing := cursor_of_not_mem_nodes outside
    simp [MadeOf, parts, recordParts, nothing] at made

theorem acyclic_of_height {u : HeaderUnit} (height : Node → Nat)
    (lower : ∀ a ∈ u.nodes, ∀ b ∈ u.parts a, height b < height a) : u.Acyclic := by
  have descends {a b : Node} (path : TransGen u.MadeOf a b) : height b < height a := by
    induction path with
    | single made => exact lower _ (mem_nodes_of_madeOf made) _ made
    | tail _ made ih => exact (lower _ (mem_nodes_of_madeOf made) _ made).trans ih
  exact fun a path => absurd (descends path) (Nat.lt_irrefl _)

/-- No more than so many types and cursors stand one inside the other. -/
def Shallow (u : HeaderUnit) (limit : Nat) : Prop :=
  ∃ height : Node → Nat, (∀ a, height a ≤ limit) ∧ ∀ a ∈ u.nodes, ∀ b ∈ u.parts a, height b < height a

theorem Shallow.acyclic {u : HeaderUnit} {limit : Nat} (shallow : u.Shallow limit) : u.Acyclic := by
  obtain ⟨height, -, lower⟩ := shallow
  exact acyclic_of_height height lower

open Classical in
/-- How many types and cursors a node is made of, directly or through others. -/
noncomputable def rank (u : HeaderUnit) (a : Node) : Nat :=
  (u.nodes.toFinset.filter fun b => TransGen u.MadeOf a b).card

theorem rank_le (u : HeaderUnit) (a : Node) : u.rank a ≤ u.types.length + u.cursors.length := by
  classical
  calc u.rank a ≤ u.nodes.toFinset.card := Finset.card_filter_le _ _
    _ ≤ u.nodes.length := u.nodes.toFinset_card_le
    _ = u.types.length + u.cursors.length := by simp [nodes]

theorem rank_lt {u : HeaderUnit} (acyclic : u.Acyclic) {a b : Node} (made : u.MadeOf a b)
    (inside : b ∈ u.nodes) : u.rank b < u.rank a := by
  classical
  apply Finset.card_lt_card
  rw [Finset.ssubset_iff_of_subset]
  · exact ⟨b, by simp [inside, TransGen.single made], by simp [acyclic b]⟩
  · intro d reached
    simp only [Finset.mem_filter] at reached ⊢
    exact ⟨reached.1, reached.2.head made⟩

/-- Fuel that lasts for a conversion that starts at a node. -/
def Enough (u : HeaderUnit) (fuel : Nat) (a : Node) : Prop :=
  0 < fuel ∧ (a ∈ u.nodes → u.rank a + 2 ≤ fuel)

theorem Enough.part {u : HeaderUnit} (acyclic : u.Acyclic) {fuel : Nat} {a b : Node}
    (enough : u.Enough (fuel + 1) a) (made : u.MadeOf a b) : u.Enough fuel b := by
  have whole := enough.2 (mem_nodes_of_madeOf made)
  refine ⟨by omega, fun inside => ?_⟩
  have smaller := rank_lt acyclic made inside
  omega

theorem Enough.more {u : HeaderUnit} {fuel : Nat} {a : Node} (enough : u.Enough fuel a) :
    u.Enough (fuel + 1) a :=
  ⟨by omega, fun inside => by have := enough.2 inside; omega⟩

/- A function type may be converted in the place of a pointer to it. -/
theorem Enough.partOfPart {u : HeaderUnit} (acyclic : u.Acyclic) {fuel : Nat} {a b d : Node}
    (enough : u.Enough (fuel + 1) a) (made : u.MadeOf a b) (inner : u.MadeOf b d) : u.Enough fuel d := by
  have middle := enough.part acyclic made
  cases fuel with
  | zero => exact absurd middle.1 (by omega)
  | succ fuel => exact (middle.part acyclic inner).more

theorem enough_depth (u : HeaderUnit) (a : Node) : u.Enough u.depth a := by
  refine ⟨by simp [depth], fun _ => ?_⟩
  have bound := u.rank_le a
  simp only [depth]
  omega

theorem functionType_ne_endless (u : HeaderUnit) (convert : TypeRef → Except Fault TypeExpr) (r : TypeRef)
    (isFunction : ∃ b, (u.type r).kind = .function b)
    (each : ∀ p, u.MadeOf (.type r) (.type p) → convert p ≠ .error .endless) :
    u.functionType convert r ≠ .error .endless := by
  obtain ⟨b, kind⟩ := isFunction
  have result : convert (u.type r).result ≠ .error .endless :=
    each _ (by simp [MadeOf, parts, typeParts, kind])
  have parameter : ∀ p ∈ (if (u.type r).kind = .function true then (u.type r).parameters else []),
      convert (some p) ≠ .error .endless := by
    intro p member
    apply each
    cases b <;> simp_all [MadeOf, parts, typeParts]
  refine Outcome.bind_ne_error (Outcome.mapM_ne_error _ fun p member => ?_) fun _ => ?_
  · exact Outcome.bind_ne_error (parameter p member) fun _ => by simp [pure, Except.pure]
  · exact Outcome.bind_ne_error result fun _ => by simp [pure, Except.pure]

theorem addMember_ne_endless (u : HeaderUnit) (convert : TypeRef → String → Except Fault TypeExpr)
    (inside : CursorRef → String → Except Fault Members) (r : CursorRef) (name : String) (m : Members)
    (i : Nat) (child : i ∈ (u.cursor r).children)
    (types : ∀ p context, u.MadeOf (.cursor r) (.type p) → convert p context ≠ .error .endless)
    (records : ∀ p context, u.MadeOf (.cursor r) (.cursor p) → inside p context ≠ .error .endless) :
    u.addMember convert inside r name m i ≠ .error .endless := by
  unfold addMember
  dsimp only
  split
  · rename_i defined
    have part : u.MadeOf (.cursor r) (.cursor (some i)) :=
      List.mem_filterMap.mpr ⟨i, child, by simp [defined]⟩
    split
    · exact Outcome.bind_ne_error (records _ _ part) fun _ => by simp [pure, Except.pure]
    · split
      · simp [pure, Except.pure]
      · exact Outcome.bind_ne_error (records _ _ part) fun _ => by simp [pure, Except.pure]
  · rename_i undefined
    split
    · rename_i field
      have part : u.MadeOf (.cursor r) (.type (u.cursor (some i)).type) :=
        List.mem_filterMap.mpr ⟨i, child, by simp [undefined, field]⟩
      exact Outcome.bind_ne_error (types _ _ part) fun _ => by simp [pure, Except.pure]
    · simp [pure, Except.pure]

theorem typeExpr_succ_ne_endless {u : HeaderUnit} (acyclic : u.Acyclic) (fuel : Nat) (r : TypeRef)
    (context : String) (enough : u.Enough (fuel + 1) (.type r))
    (types : ∀ p context, u.Enough fuel (.type p) → u.typeExpr fuel p context ≠ .error .endless)
    (records : ∀ p context, u.Enough fuel (.cursor p) → u.members fuel p context ≠ .error .endless) :
    u.typeExpr (fuel + 1) r context ≠ .error .endless := by
  have ok {α β : Type} (f : α → β) : ∀ a, (pure (f a) : Except Fault β) ≠ .error .endless := by
    simp [pure, Except.pure]
  have one (p : TypeRef) (made : u.MadeOf (.type r) (.type p)) (context : String) :=
    types p context (enough.part acyclic made)
  unfold typeExpr
  dsimp only
  split
  · simp
  · rename_i pointer
    split
    · rename_i b function
      refine functionType_ne_endless u _ _ ⟨b, function⟩ fun p made => types p _ ?_
      refine enough.partOfPart acyclic ?_ made
      simp [MadeOf, parts, typeParts, pointer, function]
    · refine Outcome.bind_ne_error (one _ ?_ _) (ok _)
      simp only [MadeOf, parts, typeParts, pointer]
      exact List.mem_singleton_self _
  · rename_i array
    exact Outcome.bind_ne_error (one _ (by simp [MadeOf, parts, typeParts, array]) _) (ok _)
  · rename_i array
    exact Outcome.bind_ne_error (one _ (by simp [MadeOf, parts, typeParts, array]) _) (ok _)
  · rename_i b function
    exact functionType_ne_endless u _ _ ⟨b, function⟩ fun p made => one p made _
  · rename_i elaborated
    exact one _ (by simp [MadeOf, parts, typeParts, elaborated]) _
  · rename_i record
    split
    · rename_i unnamed
      refine Outcome.bind_ne_error (records _ _ (enough.part acyclic ?_)) (ok _)
      simp [MadeOf, parts, typeParts, record, unnamed]
    · simp
  · rename_i enumeration
    exact Outcome.bind_ne_error (one _ (by simp [MadeOf, parts, typeParts, enumeration]) _) (ok _)
  · rename_i synonym
    exact Outcome.bind_ne_error (one _ (by simp [MadeOf, parts, typeParts, synonym]) _) (ok _)
  · split
    · simp
    · rename_i other
      refine one _ ?_ _
      simp_all [MadeOf, parts, typeParts]

/-- Conversion of a unit whose types are not made of themselves comes to an end. -/
theorem conversion_ne_endless {u : HeaderUnit} (acyclic : u.Acyclic) (fuel : Nat) :
    (∀ r context, u.Enough fuel (.type r) → u.typeExpr fuel r context ≠ .error .endless) ∧
    (∀ r name, u.Enough fuel (.cursor r) → u.members fuel r name ≠ .error .endless) := by
  induction fuel with
  | zero =>
    exact ⟨fun _ _ enough => absurd enough.1 (by omega), fun _ _ enough => absurd enough.1 (by omega)⟩
  | succ fuel ih =>
    refine ⟨fun r context enough => ?_, fun r name enough => ?_⟩
    · exact typeExpr_succ_ne_endless acyclic fuel r context enough ih.1 ih.2
    · unfold members
      refine Outcome.foldlM_ne_error _ (fun i child m => ?_) _
      exact addMember_ne_endless u _ _ r name m i child
        (fun p context made => ih.1 p context (enough.part acyclic made))
        (fun p context made => ih.2 p context (enough.part acyclic made))

section Declarations

variable {u : HeaderUnit} (acyclic : u.Acyclic)
include acyclic

theorem typeOf_ne_endless (r : TypeRef) : u.typeOf r ≠ .error .endless :=
  (conversion_ne_endless acyclic u.depth).1 r _ (enough_depth u _)

theorem recordDeclarations_ne_endless (r : CursorRef) (name : String) :
    u.recordDeclarations r name ≠ .error .endless := by
  unfold recordDeclarations
  dsimp only
  split
  · refine Outcome.bind_ne_error ?_ fun _ => by simp [pure, Except.pure]
    exact (conversion_ne_endless acyclic u.depth).2 r name (enough_depth u _)
  · split <;> simp [pure, Except.pure]

theorem enumerationDeclarations_ne_endless (r : CursorRef) (name : String) :
    u.enumerationDeclarations r name ≠ .error .endless := by
  unfold enumerationDeclarations
  dsimp only
  split
  · simp [pure, Except.pure]
  · refine Outcome.bind_ne_error (typeOf_ne_endless acyclic _) fun type => ?_
    split <;> simp [pure, Except.pure, throw, throwThe, MonadExceptOf.throw]

theorem functionDeclarations_ne_endless (c : Cursor) (library : Option String) :
    u.functionDeclarations c library ≠ .error .endless := by
  unfold functionDeclarations
  split
  · simp [pure, Except.pure]
  · refine Outcome.bind_ne_error (typeOf_ne_endless acyclic _) fun result => ?_
    refine Outcome.bind_ne_error (Outcome.mapM_ne_error _ fun i _ => ?_) fun _ => by simp [pure, Except.pure]
    exact Outcome.bind_ne_error (typeOf_ne_endless acyclic _) fun _ => by simp [pure, Except.pure]

theorem variableDeclarations_ne_endless (c : Cursor) (library : Option String) :
    u.variableDeclarations c library ≠ .error .endless := by
  unfold variableDeclarations
  split
  · simp [pure, Except.pure]
  · exact Outcome.bind_ne_error (typeOf_ne_endless acyclic _) fun _ => by simp [pure, Except.pure]

theorem aliasDeclarations_ne_endless (c : Cursor) : u.aliasDeclarations c ≠ .error .endless := by
  have plain : (do return [.alias { name := c.name, target := ← u.typeOf c.underlying, location := c.location }] :
      Except Fault (List Declaration)) ≠ .error .endless :=
    Outcome.bind_ne_error (typeOf_ne_endless acyclic _) fun _ => by simp [pure, Except.pure]
  have nothing : (pure [] : Except Fault (List Declaration)) ≠ .error .endless := by simp [pure, Except.pure]
  unfold aliasDeclarations
  dsimp only
  split
  · exact nothing
  · split
    · split
      · exact recordDeclarations_ne_endless acyclic _ _
      · split
        · exact plain
        · split
          · exact recordDeclarations_ne_endless acyclic _ _
          · exact nothing
    · split
      · split
        · exact enumerationDeclarations_ne_endless acyclic _ _
        · split
          · exact plain
          · exact nothing
      · exact plain

theorem declarations_ne_endless (r : CursorRef) (name : String) (library : Option String) :
    u.declarations r name library ≠ .error .endless := by
  unfold declarations
  dsimp only
  split
  · exact recordDeclarations_ne_endless acyclic r name
  · exact enumerationDeclarations_ne_endless acyclic r name
  · exact functionDeclarations_ne_endless acyclic _ library
  · exact aliasDeclarations_ne_endless acyclic _
  · exact variableDeclarations_ne_endless acyclic _ library
  · simp

end Declarations

end CBindings.HeaderUnit
