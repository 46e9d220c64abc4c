import CBindings.Proofs.HeaderUnit.Given

/-! What the declarations of a record leave behind. A tagged record that is defined inside is moved in front of it,
unless it stands in a record without a name that a member has as its type. A bit-field keeps its width, unless it has
no name. -/
namespace CBindings.HeaderUnit

variable {u : HeaderUnit} {r : CursorRef} {name : String} {ds : List Declaration}

/-- A record with a tag, defined at `i` anywhere inside the record at `r`. -/
inductive Within (u : HeaderUnit) : CursorRef → Nat → Prop where
  | tagged {r : CursorRef} {i : Nat} (child : i ∈ (u.cursor r).children) (defined : u.definesRecord i = true)
      (named : (u.cursor (some i)).isUnnamed = false) : Within u r i
  | deeper {r : CursorRef} {i j : Nat} (child : i ∈ (u.cursor r).children) (defined : u.definesRecord i = true)
      (inner : Within u (some i) j) : Within u r j

/-- The same behind the type of a member: on the way down there is a record without a name that a member with a name
has as its type. -/
inductive Screened (u : HeaderUnit) : CursorRef → Nat → Prop where
  | memberType {r : CursorRef} {i j : Nat} (child : i ∈ (u.cursor r).children) (defined : u.definesRecord i = true)
      (unnamed : (u.cursor (some i)).isUnnamed = true) (used : (u.memberRecords r).contains (some i) = true)
      (inner : Within u (some i) j) : Screened u r j
  | deeper {r : CursorRef} {i j : Nat} (child : i ∈ (u.cursor r).children) (opened : u.opens r i = true)
      (inner : Screened u (some i) j) : Screened u r j

theorem definesRecord_of_opens {i : Nat} (opened : u.opens r i = true) : u.definesRecord i = true := by
  rw [opens_eq, Bool.and_eq_true] at opened
  exact opened.1

theorem opens_of_named {i : Nat} (defined : u.definesRecord i = true)
    (named : (u.cursor (some i)).isUnnamed = false) : u.opens r i = true := by
  simp [opens_eq, defined, named]

theorem memberType_of_not_opens {i : Nat} (defined : u.definesRecord i = true) (closed : u.opens r i = false) :
    (u.cursor (some i)).isUnnamed = true ∧ (u.memberRecords r).contains (some i) = true := by
  rw [opens_eq, defined, Bool.true_and, Bool.or_eq_false_iff] at closed
  simpa only [Bool.not_eq_eq_eq_not, Bool.not_false] using closed

theorem Nested.within {j : Nat} (nested : u.Nested r j) : u.Within r j := by
  induction nested with
  | tagged child opened named => exact .tagged child (definesRecord_of_opens opened) named
  | deeper child opened _ ih => exact .deeper child (definesRecord_of_opens opened) ih

theorem Screened.within {j : Nat} (screened : u.Screened r j) : u.Within r j := by
  induction screened with
  | memberType child defined _ _ inner => exact .deeper child defined inner
  | deeper child opened _ ih => exact .deeper child (definesRecord_of_opens opened) ih

theorem mem_children_lt {i : Nat} (child : i ∈ (u.cursor r).children) :
    ∃ k < u.cursors.length, r = some k := by
  cases r with
  | none => cases child
  | some k =>
    refine ⟨k, Nat.lt_of_not_le fun beyond => ?_, rfl⟩
    simp [cursor, List.getElem?_eq_none beyond] at child

/- Where every record is looked into that is defined in another one, nothing is screened. -/
theorem not_screened_of_opens {j : Nat} (plain : ∀ k < u.cursors.length, ∀ i ∈ (u.cursor (some k)).children,
    u.definesRecord i = true → u.opens (some k) i = true) : ¬ u.Screened r j := by
  intro screened
  induction screened with
  | memberType child defined unnamed used _ =>
    obtain ⟨k, inside, rfl⟩ := mem_children_lt child
    have opened := plain k inside _ child defined
    rw [opens_eq, defined, unnamed, used] at opened
    exact Bool.false_ne_true opened
  | deeper _ _ _ ih => exact ih

theorem within_iff (j : Nat) : u.Within r j ↔ u.Nested r j ∨ u.Screened r j := by
  constructor
  · intro inside
    induction inside with
    | tagged child defined named => exact .inl (.tagged child (opens_of_named defined named) named)
    | @deeper r i j child defined inner ih =>
      cases opened : u.opens r i with
      | true => exact ih.imp (.deeper child opened) (.deeper child opened)
      | false =>
        obtain ⟨unnamed, used⟩ := memberType_of_not_opens defined opened
        exact .inr (.memberType child defined unnamed used inner)
  · rintro (nested | screened)
    · exact nested.within
    · exact screened.within

theorem recordDeclarations_of_isDefinition (defined : (u.cursor r).isDefinition = true)
    (given : u.recordDeclarations r name = .ok ds) :
    ∃ m, u.members u.depth r name = .ok m ∧ ds = m.nested ++ [.record (m.record (u.cursor r) name)] := by
  obtain ⟨_, whole⟩ | ⟨undefined, _⟩ | ⟨undefined, _⟩ := recordDeclarations_cases given
  · exact whole
  · exact absurd (undefined.symm.trans defined) Bool.false_ne_true
  · exact absurd (undefined.symm.trans defined) Bool.false_ne_true

/-- The last declaration is the record itself, and those in front of it are the tagged records inside that no type of a
member screens. So every tagged record defined inside is declared in front exactly when each screened one has a
namesake that is not screened. -/
theorem within_declared_iff (defined : (u.cursor r).isDefinition = true)
    (given : u.recordDeclarations r name = .ok ds) :
    ∃ front last, ds = front ++ [last] ∧ u.Makes r name last ∧
      (∀ i, u.Nested r i → ∃ d ∈ front, u.MakesTagged i d) ∧
      (∀ d ∈ front, ∃ i, u.Nested r i ∧ u.MakesTagged i d) ∧
      ((∀ i, u.Within r i → ∃ body, .record body ∈ front ∧ body.name = (u.cursor (some i)).name) ↔
        ∀ i, u.Screened r i → ∃ j, u.Nested r j ∧ (u.cursor (some j)).name = (u.cursor (some i)).name) := by
  obtain ⟨m, read, rfl⟩ := recordDeclarations_of_isDefinition defined given
  have declared (tag : String) : (∃ body, .record body ∈ m.nested ∧ body.name = tag) ↔
      ∃ j, u.Nested r j ∧ (u.cursor (some j)).name = tag := by
    rw [← nested_front_names read]
    constructor
    · rintro ⟨body, member, rfl⟩
      exact ⟨_, member, rfl⟩
    · rintro ⟨d, member, bound⟩
      obtain ⟨body, rfl, _⟩ := nested_front_defined read member
      exact ⟨body, member, Option.some.inj bound⟩
  refine ⟨m.nested, _, rfl, ⟨u.depth, m, read, rfl⟩, fun i => nested_front_all read,
    fun d => nested_front_only read, ?_⟩
  simp only [declared, within_iff]
  constructor
  · intro all i screened
    exact all i (.inr screened)
  · rintro namesakes i (nested | screened)
    · exact ⟨i, nested, rfl⟩
    · exact namesakes i screened

/-- `struct outer { struct node { union leaf { int v; }; }; union { struct pair { int a; }; }; };` -/
def nestedHeader : HeaderUnit :=
  { cursors := [{ kind := .record false, name := "outer", isDefinition := true, children := [1, 4] },
                { kind := .record false, name := "node", isDefinition := true, children := [2] },
                { kind := .record true, name := "leaf", isDefinition := true, children := [3] },
                { kind := .field, name := "v", type := some 0 },
                { kind := .record true, isDefinition := true, children := [5] },
                { kind := .record false, name := "pair", isDefinition := true, children := [6] },
                { kind := .field, name := "a", type := some 0 }],
    types := [{ kind := .builtin .int }], top := [0] }

theorem nestedHeader_declared :
    ∃ front last, nestedHeader.recordDeclarations (some 0) "outer" = .ok (front ++ [last]) ∧
      ∀ i, nestedHeader.Within (some 0) i →
        ∃ body, .record body ∈ front ∧ body.name = (nestedHeader.cursor (some i)).name := by
  have given : nestedHeader.recordDeclarations (some 0) "outer" = .ok _ := rfl
  obtain ⟨front, last, split, _, _, _, all⟩ := within_declared_iff (by decide) given
  have unscreened (i : Nat) : ¬ nestedHeader.Screened (some 0) i := not_screened_of_opens (by decide +kernel)
  exact ⟨front, last, split ▸ given, all.mpr fun i screened => absurd screened (unscreened i)⟩

/-- `struct outer { struct { struct inner { int v; } i; } u; };` -/
def screenedHeader : HeaderUnit :=
  { cursors := [{ kind := .record false, name := "outer", isDefinition := true, children := [1, 5] },
                { kind := .record false, isDefinition := true, children := [2, 4] },
                { kind := .record false, name := "inner", isDefinition := true, children := [3] },
                { kind := .field, name := "v", type := some 0 },
                { kind := .field, name := "i", type := some 1 },
                { kind := .field, name := "u", type := some 2 }],
    types := [{ kind := .builtin .int }, { kind := .record, declaration := some 2 },
              { kind := .record, declaration := some 1 }],
    top := [0] }

theorem screenedHeader_loses_inner :
    ∃ ds, screenedHeader.recordDeclarations (some 0) "outer" = .ok ds ∧
      screenedHeader.Within (some 0) 2 ∧ (screenedHeader.cursor (some 2)).name = "inner" ∧
      ¬ ∃ d ∈ ds, d.boundName? = some "inner" := by
  refine ⟨_, rfl, .deeper (i := 1) ?_ ?_ (.tagged ?_ ?_ ?_), ?_, ?_⟩ <;> decide +kernel

section BitFields

def isField (c : Cursor) : Bool := c.kind == .field

/-- The widths of the bit-fields among the children of a record, of those that count. -/
def bitWidths (u : HeaderUnit) (r : CursorRef) (counts : Cursor → Bool) : List Int :=
  (u.cursor r).children.filterMap fun i => if counts (u.cursor (some i)) then (u.cursor (some i)).width else none

theorem not_field_of_definesRecord {i : Nat} (defined : u.definesRecord i = true) :
    isNamedField (u.cursor (some i)) = false := by
  simp only [definesRecord, Cursor.isRecord, Bool.and_eq_true] at defined
  cases kind : (u.cursor (some i)).kind with
  | record _ => simp [isNamedField, kind]
  | _ => simp [kind] at defined

theorem Adds.widths {fuel : Nat} {m m' : Members} {i : Nat}
    (added : u.Adds (u.typeExpr fuel) (u.members fuel) r name m i m') :
    m'.fields.filterMap (·.width) = m.fields.filterMap (·.width) ++
      [i].filterMap fun i => if isNamedField (u.cursor (some i)) then (u.cursor (some i)).width else none := by
  cases added with
  | hoisted defined _ _ => simp [not_field_of_definesRecord defined]
  | memberType defined _ _ => simp [not_field_of_definesRecord defined]
  | anonymous defined _ _ _ => simp [not_field_of_definesRecord defined]
  | field _ named _ => cases width : (u.cursor (some i)).width <;> simp [named, width]
  | skipped _ nameless => simp [nameless]

/-- The members of a record have the widths of its bit-fields with a name, in their order. -/
theorem members_widths {fuel : Nat} {m : Members} (read : u.members fuel r name = .ok m) :
    m.fields.filterMap (·.width) = u.bitWidths r isNamedField := by
  cases fuel with
  | zero => cases read
  | succ fuel =>
    refine Outcome.foldlM_ok_induction (P := fun passed (m : Members) => m.fields.filterMap (·.width) =
        passed.filterMap fun i => if isNamedField (u.cursor (some i)) then (u.cursor (some i)).width else none)
      ?_ (u.cursor r).children [] {} m rfl (by simpa [members] using read)
    intro passed i m m' before added
    rw [(addMember_adds added).widths, before, List.filterMap_append]

theorem filterMap_eq_iff_of_fewer {α β : Type} {f g : α → Option β} (fewer : ∀ a, f a = g a ∨ f a = none)
    (xs : List α) : xs.filterMap f = xs.filterMap g ↔ ∀ a ∈ xs, f a = g a := by
  have shorter (ys : List α) : (ys.filterMap f).length ≤ (ys.filterMap g).length := by
    induction ys with
    | nil => simp
    | cons y ys ih =>
      rcases fewer y with same | missing
      · cases found : g y <;> simp [same, found, ih]
      · cases found : g y <;> simp [missing, found] <;> omega
  induction xs with
  | nil => simp
  | cons x xs ih =>
    rcases fewer x with same | missing
    · cases found : g x <;> simp [same, found, ih]
    · cases found : g x with
      | none => simp [missing, found, ih]
      | some b =>
        constructor
        · intro equal
          have length := congrArg List.length equal
          have most := shorter xs
          simp [missing, found] at length
          omega
        · intro all
          have here := all x List.mem_cons_self
          simp [missing, found] at here

/-- The widths among the members of a record are those of its bit-fields with a name, in their order. They are those of
all its bit-fields exactly when each of them has a name. -/
theorem widths_kept_iff (defined : (u.cursor r).isDefinition = true)
    (given : u.recordDeclarations r name = .ok ds) :
    ∃ front body fields, ds = front ++ [.record body] ∧ body.name = name ∧ body.fields = some fields ∧
      fields.filterMap (·.width) = u.bitWidths r isNamedField ∧
      (fields.filterMap (·.width) = u.bitWidths r isField ↔
        ∀ i ∈ (u.cursor r).children, isField (u.cursor (some i)) = true → (u.cursor (some i)).name = "" →
          (u.cursor (some i)).width = none) := by
  obtain ⟨m, read, rfl⟩ := recordDeclarations_of_isDefinition defined given
  have widths := members_widths read
  refine ⟨m.nested, _, m.fields, rfl, rfl, rfl, widths, ?_⟩
  have named (c : Cursor) : isNamedField c = (isField c && c.name != "") := rfl
  rw [widths, bitWidths, bitWidths, filterMap_eq_iff_of_fewer]
  · refine forall₂_congr fun i _ => ?_
    by_cases nameless : (u.cursor (some i)).name = ""
    · by_cases field : isField (u.cursor (some i)) = true
      · simp [named, nameless, field, eq_comm]
      · simp [named, field]
    · simp [named, nameless]
  · intro i
    by_cases nameless : (u.cursor (some i)).name = ""
    · exact .inr (by simp [named, nameless])
    · exact .inl (by simp [named, nameless])

/-- `struct flags { unsigned mode : 3; union { int i; }; unsigned level : 4; };` -/
def flagsHeader : HeaderUnit :=
  { cursors := [{ kind := .record false, name := "flags", isDefinition := true, children := [1, 2, 4, 5] },
                { kind := .field, name := "mode", type := some 0, width := some 3 },
                { kind := .record true, isDefinition := true, children := [3] },
                { kind := .field, name := "i", type := some 1 },
                { kind := .field, type := some 2 },
                { kind := .field, name := "level", type := some 0, width := some 4 }],
    types := [{ kind := .builtin .unsignedInt }, { kind := .builtin .int },
              { kind := .record, declaration := some 2 }],
    top := [0] }

theorem flagsHeader_widths :
    ∃ front body fields, flagsHeader.recordDeclarations (some 0) "flags" = .ok (front ++ [.record body]) ∧
      body.fields = some fields ∧ fields.filterMap (·.width) = flagsHeader.bitWidths (some 0) isField ∧
      flagsHeader.bitWidths (some 0) isField = [3, 4] := by
  have given : flagsHeader.recordDeclarations (some 0) "flags" = .ok _ := rfl
  obtain ⟨front, body, fields, split, _, own, _, all⟩ := widths_kept_iff (by decide) given
  exact ⟨front, body, fields, split ▸ given, own, all.mpr (by decide), by decide⟩

/-- `struct flags { unsigned mode : 3; unsigned : 5; unsigned level : 4; };` -/
def paddedHeader : HeaderUnit :=
  { cursors := [{ kind := .record false, name := "flags", isDefinition := true, children := [1, 2, 3] },
                { kind := .field, name := "mode", type := some 0, width := some 3 },
                { kind := .field, type := some 0, width := some 5 },
                { kind := .field, name := "level", type := some 0, width := some 4 }],
    types := [{ kind := .builtin .unsignedInt }], top := [0] }

theorem paddedHeader_loses_width :
    ∃ body fields, paddedHeader.recordDeclarations (some 0) "flags" = .ok [.record body] ∧
      body.fields = some fields ∧ fields.filterMap (·.width) = [3, 4] ∧
      paddedHeader.bitWidths (some 0) isField = [3, 5, 4] :=
  ⟨_, _, rfl, rfl, rfl, by decide⟩

end BitFields

end CBindings.HeaderUnit
