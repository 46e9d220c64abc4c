import CBindings.Proofs.HeaderUnit.Nested

/-! What the declarations of a cursor are: those of the record that it stands for, or at most one of its own
name. -/
namespace CBindings.HeaderUnit

/-- The record that a cursor stands for: itself, or the one that an alias is the name of. -/
def recordOf (u : HeaderUnit) (r : CursorRef) : Option CursorRef :=
  let c := u.cursor r
  match c.kind with
  | .record _ => some r
  | .alias =>
    let underlying := u.type c.underlying
    let d := u.cursor underlying.declaration
    if !"__builtin_".toList.isPrefixOf underlying.spelling.toList && d.isRecord &&
        (d.isUnnamed || (d.name == c.name && d.definition.isNone)) then some underlying.declaration
    else none
  | _ => none

/-- A name under which a cursor may be declared. Only records and enumerations are given names. -/
def GoesBy (u : HeaderUnit) (r : CursorRef) (name : String) : Prop :=
  (u.cursor r).isRecord = true ∨ (u.cursor r).kind = .enumeration ∨ (u.cursor r).name = name

theorem recordDeclarations_cases {u : HeaderUnit} {r : CursorRef} {name : String} {ds : List Declaration}
    (given : u.recordDeclarations r name = .ok ds) :
    ((u.cursor r).isDefinition = true ∧ ∃ m, u.members u.depth r name = .ok m ∧
      ds = m.nested ++ [.record (m.record (u.cursor r) name)]) ∨
    ((u.cursor r).isDefinition = false ∧ (u.cursor r).definition ≠ none ∧ ds = []) ∨
    ((u.cursor r).isDefinition = false ∧ (u.cursor r).definition = none ∧
      ∃ body, ds = [.record body] ∧ body.name = name ∧ body.fields = none) := by
  unfold recordDeclarations at given
  dsimp only at given
  split at given
  · rename_i defined
    rw [Outcome.bind_eq_ok_iff] at given
    obtain ⟨m, read, result⟩ := given
    cases result
    exact .inl ⟨defined, m, read, rfl⟩
  · rename_i undefined
    split at given
    · rename_i elsewhere
      cases given
      exact .inr (.inl ⟨by simpa using undefined, Option.isSome_iff_ne_none.mp elsewhere, rfl⟩)
    · rename_i nowhere
      cases given
      exact .inr (.inr ⟨by simpa using undefined, by simpa using nowhere, _, rfl, rfl, rfl⟩)

/-- At most one declaration, under the given name, and no record. -/
def Single (name : String) (ds : List Declaration) : Prop :=
  ds = [] ∨ ∃ d, ds = [d] ∧ d.boundName? = some name ∧ d.isProbed = false ∧ ∀ body, d ≠ .record body

theorem enumerationDeclarations_single {u : HeaderUnit} {r : CursorRef} {name : String}
    {ds : List Declaration} (given : u.enumerationDeclarations r name = .ok ds) : Single name ds := by
  unfold enumerationDeclarations at given
  dsimp only at given
  split at given
  · cases given
    exact .inl rfl
  · rw [Outcome.bind_eq_ok_iff] at given
    obtain ⟨type, _, result⟩ := given
    split at result
    · cases result
      exact .inr ⟨_, rfl, rfl, rfl, by simp⟩
    · cases result

theorem functionDeclarations_single {u : HeaderUnit} {c : Cursor} {library : Option String}
    {ds : List Declaration} (given : u.functionDeclarations c library = .ok ds) : Single c.name ds := by
  unfold functionDeclarations at given
  split at given
  · cases given
    exact .inl rfl
  · simp only [Outcome.bind_eq_ok_iff] at given
    obtain ⟨result, _, parameters, _, whole⟩ := given
    cases whole
    exact .inr ⟨_, rfl, rfl, rfl, by simp⟩

theorem variableDeclarations_single {u : HeaderUnit} {c : Cursor} {library : Option String}
    {ds : List Declaration} (given : u.variableDeclarations c library = .ok ds) : Single c.name ds := by
  unfold variableDeclarations at given
  split at given
  · cases given
    exact .inl rfl
  · rw [Outcome.bind_eq_ok_iff] at given
    obtain ⟨type, _, result⟩ := given
    cases result
    exact .inr ⟨_, rfl, rfl, rfl, by simp⟩

/-- An alias gives what the record gives that it is the name of, else at most one declaration. -/
theorem aliasDeclarations_cases {u : HeaderUnit} {r : CursorRef} (isAlias : (u.cursor r).kind = .alias) :
    (∃ k, u.recordOf r = some k ∧
      u.aliasDeclarations (u.cursor r) = u.recordDeclarations k (u.cursor r).name) ∨
    (u.recordOf r = none ∧
      ∀ ds, u.aliasDeclarations (u.cursor r) = .ok ds → Single (u.cursor r).name ds) := by
  have plain : ∀ ds, (do
      return [.alias { name := (u.cursor r).name, target := ← u.typeOf (u.cursor r).underlying,
                       location := (u.cursor r).location }] : Except Fault (List Declaration)) = .ok ds →
      Single (u.cursor r).name ds := by
    intro ds given
    rw [Outcome.bind_eq_ok_iff] at given
    obtain ⟨type, _, result⟩ := given
    cases result
    exact .inr ⟨_, rfl, rfl, rfl, by simp⟩
  have nothing : ∀ ds, (pure [] : Except Fault (List Declaration)) = .ok ds → Single (u.cursor r).name ds := by
    intro ds given
    cases given
    exact .inl rfl
  unfold aliasDeclarations
  dsimp only
  split
  · rename_i internal
    exact .inr ⟨by simp only [recordOf, isAlias, internal]; rfl, nothing⟩
  · rename_i external
    split
    · rename_i isRecord
      split
      · rename_i unnamed
        exact .inl ⟨_, by simp only [recordOf, isAlias, external, isRecord, unnamed]; rfl, rfl⟩
      · rename_i named
        split
        · rename_i other
          exact .inr ⟨by simp_all [recordOf], plain⟩
        · rename_i same
          split
          · rename_i undefined
            exact .inl ⟨_, by simp_all [recordOf], rfl⟩
          · exact .inr ⟨by simp_all [recordOf], nothing⟩
    · rename_i noRecord
      have none : u.recordOf r = none := by simp only [recordOf, isAlias, noRecord]; simp
      split
      · split
        · exact .inr ⟨none, fun ds given => enumerationDeclarations_single given⟩
        · split
          · exact .inr ⟨none, plain⟩
          · exact .inr ⟨none, nothing⟩
      · exact .inr ⟨none, plain⟩

theorem declarations_of_recordOf {u : HeaderUnit} {r k : CursorRef} {name : String}
    (library : Option String) (goesBy : u.GoesBy r name) (stands : u.recordOf r = some k) :
    u.declarations r name library = u.recordDeclarations k name := by
  unfold declarations
  dsimp only
  split
  · rename_i isUnion record
    have same : k = r := by simpa [recordOf, record] using stands.symm
    rw [same]
  · rename_i kind; simp [recordOf, kind] at stands
  · rename_i kind; simp [recordOf, kind] at stands
  · rename_i kind
    have own : (u.cursor r).name = name := by simpa [GoesBy, Cursor.isRecord, kind] using goesBy
    obtain ⟨k', stands', same⟩ | ⟨none, _⟩ := aliasDeclarations_cases kind
    · rw [same, own, ← Option.some.inj (stands'.symm.trans stands)]
    · rw [none] at stands; cases stands
  · rename_i kind; simp [recordOf, kind] at stands
  · simp only [recordOf] at stands
    cases stands

/-- A cursor that stands for no record gives at most one declaration, of its own name. -/
theorem declarations_single {u : HeaderUnit} {r : CursorRef} {name : String} {library : Option String}
    {ds : List Declaration} (goesBy : u.GoesBy r name) (stands : u.recordOf r = none)
    (given : u.declarations r name library = .ok ds) : Single name ds := by
  unfold declarations at given
  dsimp only at given
  split at given
  · rename_i record; simp [recordOf, record] at stands
  · exact enumerationDeclarations_single given
  · rename_i kind
    have own : (u.cursor r).name = name := by simpa [GoesBy, Cursor.isRecord, kind] using goesBy
    exact own ▸ functionDeclarations_single given
  · rename_i kind
    have own : (u.cursor r).name = name := by simpa [GoesBy, Cursor.isRecord, kind] using goesBy
    obtain ⟨k, stands', _⟩ | ⟨_, single⟩ := aliasDeclarations_cases kind
    · rw [stands'] at stands; cases stands
    · exact own ▸ single ds given
  · rename_i kind
    have own : (u.cursor r).name = name := by simpa [GoesBy, Cursor.isRecord, kind] using goesBy
    exact own ▸ variableDeclarations_single given
  · cases given
    exact .inl rfl

/-- A record that is converted with its members, under the name that the cursor goes by. -/
def Converts (u : HeaderUnit) (r : CursorRef) (name : String) (k : CursorRef) (m : Members) : Prop :=
  u.recordOf r = some k ∧ (u.cursor k).isDefinition = true ∧ u.members u.depth k name = .ok m

/-- A cursor that stands for a record which its unit declares and never defines. -/
def OnlyDeclares (u : HeaderUnit) (r : CursorRef) : Prop :=
  ∃ k, u.recordOf r = some k ∧ (u.cursor k).isDefinition = false ∧ (u.cursor k).definition = none

theorem kind_of_recordOf {u : HeaderUnit} {r k : CursorRef} (stands : u.recordOf r = some k) :
    (u.cursor r).kind ≠ .macroDefinition ∧ (u.cursor r).kind ≠ .enumeration := by
  constructor
  · intro kind
    simp [recordOf, kind] at stands
  · intro kind
    simp [recordOf, kind] at stands

theorem declarations_of_converts {u : HeaderUnit} {r k : CursorRef} {name : String} {m : Members}
    (library : Option String) (goesBy : u.GoesBy r name) (converts : u.Converts r name k m) :
    u.declarations r name library = .ok (m.nested ++ [.record (m.record (u.cursor k) name)]) := by
  obtain ⟨stands, defined, read⟩ := converts
  rw [declarations_of_recordOf library goesBy stands, recordDeclarations]
  simp only [defined, read]
  rfl

theorem declarations_of_onlyDeclares {u : HeaderUnit} {r : CursorRef} {name : String}
    (library : Option String) (goesBy : u.GoesBy r name) (only : u.OnlyDeclares r) :
    ∃ body, u.declarations r name library = .ok [.record body] ∧ body.name = name ∧ body.fields = none := by
  obtain ⟨k, stands, undefined, nowhere⟩ := only
  rw [declarations_of_recordOf library goesBy stands, recordDeclarations]
  simp only [undefined, nowhere]
  exact ⟨_, rfl, rfl, rfl⟩

theorem declarations_isEnumeration {u : HeaderUnit} {r : CursorRef} {name : String} {library : Option String}
    {ds : List Declaration} (kind : (u.cursor r).kind = .enumeration)
    (given : u.declarations r name library = .ok ds) : ∀ d ∈ ds, d.isEnumeration = true := by
  simp only [declarations, kind, enumerationDeclarations] at given
  intro d member
  split at given
  · cases given
    cases member
  · rw [Outcome.bind_eq_ok_iff] at given
    obtain ⟨type, _, result⟩ := given
    split at result
    · cases result
      rw [List.mem_singleton.mp member]
      rfl
    · cases result

theorem declarations_cases {u : HeaderUnit} {r : CursorRef} {name : String} {library : Option String}
    {ds : List Declaration} (goesBy : u.GoesBy r name) (given : u.declarations r name library = .ok ds) :
    (∃ k m, u.Converts r name k m ∧ ds = m.nested ++ [.record (m.record (u.cursor k) name)]) ∨
    (u.OnlyDeclares r ∧ ∃ body, ds = [.record body] ∧ body.name = name ∧ body.fields = none) ∨
    ((∀ k m, ¬ u.Converts r name k m) ∧ ¬ u.OnlyDeclares r ∧ Single name ds) := by
  cases stands : u.recordOf r with
  | none =>
    refine .inr (.inr ⟨fun k m converts => ?_, fun only => ?_, declarations_single goesBy stands given⟩)
    · simp [Converts, stands] at converts
    · simp [OnlyDeclares, stands] at only
  | some k =>
    rw [declarations_of_recordOf library goesBy stands] at given
    obtain ⟨defined, m, read, same⟩ | ⟨undefined, elsewhere, same⟩ | ⟨undefined, nowhere, only⟩ :=
      recordDeclarations_cases given
    · exact .inl ⟨k, m, ⟨stands, defined, read⟩, same⟩
    · refine .inr (.inr ⟨fun k' m converts => ?_, fun only => ?_, .inl same⟩)
      · simp_all [Converts]
      · simp_all [OnlyDeclares]
    · exact .inr (.inl ⟨⟨k, stands, undefined, nowhere⟩, only⟩)

theorem declarations_collected {u : HeaderUnit} {r : CursorRef} {name : String} {library : Option String}
    {ds : List Declaration} (goesBy : u.GoesBy r name) (given : u.declarations r name library = .ok ds) :
    ∀ d ∈ ds, d.isCollected = true := by
  intro d member
  obtain ⟨k, m, converts, rfl⟩ | ⟨_, body, rfl, _⟩ | ⟨_, _, single⟩ := declarations_cases goesBy given
  · rcases List.mem_append.mp member with inner | last
    · obtain ⟨body, rfl, _⟩ := nested_front_defined converts.2.2 inner
      rfl
    · rw [List.mem_singleton.mp last]
      rfl
  · rw [List.mem_singleton.mp member]
    rfl
  · obtain rfl | ⟨d', rfl, bound, unprobed, _⟩ := single
    · cases member
    · rw [List.mem_singleton.mp member]
      simp [Declaration.isCollected, bound, unprobed]

/-- The only declarations of another name than the cursor's are the tagged records nested in it. -/
theorem declarations_boundName_iff {u : HeaderUnit} {r : CursorRef} {name other : String}
    {library : Option String} {ds : List Declaration} (goesBy : u.GoesBy r name)
    (given : u.declarations r name library = .ok ds) (different : other ≠ name) :
    (∃ d ∈ ds, d.boundName? = some other) ↔
      ∃ k m i, u.Converts r name k m ∧ u.Nested k i ∧ (u.cursor (some i)).name = other := by
  obtain ⟨k, m, converts, rfl⟩ | ⟨⟨k, stands, undefined, _⟩, body, rfl, same, _⟩ | ⟨noRecord, _, single⟩ :=
    declarations_cases goesBy given
  · have nested := nested_front_names converts.2.2 other
    have last : Declaration.boundName? (.record (m.record (u.cursor k) name)) ≠ some other :=
      fun same => different (Option.some.inj same).symm
    simp only [List.mem_append, List.mem_singleton, or_and_right, exists_or, exists_eq_left, last, or_false, nested]
    constructor
    · rintro ⟨i, inside, tag⟩
      exact ⟨k, m, i, converts, inside, tag⟩
    · rintro ⟨k', m', i, converts', inside, tag⟩
      cases Option.some.inj (converts.1.symm.trans converts'.1)
      exact ⟨i, inside, tag⟩
  · constructor
    · rintro ⟨d, member, bound⟩
      rw [List.mem_singleton.mp member] at bound
      exact absurd (same ▸ Option.some.inj bound).symm different
    · rintro ⟨k', m, i, converts, _⟩
      cases Option.some.inj (stands.symm.trans converts.1)
      exact absurd converts.2.1 (by simp [undefined])
  · constructor
    · rintro ⟨d, member, bound⟩
      obtain rfl | ⟨d', rfl, bound', _⟩ := single
      · cases member
      · rw [List.mem_singleton.mp member, bound'] at bound
        exact absurd (Option.some.inj bound).symm different
    · rintro ⟨k, m, i, converts, _⟩
      exact absurd converts (noRecord k m)

theorem declarations_opaque_iff {u : HeaderUnit} {r : CursorRef} {name tag : String}
    {library : Option String} {ds : List Declaration} (goesBy : u.GoesBy r name)
    (given : u.declarations r name library = .ok ds) :
    (∃ d ∈ ds, d.IsOpaque tag) ↔ tag = name ∧ u.OnlyDeclares r := by
  obtain ⟨k, m, converts, rfl⟩ | ⟨only, body, rfl, same, bare⟩ | ⟨_, notOnly, single⟩ :=
    declarations_cases goesBy given
  · constructor
    · rintro ⟨d, member, body, rfl, _, bare⟩
      rcases List.mem_append.mp member with inner | last
      · obtain ⟨body', same, defined⟩ := nested_front_defined converts.2.2 inner
        cases same
        simp [bare] at defined
      · cases List.mem_singleton.mp last
        cases bare
    · rintro ⟨_, k', stands, undefined, _⟩
      cases Option.some.inj (stands.symm.trans converts.1)
      exact absurd converts.2.1 (by simp [undefined])
  · constructor
    · rintro ⟨d, member, body', rfl, same', _⟩
      cases List.mem_singleton.mp member
      exact ⟨same'.symm.trans same, only⟩
    · rintro ⟨rfl, _⟩
      exact ⟨_, List.mem_singleton_self _, body, rfl, same, bare⟩
  · constructor
    · rintro ⟨d, member, body, rfl, _⟩
      obtain rfl | ⟨d', rfl, _, _, noRecord⟩ := single
      · cases member
      · exact absurd (List.mem_singleton.mp member).symm (noRecord body)
    · rintro ⟨_, only⟩
      exact absurd only notOnly

end CBindings.HeaderUnit
