import CBindings.Proofs.Collector.Visits

/-! Names of what is collected. Declarations and noted macros take their names out of one set, so no name is
ever given twice. -/
namespace CBindings.Collector

open Declaration (names names_cons_some names_cons_none)

/-- Those of some declarations that are added when the names `seen` are taken. -/
def fresh (seen : List String) : List Declaration → List Declaration
  | [] => []
  | d :: rest =>
    match d.boundName? with
    | none => fresh seen rest
    | some name => if seen.contains name then fresh seen rest else d :: fresh (seen ++ [name]) rest

theorem mem_of_mem_fresh {seen : List String} {ds : List Declaration} {d : Declaration}
    (member : d ∈ fresh seen ds) : d ∈ ds := by
  fun_induction fresh seen ds with
  | case1 => cases member
  | case2 seen e rest _ ih => exact List.mem_cons_of_mem e (ih member)
  | case3 seen e rest name _ _ ih => exact List.mem_cons_of_mem e (ih member)
  | case4 seen e rest name _ _ ih =>
    rcases List.mem_cons.mp member with same | later
    · exact same ▸ List.mem_cons_self
    · exact List.mem_cons_of_mem e (ih later)

theorem mem_names_fresh_iff (seen : List String) (ds : List Declaration) (name : String) :
    name ∈ names (fresh seen ds) ↔ name ∉ seen ∧ name ∈ names ds := by
  fun_induction fresh seen ds with
  | case1 => simp [names]
  | case2 seen e rest unbound ih => rw [ih, names_cons_none unbound]
  | case3 seen e rest name' bound taken ih =>
    have taken : name' ∈ seen := by simpa using taken
    rw [ih, names_cons_some bound, List.mem_cons]
    constructor
    · rintro ⟨new, member⟩
      exact ⟨new, .inr member⟩
    · rintro ⟨new, rfl | member⟩
      · exact absurd taken new
      · exact ⟨new, member⟩
  | case4 seen e rest name' bound free ih =>
    have free : name' ∉ seen := by simpa using free
    rw [names_cons_some bound, names_cons_some bound, List.mem_cons, List.mem_cons, ih]
    by_cases same : name = name'
    · simp [same, free]
    · simp [same]

theorem names_fresh_nodup (seen : List String) (ds : List Declaration) : (names (fresh seen ds)).Nodup := by
  fun_induction fresh seen ds with
  | case1 => simp [names]
  | case2 seen e rest none ih => exact ih
  | case3 seen e rest name bound taken ih => exact ih
  | case4 seen e rest name bound free ih =>
    have later : name ∉ names (fresh (seen ++ [name]) rest) := by simp [mem_names_fresh_iff]
    rw [names_cons_some bound]
    exact List.nodup_cons.mpr ⟨later, ih⟩

theorem addAll_eq (s : Collector) (ds : List Declaration) (collected : ∀ d ∈ ds, d.isCollected = true) :
    s.addAll ds = { s with seen := s.seen ++ names (fresh s.seen ds),
                           declarations := s.declarations ++ fresh s.seen ds } := by
  induction ds generalizing s with
  | nil => simp [addAll, fresh, names]
  | cons d rest ih =>
    obtain ⟨name, bound⟩ := Declaration.exists_boundName? (collected d List.mem_cons_self)
    have others := ih (s.add d) fun e member => collected e (List.mem_cons_of_mem d member)
    have first : s.addAll (d :: rest) = (s.add d).addAll rest := rfl
    rw [first, others]
    by_cases taken : s.seen.contains name = true
    · have same : s.add d = s := by simp only [add, Declaration.name?_of_boundName? bound, taken, ite_true]
      simp only [same, fresh, bound, taken, ite_true]
    · have grown : s.add d = { s with seen := s.seen ++ [name], declarations := s.declarations ++ [d] } := by
        simp only [add, Declaration.name?_of_boundName? bound, taken]
        simp
      simp only [grown, fresh, bound, taken]
      simp [names_cons_some bound]

theorem constant_ok {name : String} {tokens : List String} {location : Option Location} {k : Constant}
    (read : MacroDefinition.constant name tokens location = .ok k) : k.name = name ∧ k.probed = false := by
  unfold MacroDefinition.constant at read
  split at read
  · cases read
  · cases read
  · cases read
    exact ⟨rfl, rfl⟩

theorem macroGain_cases {c : Collection} {cursor : Cursor} {name : String} {g : Gain}
    (given : macroGain c cursor name = .ok g) :
    g = .nothing ∨ (∃ reason, g = .refused reason) ∨ g = .computed ∨
      ∃ k, g = .declared [.constant k] ∧ k.name = name ∧ k.probed = false := by
  unfold macroGain at given
  dsimp only at given
  split at given
  · cases given
  · cases given
    exact .inl rfl
  · cases given
    exact .inr (.inr (.inl rfl))
  · split at given
    · rename_i k read
      cases given
      exact .inr (.inr (.inr ⟨k, rfl, constant_ok read⟩))
    · cases given
    · cases given
      exact .inr (.inl ⟨_, rfl⟩)

theorem declarationGain_cases {c : Collection} {u : HeaderUnit} {r : Nat} {name : String} {g : Gain}
    (given : declarationGain c u r name = .ok g) :
    g = .nothing ∨ (∃ reason, g = .refused reason) ∨
      ∃ ds, g = .declared ds ∧ u.declarations (some r) name c.library = .ok ds := by
  unfold declarationGain at given
  split at given
  · rename_i ds declared
    cases given
    exact .inr (.inr ⟨ds, rfl, declared⟩)
  · cases given
  · cases given
    split
    · exact .inl rfl
    · exact .inr (.inl ⟨_, rfl⟩)

theorem gain_of_isMacro {u : HeaderUnit} {r : Nat} (isMacro : (u.cursor (some r)).kind = .macroDefinition)
    (c : Collection) (name : String) : gain c u r name = macroGain c (u.cursor (some r)) name := by
  simp [gain, isMacro]

theorem gain_of_other {u : HeaderUnit} {r : Nat} (noMacro : (u.cursor (some r)).kind ≠ .macroDefinition)
    (c : Collection) (name : String) : gain c u r name = declarationGain c u r name := by
  simp [gain, noMacro]

theorem gain_declared {c : Collection} {u : HeaderUnit} {r : Nat} {name : String} {ds : List Declaration}
    (given : gain c u r name = .ok (.declared ds)) :
    ((u.cursor (some r)).kind = .macroDefinition ∧
      ∃ k, ds = [.constant k] ∧ k.name = name ∧ k.probed = false) ∨
    u.declarations (some r) name c.library = .ok ds := by
  by_cases isMacro : (u.cursor (some r)).kind = .macroDefinition
  · rw [gain_of_isMacro isMacro] at given
    obtain none | ⟨_, none⟩ | none | ⟨k, same, constant⟩ := macroGain_cases given
    · cases none
    · cases none
    · cases none
    · cases same
      exact .inl ⟨isMacro, k, rfl, constant⟩
  · rw [gain_of_other isMacro] at given
    obtain none | ⟨_, none⟩ | ⟨ds', same, declared⟩ := declarationGain_cases given
    · cases none
    · cases none
    · cases same
      exact .inr declared

theorem gain_computed {c : Collection} {u : HeaderUnit} {r : Nat} {name : String}
    (given : gain c u r name = .ok .computed) : (u.cursor (some r)).kind = .macroDefinition := by
  by_cases isMacro : (u.cursor (some r)).kind = .macroDefinition
  · exact isMacro
  · rw [gain_of_other isMacro] at given
    obtain none | ⟨_, none⟩ | ⟨_, none, _⟩ := declarationGain_cases given <;> cases none

theorem gain_of_declarations {c : Collection} {u : HeaderUnit} {r : Nat} {name : String}
    {ds : List Declaration} (noMacro : (u.cursor (some r)).kind ≠ .macroDefinition)
    (declared : u.declarations (some r) name c.library = .ok ds) :
    gain c u r name = .ok (.declared ds) := by
  simp [gain_of_other noMacro, declarationGain, declared]

theorem gain_collected {c : Collection} {u : HeaderUnit} {r : Nat} {name : String} {ds : List Declaration}
    (goesBy : u.GoesBy (some r) name) (given : gain c u r name = .ok (.declared ds)) :
    ∀ d ∈ ds, d.isCollected = true := by
  obtain ⟨_, k, rfl, _, unprobed⟩ | declared := gain_declared given
  · intro d member
    rw [List.mem_singleton.mp member]
    simp [Declaration.isCollected, Declaration.boundName?, Declaration.isProbed, unprobed]
  · exact HeaderUnit.declarations_collected goesBy declared

namespace Visit

theorem admitted?_eq_some_iff (c : Collection) (v : Visit) (name : String) :
    v.admitted? c = some name ↔
      (v.before.nameFor v.unit v.cursor v.following).1 = some name ∧ name ≠ "" ∧ name ∉ v.before.seen ∧
        c.filter.leavesOut name v.isEnumeration = false := by
  simp [admitted?, Option.filter_eq_some_iff, admits, and_assoc]

theorem admitted?_goesBy {c : Collection} {v : Visit} {name : String} (admitted : v.admitted? c = some name) :
    v.unit.GoesBy (some v.cursor) name :=
  nameFor_goesBy ((admitted?_eq_some_iff c v name).mp admitted).1

theorem gain_eq {c : Collection} {v : Visit} {name : String} (admitted : v.admitted? c = some name) :
    v.gain c = Collector.gain c v.unit v.cursor name := by
  simp [gain, admitted]

def added (c : Collection) (v : Visit) : List Declaration :=
  match v.gain c with
  | .ok (.declared ds) => fresh v.before.seen ds
  | _ => []

/-- The macro that a visit notes for the compiler. -/
def noted (c : Collection) (v : Visit) : List String :=
  match v.admitted? c, v.gain c with
  | some name, .ok .computed => [name]
  | _, _ => []

def taken (c : Collection) (v : Visit) : List String := names (v.added c) ++ v.noted c

/-- All that a visit does to what is collected. -/
theorem after_grown (c : Collection) (v : Visit) :
    (v.after c).declarations = v.before.declarations ++ v.added c ∧
    (v.after c).computed = v.before.computed ++ v.noted c ∧
    (v.after c).seen = v.before.seen ++ v.taken c := by
  obtain ⟨n, same⟩ := nameFor_same v.before v.unit v.cursor v.following
  cases admitted : v.admitted? c with
  | none => simp [after, added, noted, taken, gain, admitted, same, names]
  | some name =>
    have goesBy := admitted?_goesBy admitted
    cases given : Collector.gain c v.unit v.cursor name with
    | error f => simp [after, added, noted, taken, gain, admitted, given, same, names]
    | ok g =>
      cases g with
      | nothing => simp [after, added, noted, taken, gain, admitted, given, same, take, names]
      | refused reason =>
        simp only [after, added, noted, taken, gain, admitted, given, same, take, note]
        split <;> simp [names]
      | computed => simp [after, added, noted, taken, gain, admitted, given, same, take, names]
      | declared ds =>
        simp [after, added, noted, taken, gain, admitted, given, same, take,
          addAll_eq _ ds (gain_collected goesBy given)]

theorem added_collected (c : Collection) (v : Visit) : ∀ d ∈ v.added c, d.isCollected = true := by
  intro d member
  unfold added at member
  split at member
  · rename_i ds given
    cases admitted : v.admitted? c with
    | none => simp [gain, admitted] at given
    | some name =>
      simp only [gain, admitted] at given
      exact gain_collected (admitted?_goesBy admitted) given d (mem_of_mem_fresh member)
  · cases member

theorem noted_admitted {c : Collection} {v : Visit} {name : String} (member : name ∈ v.noted c) :
    v.admitted? c = some name ∧ v.gain c = .ok .computed := by
  unfold noted at member
  split at member
  · rename_i admitted given
    rw [List.mem_singleton.mp member]
    exact ⟨admitted, given⟩
  · cases member

theorem not_mem_seen_of_taken {c : Collection} {v : Visit} {name : String} (member : name ∈ v.taken c) :
    name ∉ v.before.seen := by
  rcases List.mem_append.mp member with declared | noted
  · unfold added at declared
    split at declared
    · exact ((mem_names_fresh_iff _ _ _).mp declared).1
    · cases declared
  · exact ((admitted?_eq_some_iff c v name).mp (noted_admitted noted).1).2.2.1

theorem taken_nodup (c : Collection) (v : Visit) : (v.taken c).Nodup := by
  unfold taken added noted
  split
  · rename_i ds given
    simpa [given] using names_fresh_nodup v.before.seen ds
  · split <;> simp [names]

end Visit

/-- Each name is given once, to a declaration or to a noted macro, and is marked as seen. -/
structure Consistent (s : Collector) : Prop where
  collected : ∀ d ∈ s.declarations, d.isCollected = true
  seen : s.seen.Perm (names s.declarations ++ s.computed)
  distinct : s.seen.Nodup

theorem consistent_empty : Consistent {} := ⟨by simp, by simp [names], by simp⟩

theorem consistent_after (c : Collection) (v : Visit) (before : v.before.Consistent) :
    (v.after c).Consistent := by
  obtain ⟨declarations, computed, seen⟩ := v.after_grown c
  refine ⟨?_, ?_, ?_⟩
  · rw [declarations]
    intro d member
    rcases List.mem_append.mp member with old | new
    · exact before.collected d old
    · exact v.added_collected c d new
  · -- both sides have the new names, in different places
    rw [declarations, computed, seen, Visit.taken]
    apply List.perm_iff_count.mpr
    intro name
    have same := List.perm_iff_count.mp before.seen name
    simp only [Declaration.names_append, List.count_append] at same ⊢
    omega
  · rw [seen]
    refine List.nodup_append.mpr ⟨before.distinct, v.taken_nodup c, ?_⟩
    intro old member new member' same
    exact Visit.not_mem_seen_of_taken member' (same ▸ member)

theorem consistent_walkAll (c : Collection) (us : List HeaderUnit) : (walkAll c {} us).Consistent :=
  walkAll_invariant (consistent_after c) (fun _ _ before => ⟨before.collected, before.seen, before.distinct⟩)
    us {} consistent_empty

theorem mem_declarations_iff (c : Collection) (us : List HeaderUnit) (d : Declaration) :
    d ∈ (walkAll c {} us).declarations ↔ ∃ v ∈ allVisits c {} us, d ∈ v.added c := by
  have grown : (walkAll c {} us).declarations = _ ++ (allVisits c {} us).flatMap (Visit.added c) :=
    walkAll_eq_append (fun _ _ => rfl) (fun v => (v.after_grown c).1) us {}
  simp [grown]

theorem mem_computed_iff (c : Collection) (us : List HeaderUnit) (name : String) :
    name ∈ (walkAll c {} us).computed ↔ ∃ v ∈ allVisits c {} us, name ∈ v.noted c := by
  have grown : (walkAll c {} us).computed = _ ++ (allVisits c {} us).flatMap (Visit.noted c) :=
    walkAll_eq_append (fun _ _ => rfl) (fun v => (v.after_grown c).2.1) us {}
  simp [grown]

end CBindings.Collector
