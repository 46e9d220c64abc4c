import CBindings.Proofs.Collector.Names

/-! Collecting from a header once more. Whatever a cursor can give was taken the first time, or its name was taken
by something else; the second time only numbers for unnamed enumerations can still be spent. -/
namespace CBindings

/-- Each enumeration that is defined without a name is followed at once by an alias of it, among the cursors that
are collected from. -/
def HeaderUnit.EnumerationsAliased (u : HeaderUnit) : Prop :=
  ∀ earlier r later, Collector.cursorsOf u = earlier ++ r :: later →
    (u.cursor (some r)).kind = .enumeration → (u.cursor (some r)).isUnnamed = true →
    (u.cursor (some r)).isDefinition = true →
    ∃ a rest, later = a :: rest ∧ (u.cursor (some a)).kind = .alias ∧
      (u.type (u.cursor (some a)).underlying).declaration = some r

namespace Collector

open Declaration (names names_cons_none names_cons_some)
open Outcome (run_bind run_bind_ok)

variable {c : Collection} {u : HeaderUnit}

theorem nameFromAlias_isSome_iff (u : HeaderUnit) (r : Nat) (later : List Nat) :
    (nameFromAlias u r later.head?).isSome = true ↔
      ∃ a rest, later = a :: rest ∧ (u.cursor (some a)).kind = .alias ∧
        (u.type (u.cursor (some a)).underlying).declaration = some r := by
  cases later with
  | nil => simp [nameFromAlias]
  | cons a rest =>
    by_cases follows : (u.cursor (some a)).kind = .alias ∧
        (u.type (u.cursor (some a)).underlying).declaration = some r
    · simp [nameFromAlias, follows]
    · simp [nameFromAlias, follows]

def spendsNumber (u : HeaderUnit) (r : Nat) (following : Option Nat) : Bool :=
  (u.cursor (some r)).kind == .enumeration && (u.cursor (some r)).isUnnamed &&
    (u.cursor (some r)).isDefinition && (nameFromAlias u r following).isNone

/-- How many names have to be made up for the cursors of a header. -/
def numbersSpent (u : HeaderUnit) : List Nat → Nat
  | [] => 0
  | r :: rest => (spendsNumber u r rest.head?).toNat + numbersSpent u rest

theorem numbersSpent_eq_zero_iff (u : HeaderUnit) (rs : List Nat) :
    numbersSpent u rs = 0 ↔ ∀ earlier r later, rs = earlier ++ r :: later → spendsNumber u r later.head? = false := by
  induction rs with
  | nil => simp [numbersSpent]
  | cons r rest ih =>
    rw [numbersSpent, Nat.add_eq_zero_iff, ih]
    constructor
    · rintro ⟨first, others⟩ earlier r' later row
      cases earlier with
      | nil =>
        obtain ⟨rfl, rfl⟩ := List.cons.inj row
        exact Bool.toNat_eq_zero.mp first
      | cons r₀ earlier =>
        exact others earlier r' later (List.cons.inj row).2
    · intro each
      refine ⟨Bool.toNat_eq_zero.mpr (each [] r rest rfl), ?_⟩
      intro earlier r' later row
      exact each (r :: earlier) r' later (by rw [row]; rfl)

theorem enumerationsAliased_iff (u : HeaderUnit) :
    u.EnumerationsAliased ↔ numbersSpent u (cursorsOf u) = 0 := by
  rw [numbersSpent_eq_zero_iff]
  refine forall_congr' fun earlier => forall_congr' fun r => forall_congr' fun later => forall_congr' fun row => ?_
  rw [← nameFromAlias_isSome_iff, spendsNumber]
  cases nameFromAlias u r later.head? with
  | none => simp
  | some name => simp

theorem nameFor_unnamed (s : Collector) (u : HeaderUnit) (r : Nat) (following : Option Nat) :
    (s.nameFor u r following).2.unnamed = s.unnamed + (spendsNumber u r following).toNat := by
  unfold nameFor spendsNumber
  dsimp only
  cases (u.cursor (some r)).kind == .enumeration with
  | false =>
    split
    · rfl
    · split <;> rfl
  | true =>
    cases (u.cursor (some r)).isUnnamed with
    | false => simp
    | true =>
      cases nameFromAlias u r following with
      | some name => simp
      | none => cases (u.cursor (some r)).isDefinition <;> simp

/- Without a number to spend, the name of a cursor is a matter of its header alone. -/
theorem nameFor_stable {r : Nat} {following : Option Nat} (frugal : spendsNumber u r following = false)
    (s s' : Collector) : (s.nameFor u r following).1 = (s'.nameFor u r following).1 := by
  unfold nameFor
  dsimp only
  split
  · rfl
  · rename_i unnamed
    split
    · rfl
    · rename_i unaliased
      split
      · rfl
      · rename_i defined
        simp_all [spendsNumber]

theorem add_unnamed (s : Collector) (d : Declaration) : (s.add d).unnamed = s.unnamed := by
  unfold add
  split
  · split <;> rfl
  · rfl

theorem take_unnamed (c : Collection) (s : Collector) (name : String) (g : Gain) :
    (s.take c name g).unnamed = s.unnamed := by
  cases g with
  | nothing => rfl
  | refused reason =>
    simp only [take, note]
    split <;> rfl
  | computed => rfl
  | declared ds =>
    change (ds.foldl add s).unnamed = s.unnamed
    induction ds generalizing s with
    | nil => rfl
    | cons d rest ih => exact (ih (s.add d)).trans (add_unnamed s d)

theorem Visit.after_unnamed (c : Collection) (v : Visit) :
    (v.after c).unnamed = v.before.unnamed + (spendsNumber v.unit v.cursor v.following).toNat := by
  rw [← nameFor_unnamed]
  unfold Visit.after
  dsimp only
  split
  · exact take_unnamed c _ _ _
  · rfl

theorem fresh_eq_nil {seen : List String} {ds : List Declaration} (taken : ∀ name ∈ names ds, name ∈ seen) :
    fresh seen ds = [] := by
  fun_induction fresh seen ds with
  | case1 => rfl
  | case2 seen d rest unbound ih =>
    rw [names_cons_none unbound] at taken
    exact ih taken
  | case3 seen d rest name bound old ih =>
    rw [names_cons_some bound] at taken
    exact ih fun name' member => taken name' (List.mem_cons_of_mem name member)
  | case4 seen d rest name bound new ih =>
    rw [names_cons_some bound] at taken
    exact absurd (taken name List.mem_cons_self) (by simpa using new)

/-- A look at the cursor adds nothing, now that these names are seen. -/
def Exhausted (c : Collection) (u : HeaderUnit) (seen : List String) (r : Nat) (following : Option Nat) : Prop :=
  ∀ s : Collector, seen ⊆ s.seen →
    Visit.fault? c ⟨u, r, following, s⟩ = none ∧ Visit.added c ⟨u, r, following, s⟩ = [] ∧
      Visit.noted c ⟨u, r, following, s⟩ = []

theorem Exhausted.mono {seen seen' : List String} {r : Nat} {following : Option Nat}
    (done : Exhausted c u seen r following) (more : seen ⊆ seen') : Exhausted c u seen' r following :=
  fun s sub => done s (List.Subset.trans more sub)

theorem Visit.before_seen_subset (c : Collection) (v : Visit) : v.before.seen ⊆ (v.after c).seen := by
  rw [(v.after_grown c).2.2]
  exact List.subset_append_left _ _

theorem Visit.names_seen {v : Visit} {ds : List Declaration} (given : v.gain c = .ok (.declared ds)) :
    ∀ name ∈ names ds, name ∈ (v.after c).seen := by
  intro name member
  rw [(v.after_grown c).2.2, List.mem_append]
  by_cases old : name ∈ v.before.seen
  · exact .inl old
  · refine .inr (List.mem_append_left _ ?_)
    simp only [added, given]
    exact (mem_names_fresh_iff _ _ _).mpr ⟨old, member⟩

theorem Visit.noted_seen {v : Visit} {name : String} (admitted : v.admitted? c = some name)
    (given : v.gain c = .ok .computed) : name ∈ (v.after c).seen := by
  have noted : v.noted c = [name] := by simp [noted, admitted, given]
  rw [(v.after_grown c).2.2, taken, noted]
  simp

/-- A visit leaves nothing behind that the same cursor could still give. -/
theorem Visit.exhausts {v : Visit} (ended : v.fault? c = none)
    (frugal : spendsNumber v.unit v.cursor v.following = false) :
    Exhausted c v.unit (v.after c).seen v.cursor v.following := by
  intro s sub
  let w : Visit := ⟨v.unit, v.cursor, v.following, s⟩
  change w.fault? c = none ∧ w.added c = [] ∧ w.noted c = []
  cases admitted : w.admitted? c with
  | none => simp [fault?, added, noted, gain, admitted]
  | some name =>
    -- the first visit looked at the cursor under the same name, so it gave the same
    obtain ⟨named, nonempty, new, kept⟩ := (admitted?_eq_some_iff c w name).mp admitted
    have newBefore : name ∉ v.before.seen := fun old => new (sub (v.before_seen_subset c old))
    have admittedBefore : v.admitted? c = some name :=
      (admitted?_eq_some_iff c v name).mpr ⟨(nameFor_stable frugal v.before s).trans named, nonempty, newBefore, kept⟩
    have same : w.gain c = v.gain c := (gain_eq admitted).trans (gain_eq admittedBefore).symm
    refine ⟨?_, ?_, ?_⟩
    · rw [fault?, same]
      exact ended
    · unfold added
      rw [same]
      split
      · rename_i ds given
        exact fresh_eq_nil fun other member => sub (names_seen given other member)
      · rfl
    · unfold noted
      rw [same, admitted]
      split
      · rename_i noted given
        exact absurd (sub (noted_seen admittedBefore given)) new
      · rfl

/- The cursors of a header, each with the one that follows it. -/
def AllExhausted (c : Collection) (u : HeaderUnit) (seen : List String) : List Nat → Prop
  | [] => True
  | r :: rest => Exhausted c u seen r rest.head? ∧ AllExhausted c u seen rest

theorem AllExhausted.mono {seen seen' : List String} {rs : List Nat} (done : AllExhausted c u seen rs)
    (more : seen ⊆ seen') : AllExhausted c u seen' rs := by
  induction rs with
  | nil => trivial
  | cons r rest ih => exact ⟨done.1.mono more, ih done.2⟩

/- One completed row of visits, read off from its end. -/
theorem visitAll_cons_ok {r : Nat} {rest : List Nat} {s s' : Collector}
    (walked : (visitAll c u (r :: rest)).run s = (.ok (), s')) :
    Visit.fault? c ⟨u, r, rest.head?, s⟩ = none ∧
      (visitAll c u rest).run (Visit.after c ⟨u, r, rest.head?, s⟩) = (.ok (), s') := by
  have one := visit_run c ⟨u, r, rest.head?, s⟩
  dsimp only at one
  rw [visitAll, run_bind, one] at walked
  cases fault : Visit.fault? c ⟨u, r, rest.head?, s⟩ with
  | none => exact ⟨rfl, by simpa [fault, ending] using walked⟩
  | some f =>
    rw [fault] at walked
    cases congrArg Prod.fst walked

theorem visitAll_seen_subset {rs : List Nat} {s s' : Collector} (walked : (visitAll c u rs).run s = (.ok (), s')) :
    s.seen ⊆ s'.seen := by
  induction rs generalizing s with
  | nil =>
    cases walked
    exact List.Subset.refl _
  | cons r rest ih =>
    obtain ⟨_, others⟩ := visitAll_cons_ok walked
    exact List.Subset.trans (Visit.before_seen_subset c ⟨u, r, rest.head?, s⟩) (ih others)

theorem visitAll_unnamed {rs : List Nat} {s s' : Collector} (walked : (visitAll c u rs).run s = (.ok (), s')) :
    s'.unnamed = s.unnamed + numbersSpent u rs := by
  induction rs generalizing s with
  | nil =>
    cases walked
    rfl
  | cons r rest ih =>
    obtain ⟨_, others⟩ := visitAll_cons_ok walked
    rw [ih others, Visit.after_unnamed, numbersSpent, Nat.add_assoc]

theorem visitAll_exhausts {rs : List Nat} {s s' : Collector} (walked : (visitAll c u rs).run s = (.ok (), s'))
    (frugal : numbersSpent u rs = 0) : AllExhausted c u s'.seen rs := by
  induction rs generalizing s with
  | nil => trivial
  | cons r rest ih =>
    obtain ⟨ended, others⟩ := visitAll_cons_ok walked
    obtain ⟨first, later⟩ := Nat.add_eq_zero_iff.mp frugal
    have done := Visit.exhausts ended (Bool.toNat_eq_zero.mp first)
    exact ⟨done.mono (visitAll_seen_subset others), ih others later⟩

theorem Visit.after_of_nothing {v : Visit} (declared : v.added c = []) (noted : v.noted c = [])
    (frugal : spendsNumber v.unit v.cursor v.following = false) :
    v.after c = { v.before with log := (v.after c).log } := by
  obtain ⟨declarations, computed, seen⟩ := v.after_grown c
  have unnamed := v.after_unnamed c
  rw [taken, declared, noted] at seen
  rw [declared] at declarations
  rw [noted] at computed
  rw [frugal] at unnamed
  generalize v.after c = s at *
  generalize v.before = s₀ at *
  cases s
  cases s₀
  simp_all [names]

theorem visitAll_of_exhausted {rs : List Nat} {s : Collector} (done : AllExhausted c u s.seen rs)
    (frugal : numbersSpent u rs = 0) : ∃ log, (visitAll c u rs).run s = (.ok (), { s with log := log }) := by
  induction rs generalizing s with
  | nil => exact ⟨s.log, rfl⟩
  | cons r rest ih =>
    obtain ⟨first, later⟩ := Nat.add_eq_zero_iff.mp frugal
    obtain ⟨ended, declared, noted⟩ := done.1 s (List.Subset.refl _)
    have same := Visit.after_of_nothing declared noted (Bool.toNat_eq_zero.mp first)
    dsimp only at same
    have one := visit_run c ⟨u, r, rest.head?, s⟩
    rw [ended, same] at one
    obtain ⟨log, others⟩ := ih (s := { s with log := (Visit.after c ⟨u, r, rest.head?, s⟩).log }) done.2 later
    refine ⟨log, ?_⟩
    dsimp only at one
    rw [visitAll, run_bind, one]
    exact others

theorem forM_seen_subset {us : List HeaderUnit} {s s' : Collector}
    (walked : (us.forM (collect c)).run s = (.ok (), s')) : s.seen ⊆ s'.seen := by
  induction us generalizing s with
  | nil =>
    cases walked
    exact List.Subset.refl _
  | cons v rest ih =>
    obtain ⟨_, between, first, others⟩ := run_bind_ok walked
    exact List.Subset.trans (visitAll_seen_subset first) (ih others)

theorem collected_among {us : List HeaderUnit} {s s' : Collector}
    (walked : (us.forM (collect c)).run s = (.ok (), s')) (member : u ∈ us) :
    ∃ before after, (collect c u).run before = (.ok (), after) ∧ after.seen ⊆ s'.seen := by
  induction us generalizing s with
  | nil => cases member
  | cons v rest ih =>
    obtain ⟨_, between, first, others⟩ := run_bind_ok walked
    rcases List.mem_cons.mp member with rfl | later
    · exact ⟨s, between, first, forM_seen_subset others⟩
    · exact ih others later

/-- A header among those collected from before adds nothing when it is collected from again, unless an enumeration
in it has no name and no alias that gives it one. -/
theorem collect_again_iff {us : List HeaderUnit} {s₀ s : Collector}
    (walked : (us.forM (collect c)).run s₀ = (.ok (), s)) (member : u ∈ us) :
    (∃ log, (collect c u).run s = (.ok (), { s with log := log })) ↔ u.EnumerationsAliased := by
  rw [enumerationsAliased_iff]
  constructor
  · rintro ⟨log, again⟩
    have spent := visitAll_unnamed again
    exact Nat.left_eq_add.mp spent
  · intro frugal
    obtain ⟨before, after, once, kept⟩ := collected_among walked member
    exact visitAll_of_exhausted ((visitAll_exhausts once frugal).mono kept) frugal

/-- An enumeration without a name, its alias, a macro for the compiler, and a record with a tagged one inside. -/
def colorHeader : HeaderUnit :=
  { cursors := [
      { kind := .enumeration, location := some ⟨"c.h", 1, some 9⟩, isDefinition := true, definition := some 0,
        children := [1], integerType := some 0 },
      { kind := .enumerator, name := "RED", location := some ⟨"c.h", 1, some 16⟩ },
      { kind := .alias, name := "color", location := some ⟨"c.h", 1, some 22⟩, underlying := some 1 },
      { kind := .macroDefinition, name := "DEPTH", location := some ⟨"c.h", 2, some 9⟩,
        tokens := [⟨"DEPTH", 38, 43⟩, ⟨"BITS", 44, 48⟩] },
      { kind := .record false, name := "pixel", location := some ⟨"c.h", 3, some 1⟩, isDefinition := true,
        definition := some 4, children := [5] },
      { kind := .record false, name := "shade", location := some ⟨"c.h", 3, some 16⟩, isDefinition := true,
        definition := some 5 }],
    types := [{ kind := .builtin .unsignedInt, spelling := "unsigned int" },
      { kind := .enumeration, spelling := "color", declaration := some 0 }],
    top := [0, 2, 3, 4] }

/-- The tag of the inner record is declared first, and the enumeration has a made up name. -/
def plainHeader : HeaderUnit :=
  { cursors := [
      { kind := .record false, name := "shade", location := some ⟨"p.h", 1, some 1⟩ },
      { kind := .enumeration, location := some ⟨"p.h", 2, some 1⟩, isDefinition := true, definition := some 1,
        integerType := some 0 }],
    types := [{ kind := .builtin .unsignedInt, spelling := "unsigned int" }],
    top := [0, 1] }

theorem colorHeader_again :
    ∃ s, ([plainHeader, colorHeader].forM (collect {})).run {} = (.ok (), s) ∧
      names s.declarations = ["shade", "ANONYMOUS_ENUM_1", "color", "pixel"] ∧ s.computed = ["DEPTH"] ∧
      ∃ log, (collect {} colorHeader).run s = (.ok (), { s with log := log }) := by
  have evaluated : (match ([plainHeader, colorHeader].forM (collect {})).run {} with
      | (.ok _, s) => names s.declarations == ["shade", "ANONYMOUS_ENUM_1", "color", "pixel"] && s.computed == ["DEPTH"]
      | (.error _, _) => false) = true := by
    decide +kernel
  have aliased : colorHeader.EnumerationsAliased := (enumerationsAliased_iff _).mpr (by decide +kernel)
  rcases walked : ([plainHeader, colorHeader].forM (collect {})).run {} with ⟨result, s⟩
  rw [walked] at evaluated
  cases result with
  | error f => cases evaluated
  | ok done =>
    obtain ⟨declared, noted⟩ := by simpa using evaluated
    exact ⟨s, rfl, declared, noted, (collect_again_iff walked (by simp)).mpr aliased⟩

end Collector

end CBindings
