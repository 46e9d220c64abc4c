import CBindings.Collector
import CBindings.Proofs.HeaderUnit.Given

/-! A collection as the row of its visits. One visit grows what is collected by what its cursor gives; a
collection over several headers leaves behind what its visits added, in their order. -/
namespace CBindings.Collector

open Outcome (run_bind)

/-- A look at one cursor, with the collector as it was before. -/
structure Visit where
  unit : HeaderUnit
  cursor : Nat
  following : Option Nat
  before : Collector

namespace Visit

def isEnumeration (v : Visit) : Bool := (v.unit.cursor (some v.cursor)).kind == .enumeration

/-- The name that the cursor is looked at under, none if it is passed over. -/
def admitted? (c : Collection) (v : Visit) : Option String :=
  (v.before.nameFor v.unit v.cursor v.following).1.filter fun name => v.before.admits c name v.isEnumeration

def gain (c : Collection) (v : Visit) : Except Fault Gain :=
  match v.admitted? c with
  | none => .ok .nothing
  | some name => Collector.gain c v.unit v.cursor name

def fault? (c : Collection) (v : Visit) : Option Fault :=
  match v.gain c with
  | .ok _ => none
  | .error f => some f

def after (c : Collection) (v : Visit) : Collector :=
  let named := (v.before.nameFor v.unit v.cursor v.following).2
  match v.admitted? c, v.gain c with
  | some name, .ok g => named.take c name g
  | _, _ => named

end Visit

def ending (fault? : Option Fault) : Except Fault Unit :=
  match fault? with
  | none => .ok ()
  | some f => .error f

/-- Naming a cursor at most spends a number. -/
theorem nameFor_same (s : Collector) (u : HeaderUnit) (r : Nat) (following : Option Nat) :
    ∃ n, (s.nameFor u r following).2 = { s with unnamed := n } := by
  unfold nameFor
  dsimp only
  split
  · exact ⟨s.unnamed, rfl⟩
  · split
    · exact ⟨s.unnamed, rfl⟩
    · split
      · exact ⟨s.unnamed, rfl⟩
      · exact ⟨s.unnamed + 1, rfl⟩

theorem nameFor_goesBy {s : Collector} {u : HeaderUnit} {r : Nat} {following : Option Nat} {name : String}
    (named : (s.nameFor u r following).1 = some name) : u.GoesBy (some r) name := by
  cases given : (u.cursor (some r)).isRecord || (u.cursor (some r)).kind == .enumeration with
  | true =>
    rcases Bool.or_eq_true_iff.mp given with record | enumeration
    · exact .inl record
    · exact .inr (.inl (by simpa using enumeration))
  | false =>
    simp only [nameFor, given] at named
    exact .inr (.inr (Option.some.inj named))

theorem nameFor_admits (c : Collection) (s : Collector) (u : HeaderUnit) (r : Nat) (following : Option Nat)
    (name : String) (isEnumeration : Bool) :
    (s.nameFor u r following).2.admits c name isEnumeration = s.admits c name isEnumeration := by
  obtain ⟨n, same⟩ := nameFor_same s u r following
  rw [same]
  rfl

theorem visit_run_eq (c : Collection) (u : HeaderUnit) (r : Nat) (following : Option Nat) (s : Collector) :
    (visit c u r following).run s =
      match s.nameFor u r following with
      | (none, s) => (.ok (), s)
      | (some name, s) =>
        if s.admits c name ((u.cursor (some r)).kind == .enumeration) then
          match gain c u r name with
          | .ok g => (.ok (), s.take c name g)
          | .error f => (.error f, s)
        else (.ok (), s) := by
  have start : (get : Collect Collector).run s = (.ok s, s) := rfl
  rw [visit, run_bind, start]
  dsimp only
  generalize s.nameFor u r following = named
  obtain ⟨name?, s'⟩ := named
  cases name? with
  | none => rfl
  | some name =>
    have spent : (set s' : Collect PUnit).run s = (.ok ⟨⟩, s') := rfl
    dsimp only
    rw [run_bind, spent]
    dsimp only
    split
    · cases gain c u r name with
      | ok g => rfl
      | error f => rfl
    · rfl

theorem visit_run (c : Collection) (v : Visit) :
    (visit c v.unit v.cursor v.following).run v.before = (ending (v.fault? c), v.after c) := by
  have same := nameFor_admits c v.before v.unit v.cursor v.following
  rw [visit_run_eq]
  simp only [Visit.fault?, Visit.after, Visit.gain, Visit.admitted?]
  generalize v.before.nameFor v.unit v.cursor v.following = named at same ⊢
  obtain ⟨name?, s⟩ := named
  cases name? with
  | none => rfl
  | some name =>
    have same : s.admits c name v.isEnumeration = v.before.admits c name v.isEnumeration := same name _
    change (if s.admits c name v.isEnumeration then _ else _) = _
    rw [same]
    by_cases admitted : v.before.admits c name v.isEnumeration = true
    · cases given : Collector.gain c v.unit v.cursor name with
      | ok g => simp [admitted, given, Option.filter, ending]
      | error f => simp [admitted, given, Option.filter, ending]
    · simp [admitted, Option.filter, ending]

/-- The visits to the cursors `rs` of a header; a fault is the last of them. -/
def visitsFrom (c : Collection) (u : HeaderUnit) (s : Collector) : List Nat → List Visit
  | [] => []
  | r :: rest =>
    let v : Visit := ⟨u, r, rest.head?, s⟩
    v :: if (v.fault? c).isSome then [] else visitsFrom c u (v.after c) rest

def leftBy (c : Collection) (s : Collector) (vs : List Visit) : Collector := vs.foldl (fun _ v => v.after c) s

theorem visitAll_run (c : Collection) (u : HeaderUnit) (rs : List Nat) (s : Collector) :
    (visitAll c u rs).run s =
      (ending ((visitsFrom c u s rs).findSome? (Visit.fault? c)), leftBy c s (visitsFrom c u s rs)) := by
  induction rs generalizing s with
  | nil => rfl
  | cons r rest ih =>
    have one := visit_run c ⟨u, r, rest.head?, s⟩
    dsimp only at one
    rw [visitAll, run_bind, one, visitsFrom]
    cases fault : Visit.fault? c ⟨u, r, rest.head?, s⟩ with
    | none => simpa [ending, fault, leftBy] using ih _
    | some f => simp [ending, fault, leftBy]

def cursorsOf (u : HeaderUnit) : List Nat := u.top.filter fun r => isCollected (u.cursor (some r))

/-- The visits of one header. Messages are kept by header, so its log starts empty. -/
def visits (c : Collection) (s : Collector) (u : HeaderUnit) : List Visit :=
  visitsFrom c u { s with log := [] } (cursorsOf u)

/-- The collector after one more header, also when a fault ended the header early. -/
def walk (c : Collection) (s : Collector) (u : HeaderUnit) : Collector :=
  ((collect c u).run { s with log := [] }).2

theorem collect_run (c : Collection) (u : HeaderUnit) (s : Collector) :
    (collect c u).run { s with log := [] } =
      (ending ((visits c s u).findSome? (Visit.fault? c)), leftBy c { s with log := [] } (visits c s u)) :=
  visitAll_run c u _ _

theorem walk_eq_leftBy (c : Collection) (s : Collector) (u : HeaderUnit) :
    walk c s u = leftBy c { s with log := [] } (visits c s u) :=
  congrArg Prod.snd (collect_run c u s)

def walkAll (c : Collection) (s : Collector) (us : List HeaderUnit) : Collector := us.foldl (walk c) s

def allVisits (c : Collection) (s : Collector) : List HeaderUnit → List Visit
  | [] => []
  | u :: rest => visits c s u ++ allVisits c (walk c s u) rest

section Growth

/- A part of the collector that messages leave alone and that every visit makes longer. -/
variable {α : Type} {c : Collection} {part : Collector → List α} {growth : Visit → List α}
  (silent : ∀ s log, part { s with log := log } = part s)
  (step : ∀ v, part (v.after c) = part v.before ++ growth v)
include step

theorem leftBy_visitsFrom (u : HeaderUnit) (rs : List Nat) (s : Collector) :
    part (leftBy c s (visitsFrom c u s rs)) = part s ++ (visitsFrom c u s rs).flatMap growth := by
  induction rs generalizing s with
  | nil => simp [visitsFrom, leftBy]
  | cons r rest ih =>
    have one := step ⟨u, r, rest.head?, s⟩
    rw [visitsFrom]
    split
    · simpa [leftBy] using one
    · simpa [leftBy, one] using ih (Visit.after c ⟨u, r, rest.head?, s⟩)

theorem before_of_visitsFrom (u : HeaderUnit) (rs : List Nat) (s : Collector) (earlier : List Visit)
    (v : Visit) (later : List Visit) (row : visitsFrom c u s rs = earlier ++ v :: later) :
    part v.before = part s ++ earlier.flatMap growth := by
  induction rs generalizing s earlier with
  | nil => simp [visitsFrom] at row
  | cons r rest ih =>
    have one := step ⟨u, r, rest.head?, s⟩
    rw [visitsFrom] at row
    cases earlier with
    | nil =>
      have first := (List.cons.inj row).1
      simp [← first]
    | cons w earlier =>
      obtain ⟨rfl, others⟩ := List.cons.inj row
      split at others
      · simp at others
      · simpa [one] using ih _ earlier others

include silent

theorem walkAll_eq_append (us : List HeaderUnit) (s : Collector) :
    part (walkAll c s us) = part s ++ (allVisits c s us).flatMap growth := by
  induction us generalizing s with
  | nil => simp [walkAll, allVisits]
  | cons u rest ih =>
    have one : part (walk c s u) = part s ++ (visits c s u).flatMap growth := by
      simpa [walk_eq_leftBy, visits, silent] using leftBy_visitsFrom step u (cursorsOf u) { s with log := [] }
    have others := ih (walk c s u)
    rw [one] at others
    simpa [walkAll, allVisits] using others

theorem before_of_allVisits (us : List HeaderUnit) (s : Collector) (earlier : List Visit) (v : Visit)
    (later : List Visit) (row : allVisits c s us = earlier ++ v :: later) :
    part v.before = part s ++ earlier.flatMap growth := by
  induction us generalizing s earlier with
  | nil => simp [allVisits] at row
  | cons u rest ih =>
    have one : part (walk c s u) = part s ++ (visits c s u).flatMap growth := by
      simpa [walk_eq_leftBy, visits, silent] using leftBy_visitsFrom step u (cursorsOf u) { s with log := [] }
    rw [allVisits] at row
    obtain ⟨more, inFirst, inRest⟩ | ⟨more, inFirst, inRest⟩ := List.append_eq_append_iff.mp row
    · have deeper := ih (walk c s u) more inRest
      simp [deeper, one, inFirst]
    · cases more with
      | nil =>
        have deeper := ih (walk c s u) [] (by simpa using inRest.symm)
        simp only [List.append_nil] at inFirst
        simp [deeper, one, inFirst]
      | cons w more =>
        obtain ⟨rfl, _⟩ := List.cons.inj inRest
        simpa [silent] using before_of_visitsFrom step u (cursorsOf u) { s with log := [] } earlier v more inFirst

end Growth

section Invariant

variable {c : Collection} {P : Collector → Prop} (step : ∀ v : Visit, P v.before → P (v.after c))
include step

theorem leftBy_invariant (u : HeaderUnit) (rs : List Nat) (s : Collector) (start : P s) :
    P (leftBy c s (visitsFrom c u s rs)) := by
  induction rs generalizing s with
  | nil => exact start
  | cons r rest ih =>
    have one := step ⟨u, r, rest.head?, s⟩ start
    rw [visitsFrom]
    split
    · exact one
    · exact ih _ one

theorem walkAll_invariant (silent : ∀ s log, P s → P { s with log := log }) (us : List HeaderUnit)
    (s : Collector) (start : P s) : P (walkAll c s us) := by
  induction us generalizing s with
  | nil => exact start
  | cons u rest ih =>
    have one : P (walk c s u) := walk_eq_leftBy c s u ▸ leftBy_invariant step u _ _ (silent s [] start)
    exact ih _ one

end Invariant

end CBindings.Collector
