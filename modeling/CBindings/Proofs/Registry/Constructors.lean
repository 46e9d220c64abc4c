import CBindings.Proofs.Registry.Soundness

/-! The constructors of zero values: on which records they are set, and which members they hide. -/
namespace CBindings

open Register

/- The members that are reached through those without a name are all that a class offers beyond its own. -/
theorem Classes.SoundAt.offered_iff {c : Classes} {i : Nat} {name : String} (sound : c.SoundAt i)
    (unfailed : (c.record i).failed = false) (wellNamed : c.WellNamed i)
    (undeclared : ∀ f ∈ (c.record i).fields.getD [], f.name ≠ name) :
    ((c.record i).slots.lookup name).isSome ↔ ∃ f ∈ (c.record i).fields.getD [],
      f.name ∈ (c.record i).anonymous ∧ ∃ u, c.Exposes f.type name u := by
  cases given : (c.record i).fields with
  | none =>
    rw [(sound.blank given).1]
    simp
  | some fields =>
    rw [given] at undeclared
    rw [sound.offers fields given unfailed wellNamed]
    refine or_iff_right ?_
    rintro ⟨f, inside, same⟩
    exact undeclared f inside same

namespace Register

variable {r s : Registry} {name : String}

/-- A constructor of zero values is set on a record only if no member of its own has the name `zero`. It hides such a
member all the same exactly if one is reached through a member without a name, at any depth. -/
theorem constructor_hides_iff {calls : List Call} (start : Sound r)
    (inside : (s, .trial (.constructor name)) ∈ session r calls)
    (registered : verdict (s, .constructor name) = some true) :
    ∃ i s', (Step.trial (.constructor name)).after s = s' ∧ s'.names.get? name = some (.type (.record i)) ∧
      (s'.classes.record i).hasZero = true ∧ (∀ f ∈ (s'.classes.record i).fields.getD [], f.name ≠ "zero") ∧
      (s'.classes.WellNamed i →
        (((s'.classes.record i).slots.lookup "zero").isSome ↔ ∃ f ∈ (s'.classes.record i).fields.getD [],
          f.name ∈ (s'.classes.record i).anonymous ∧ ∃ u, s'.classes.Exposes f.type "zero" u)) := by
  have sound : Sound s := (session_sound start calls).1 _ inside
  have sound' := trial_sound sound (.constructor name)
  obtain ⟨s₁, ended⟩ := run_of_verdict registered
  obtain ⟨log, left⟩ := trial_left (.constructor name) s
  rw [ended] at left
  rw [left] at sound'
  rcases registerConstructor_cases name s with ⟨log, passed⟩ | ⟨i, defined, bound, undeclared, done⟩
  · cases ended.symm.trans passed
  · cases ended.symm.trans done
    obtain ⟨tag, isUnion, members, settled⟩ := (sound.defined name defined).2 i bound
    have own := Classes.record_update_self (fun c => { c with hasZero := true }) settled.inside
    have unfailed : (s.classes.record i).failed = false := congrArg (fun core => core.2.2.2) settled.core_eq
    have undeclared : ∀ f ∈ ((s.classes.update i fun c => { c with hasZero := true }).record i).fields.getD [],
        f.name ≠ "zero" := by
      rw [own]
      exact undeclared
    refine ⟨i, _, left, bound, ?_, undeclared, fun wellNamed => ?_⟩
    · exact congrArg RecordClass.hasZero own
    · refine (sound'.rooted.classes.classes i).offered_iff ?_ wellNamed undeclared
      exact (congrArg RecordClass.failed own).trans unfailed

/- A record, and then the constructor of its zero values. -/
theorem constructor_in_session (name : String) {record : Record} {done : Bool}
    (registered : verdict (r.begun, .record record) = some done) :
    (((trial (.record record)).run r.begun).2, .trial (.constructor name)) ∈
      session r [.register [.record record, .constructor name]] := by
  obtain ⟨r₁, ended⟩ := run_of_verdict registered
  have contained : ∃ entry r', (trial (.record record)).run r.begun = (.ok entry, r') := by
    refine (trial_ok_iff _ _).mpr ⟨rfl, fun f failed => ?_⟩
    rw [ended] at failed
    cases failed
  obtain ⟨entry, r', tried⟩ := contained
  simp only [session, Call.steps, trials_cons_ok tried, trials_single]
  rw [tried]
  exact .tail _ (.head _)

def cellRecord : Record :=
  { name := "cell",
    fields := some [
      { name := "_anon0",
        type := .record { name := "_anon0", fields := some [
          { name := "low", type := .named "int" [] none }, { name := "high", type := .named "int" [] none }] } },
      { name := "tag", type := .named "int" [] none }],
    anonymous := ["_anon0"] }

/- The nested record hands up `low` and `high` only. -/
theorem cellRecord_constructed :
    ∃ s i s', (s, .trial (.constructor "cell")) ∈ session {} [.register [.record cellRecord, .constructor "cell"]] ∧
      verdict (s, .constructor "cell") = some true ∧ (Step.trial (.constructor "cell")).after s = s' ∧
      s'.names.get? "cell" = some (.type (.record i)) ∧ (s'.classes.record i).hasZero = true ∧
      s'.classes.WellNamed i ∧ ((s'.classes.record i).slots.lookup "low").isSome = true ∧
      ¬ ∃ f ∈ (s'.classes.record i).fields.getD [],
        f.name ∈ (s'.classes.record i).anonymous ∧ ∃ u, s'.classes.Exposes f.type "zero" u := by
  have registered : verdict (({} : Registry).begun, .record cellRecord) = some true := by decide +kernel
  let s := ((trial (.record cellRecord)).run ({} : Registry).begun).2
  have constructed : verdict (s, .constructor "cell") = some true := by decide +kernel
  have inside := constructor_in_session "cell" registered
  have start : Sound {} := sound_fresh fun _ _ bound => by cases bound
  obtain ⟨i, s', left, bound, hasZero, -, hidden_iff⟩ := constructor_hides_iff start inside constructed
  have own : boundClass? s'.names "cell" = some 0 := by
    rw [← left]
    decide +kernel
  have first : i = 0 := by
    rw [boundClass?, bound] at own
    exact Option.some.inj own
  subst first
  have wellNamed : s'.classes.WellNamed 0 := by
    rw [← left]
    exact Classes.wellNamed_of_plainlyNamed (by decide +kernel)
  refine ⟨s, 0, s', inside, constructed, left, bound, hasZero, wellNamed, ?_, ?_⟩
  · rw [← left]
    decide +kernel
  · rw [← hidden_iff wellNamed, ← left]
    decide +kernel

def markRecord : Record :=
  { name := "mark",
    fields := some [
      { name := "_anon0",
        type := .record { name := "_anon0", fields := some [{ name := "zero", type := .named "int" [] none }] } }],
    anonymous := ["_anon0"] }

/- The member `zero` of the nested record can be reached through the outer one, until the constructor takes its name. -/
theorem markRecord_zero_hidden :
    ∃ s i s', (s, .trial (.constructor "mark")) ∈ session {} [.register [.record markRecord, .constructor "mark"]] ∧
      verdict (s, .constructor "mark") = some true ∧ (Step.trial (.constructor "mark")).after s = s' ∧
      s'.names.get? "mark" = some (.type (.record i)) ∧ (s'.classes.record i).hasZero = true ∧
      ((s'.classes.record i).slots.lookup "zero").isSome = true := by
  have registered : verdict (({} : Registry).begun, .record markRecord) = some true := by decide +kernel
  refine ⟨_, 0, _, constructor_in_session "mark" registered, ?_, rfl, ?_, ?_, ?_⟩
  · decide +kernel
  · rfl
  · decide +kernel
  · decide +kernel

end Register

end CBindings
