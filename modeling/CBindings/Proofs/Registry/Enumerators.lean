import CBindings.Proofs.Registry.Escape
import CBindings.Proofs.Registry.Frame
import CBindings.Proofs.Registry.Phases

/-! Enumerations and their enumerators. Not every enumerator is a member, and one that is not can only be registered
if its name is taken already. -/
namespace CBindings

open Outcome

namespace EnumClass

/-- Names that an enumeration does not take as members: private to it, reserved, or special. -/
def passesOver (className name : String) : Bool :=
  isPrivate className.toList name.toList || isReserved name.toList || isSpecial name.toList

theorem membersFrom_ok {className : String} {members found : List (String × Int)} {values : List Enumerator}
    (made : membersFrom className members values = .ok found) :
    found = members ++ (values.filter fun v => !passesOver className v.name).map fun v => (v.name, v.value) := by
  induction values generalizing members with
  | nil =>
    cases made
    simp
  | cons v rest ih =>
    rw [membersFrom] at made
    split at made
    · rename_i isPrivate
      simp [ih made, passesOver, isPrivate]
    · rename_i notPrivate
      split at made
      · rename_i reserved
        split at made
        · cases made
        · split at made
          · cases made
          · simp [ih made, passesOver, reserved]
      · rename_i notReserved
        split at made
        · rename_i special
          simp [ih made, passesOver, special]
        · rename_i notSpecial
          split at made
          · cases made
          · simp [ih made, passesOver, notPrivate, notReserved, notSpecial]

theorem make_ok {name : String} {values : List Enumerator} {c : EnumClass} (made : make name values = .ok c) :
    c.members = (values.filter fun v => !passesOver name v.name).map fun v => (v.name, v.value) := by
  unfold make at made
  obtain ⟨members, found, checked⟩ := bind_eq_ok_iff.mp made
  -- the checks that follow refuse some classes, but none of them changes the members
  have unchecked := checked_eq_ok (checked_eq_ok (checked_eq_ok (checked_eq_ok (checked_eq_ok checked))))
  cases checked_eq_ok (checked_eq_ok unchecked)
  rw [membersFrom_ok found, List.nil_append]

theorem membersFrom_ne_noMember (className : String) (members : List (String × Int)) (values : List Enumerator)
    (name : String) : membersFrom className members values ≠ .error (.noMember name) := by
  induction values generalizing members with
  | nil =>
    intro failed
    cases failed
  | cons v rest ih =>
    rw [membersFrom]
    split
    · exact ih members
    · split
      · split
        · simp
        · split
          · simp
          · exact ih members
      · split
        · exact ih members
        · split
          · simp
          · exact ih _

theorem throw_ne_noMember {f : EnumFault} {name : String} (other : f ≠ .noMember name) :
    (throw f : Except EnumFault Unit) ≠ .error (.noMember name) := by
  intro failed
  exact other (Except.error.inj failed)

theorem checkMaking_ne_noMember (values : List Enumerator) (name : String) :
    checkMaking values ≠ .error (.noMember name) := by
  unfold checkMaking
  refine checked_ne_error (throw_ne_noMember (by simp)) (checked_ne_error (throw_ne_noMember (by simp)) ?_)
  split
  · exact throw_ne_noMember (by simp)
  · intro failed
    cases failed

theorem make_ne_noMember (className : String) (values : List Enumerator) (name : String) :
    make className values ≠ .error (.noMember name) := by
  unfold make
  refine bind_ne_error (membersFrom_ne_noMember className [] values name) fun members => ?_
  refine checked_ne_error (throw_ne_noMember (by simp)) (checked_ne_error (throw_ne_noMember (by simp)) ?_)
  refine checked_ne_error (throw_ne_noMember (by simp)) (checked_ne_error (throw_ne_noMember (by simp)) ?_)
  refine checked_ne_error (throw_ne_noMember (by simp)) (checked_ne_error (checkMaking_ne_noMember values name) ?_)
  refine checked_ne_error (throw_ne_noMember (by simp)) ?_
  intro failed
  cases failed

/- The members are the enumerators that are not passed over. -/
theorem member?_error_iff {name : String} {values : List Enumerator} {c : EnumClass} (made : make name values = .ok c)
    {v : Enumerator} (inside : v ∈ values) :
    (∃ f, c.member? v.name = .error f) ↔ passesOver name v.name = true := by
  have missing : (∃ f, c.member? v.name = .error f) ↔ c.members.lookup v.name = none := by
    unfold member?
    cases c.members.lookup v.name with
    | none => simp
    | some value => simp
  rw [missing, List.lookup_eq_none_iff, make_ok made]
  constructor
  · intro absent
    cases kept : passesOver name v.name with
    | true => rfl
    | false =>
      have member : (v.name, v.value) ∈
          (values.filter fun v => !passesOver name v.name).map fun v => (v.name, v.value) :=
        List.mem_map_of_mem (List.mem_filter.mpr ⟨inside, by simp [kept]⟩)
      simpa using absent _ member
  · intro passed entry member
    obtain ⟨other, kept, rfl⟩ := List.mem_map.mp member
    have taken := (List.mem_filter.mp kept).2
    rw [bne_iff_ne]
    intro same
    dsimp only at same
    rw [← same, passed] at taken
    cases taken

end EnumClass

namespace Register

variable {r r' : Registry}

/- An enumerator that is no member ends the loop, unless its name is taken; the loop binds members only. -/
theorem registerEnumerators_error_iff (e : EnumClass) (vs : List Enumerator) (r : Registry) :
    (∃ f r', (registerEnumerators e vs).run r = (.error f, r')) ↔
      ∃ v ∈ vs, (∃ f, e.member? v.name = .error f) ∧ r.names.has v.name = false := by
  induction vs generalizing r with
  | nil =>
    refine iff_of_false ?_ (by simp)
    rintro ⟨f, r', ended⟩
    cases ended
  | cons v rest ih =>
    obtain ⟨log, asked⟩ := isTaken_run v.name r
    rw [registerEnumerators, run_bind, asked]
    dsimp only
    cases taken : r.names.has v.name with
    | true =>
      refine (ih { r with log := log }).trans ?_
      simp [taken]
    | false =>
      cases found : e.member? v.name with
      | error f =>
        refine iff_of_true ⟨_, _, rfl⟩ ⟨v, List.mem_cons_self, ⟨f, found⟩, taken⟩
      | ok member =>
        obtain ⟨name, value⟩ := member
        refine (ih { r with
          names := r.names.insert v.name (.member e name value),
          index := r.index.add (.int v.value) v.name, log := log }).trans ?_
        have bound (other : Enumerator) : (∃ f, e.member? other.name = .error f) ∧
            (r.names.insert v.name (.member e name value)).has other.name = false ↔
            (∃ f, e.member? other.name = .error f) ∧ r.names.has other.name = false := by
          refine and_congr_right fun missing => ?_
          have apart : other.name ≠ v.name := by
            intro same
            obtain ⟨f, missing⟩ := missing
            rw [same, found] at missing
            cases missing
          rw [Namespace.has_insert, decide_eq_false apart, Bool.false_or]
        have member : ¬ ∃ f, e.member? v.name = .error f := by
          rw [found]
          rintro ⟨f, missing⟩
          cases missing
        simp only [bound, List.mem_cons, or_and_right, exists_or, exists_eq_left, member, false_and, false_or]

/- Only enumerators are bound. -/
theorem registerEnumerators_left (e : EnumClass) (vs : List Enumerator) (r : Registry) :
    ∃ names index log, ((registerEnumerators e vs).run r).2 = { r with names := names, index := index, log := log } ∧
      ∀ name, (∀ v ∈ vs, v.name ≠ name) → names.get? name = r.names.get? name := by
  induction vs generalizing r with
  | nil => exact ⟨r.names, r.index, r.log, rfl, fun _ _ => rfl⟩
  | cons v rest ih =>
    obtain ⟨log, asked⟩ := isTaken_run v.name r
    rw [registerEnumerators, run_bind, asked]
    dsimp only
    cases taken : r.names.has v.name with
    | true =>
      obtain ⟨names, index, log', left, others⟩ := ih { r with log := log }
      exact ⟨names, index, log', left, fun name apart => others name fun v' inside => apart v' (.tail v inside)⟩
    | false =>
      cases found : e.member? v.name with
      | error f => exact ⟨r.names, r.index, log, rfl, fun _ _ => rfl⟩
      | ok member =>
        obtain ⟨name, value⟩ := member
        obtain ⟨names, index, log', left, others⟩ := ih { r with
          names := r.names.insert v.name (.member e name value),
          index := r.index.add (.int v.value) v.name, log := log }
        refine ⟨names, index, log', left, fun other apart => ?_⟩
        rw [others other fun v' inside => apart v' (.tail v inside), Namespace.get?_insert,
          if_neg (apart v (.head rest)).symm]

/-- The name of an enumeration is bound, unless it is taken, before its enumerators are looked at. -/
def withEnumeration (r : Registry) (name : String) (c : EnumClass) : Registry :=
  if r.names.has name then r else { r with names := r.names.insert name (.enumeration c) }

theorem withEnumeration_left (r : Registry) (name : String) (c : EnumClass) :
    ∃ names, withEnumeration r name c = { r with names := names } ∧
      ∀ other, other ≠ name → names.get? other = r.names.get? other := by
  unfold withEnumeration
  split
  · exact ⟨r.names, rfl, fun _ _ => rfl⟩
  · refine ⟨_, rfl, fun other apart => ?_⟩
    rw [Namespace.get?_insert, if_neg apart]

theorem withEnumeration_free (r : Registry) (name : String) (c : EnumClass) (other : String) :
    (withEnumeration r name c).names.has other = false ↔ r.names.has other = false ∧ other ≠ name := by
  unfold withEnumeration
  cases taken : r.names.has name with
  | true =>
    refine (and_iff_left_of_imp fun unbound same => ?_).symm
    cases taken.symm.trans (same ▸ unbound)
  | false => simp [Namespace.has_insert, and_comm]

theorem registerEnumeration_run (e : Enumeration) (r : Registry) :
    (∃ f log, EnumClass.make e.name e.values = .error f ∧
        (registerEnumeration e).run r = (.error (.enumeration f), { r with log := log })) ∨
      ∃ c log, EnumClass.make e.name e.values = .ok c ∧
        (registerEnumeration e).run r = (do
          registerEnumerators c e.values
          return !r.names.has e.name : Register Bool).run (withEnumeration { r with log := log } e.name c) := by
  obtain ⟨log, asked⟩ := isTaken_run e.name r
  unfold registerEnumeration withEnumeration
  rw [run_bind, asked]
  dsimp only
  cases EnumClass.make e.name e.values with
  | error f => exact .inl ⟨f, log, rfl, rfl⟩
  | ok c =>
    refine .inr ⟨c, log, rfl, ?_⟩
    cases r.names.has e.name with
    | true => rfl
    | false => rfl

theorem registerEnumeration_left (e : Enumeration) (r : Registry) :
    ∃ names index log, ((registerEnumeration e).run r).2 = { r with names := names, index := index, log := log } ∧
      ∀ name, name ≠ e.name → (∀ v ∈ e.values, v.name ≠ name) → names.get? name = r.names.get? name := by
  rcases registerEnumeration_run e r with ⟨f, log, -, ended⟩ | ⟨c, log, -, onward⟩
  · rw [ended]
    exact ⟨r.names, r.index, log, rfl, fun _ _ _ => rfl⟩
  · obtain ⟨names, index, log', left, others⟩ :=
      registerEnumerators_left c e.values (withEnumeration { r with log := log } e.name c)
    have same : ((registerEnumeration e).run r).2 =
        ((registerEnumerators c e.values).run (withEnumeration { r with log := log } e.name c)).2 := by
      rw [onward, run_bind]
      rcases (registerEnumerators c e.values).run _ with ⟨result, r'⟩
      cases result with
      | ok _ => rfl
      | error f => rfl
    obtain ⟨names', started, others'⟩ := withEnumeration_left { r with log := log } e.name c
    rw [same, left, started]
    refine ⟨names, index, log', rfl, fun name other apart => (others name apart).trans ?_⟩
    rw [started]
    exact others' name other

theorem registerEnumerators_escapes {e : EnumClass} {vs : List Enumerator} {f : RegistrationFault}
    (ended : (registerEnumerators e vs).run r = (.error f, r')) : f.isContained = false := by
  have given : ∀ v ∈ vs, MayBind [.enumeration { name := e.name, values := vs }] [] v.name := fun v inside =>
    .inr ⟨_, v, List.mem_singleton_self _, inside, rfl⟩
  exact (registerEnumerators_framed e vs given r).2 f (congrArg Prod.fst ended)

/- Faults of a class that cannot be made are contained. -/
theorem make_isContained {name : String} {values : List Enumerator} {f : EnumFault}
    (failed : EnumClass.make name values = .error f) : (RegistrationFault.enumeration f).isContained = true := by
  cases f with
  | noMember other => exact absurd failed (EnumClass.make_ne_noMember name values other)
  | _ => rfl

/- Once the class is made, only an enumerator that is no member makes the rest fail. -/
theorem registerEnumeration_escapes_iff (e : Enumeration) (r : Registry) :
    Escaping (registerEnumeration e) r ↔ (∃ c, EnumClass.make e.name e.values = .ok c) ∧
      ∃ v ∈ e.values, EnumClass.passesOver e.name v.name = true ∧ r.names.has v.name = false ∧ v.name ≠ e.name := by
  rcases registerEnumeration_run e r with ⟨f, log, failed, ended⟩ | ⟨c, log, made, onward⟩
  · refine iff_of_false (not_escaping_of_contained ended (make_isContained failed)) ?_
    rintro ⟨⟨c, made⟩, -⟩
    cases failed.symm.trans made
  · have loop := registerEnumerators_error_iff c e.values (withEnumeration { r with log := log } e.name c)
    have passed : (∃ f r', (registerEnumerators c e.values).run (withEnumeration { r with log := log } e.name c) =
        (.error f, r')) ↔ ∃ v ∈ e.values, EnumClass.passesOver e.name v.name = true ∧
          r.names.has v.name = false ∧ v.name ≠ e.name := by
      refine loop.trans (exists_congr fun v => and_congr_right fun inside => ?_)
      rw [EnumClass.member?_error_iff made inside, withEnumeration_free]
    rw [and_iff_right ⟨c, made⟩, ← passed]
    constructor
    · rintro ⟨f, failed, escapes⟩
      rw [onward, run_bind] at failed
      rcases ended : (registerEnumerators c e.values).run (withEnumeration { r with log := log } e.name c)
        with ⟨result, r'⟩
      rw [ended] at failed
      cases result with
      | ok _ => cases failed
      | error f' => exact ⟨f', r', rfl⟩
    · rintro ⟨f, r', ended⟩
      refine ⟨f, ?_, registerEnumerators_escapes ended⟩
      rw [onward, run_bind, ended]

/- A fault that is contained comes before any name is bound. -/
theorem registerEnumeration_failed {e : Enumeration} {f : RegistrationFault}
    (ended : (registerEnumeration e).run r = (.error f, r')) (contained : f.isContained = true) : Resolved r r' := by
  rcases registerEnumeration_run e r with ⟨f', log, -, ended'⟩ | ⟨c, log, -, onward⟩
  · cases ended.symm.trans ended'
    exact ⟨r.classes, r.pending, log, rfl⟩
  · rw [onward, run_bind] at ended
    rcases looped : (registerEnumerators c e.values).run (withEnumeration { r with log := log } e.name c)
      with ⟨result, r''⟩
    rw [looped] at ended
    cases result with
    | ok _ => cases ended
    | error f' =>
      cases ended
      cases contained.symm.trans (registerEnumerators_escapes looped)

end Register

end CBindings
