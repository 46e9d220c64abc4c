import CBindings.Proofs.Registry.Enumerators
import CBindings.Proofs.Registry.Trials

/-! What trying one declaration can do: to names, to classes, and to the tags that wait for theirs. -/
namespace CBindings.Register

open Outcome

/-- How the trial of a declaration goes: it is passed over, or it binds its name, or a search decides. -/
inductive Tried (r : Registry) : Declaration → Except RegistrationFault Bool × Registry → Prop
  | passed {d log} : Tried r d (.ok false, { r with log := log })
  | refused {d f} : Tried r d (.error f, r)
  | bound {c : Constant} {index} (free : r.names.has c.name = false) :
    Tried r (.constant c) (.ok true, { r with names := r.names.insert c.name (.value c.value), index := index })
  | constructed {typeName done classes log} (same : r.classes.SameCores classes) :
    Tried r (.constructor typeName) (.ok done, { r with classes := classes, log := log })
  | enumerated {e result names index log}
    (others : ∀ name, name ≠ e.name → (∀ v ∈ e.values, v.name ≠ name) → names.get? name = r.names.get? name) :
    Tried r (.enumeration e) (result, { r with names := names, index := index, log := log })
  | searched {α : Type} {d t name log ended} {found : Except RegistrationFault α × Registry}
    (begins : Begins r d { r with log := log } t) (own : d.boundName? = some name)
    (left : found.2 = ((nativeType t).run { r with log := log }).2) (concludes : Concludes name found ended) :
    Tried r d ended
  | record {record} (free : r.names.has record.name = false) :
    Tried r (.record record) ((registerRecord record).run r)

variable {r r' r₁ s s' : Registry} {d : Declaration} {record : Record} {name : String} {t : TypeExpr}
  {ended : Except RegistrationFault Bool × Registry} {P : String → Bool → Prop} {i : Nat}

theorem tried_guarded {x : Register Bool} (d : Declaration)
    (free : r.names.has name = false →
      Tried r d ((do if ← isTaken name then return false else x : Register Bool).run r)) :
    Tried r d ((do if ← isTaken name then return false else x : Register Bool).run r) := by
  cases taken : r.names.has name with
  | false => exact free taken
  | true =>
    obtain ⟨log, passed⟩ := guarded_passed (x := x) taken
    rw [passed]
    exact .passed

theorem tried_searched (begins : Begins r d r t) (own : d.boundName? = some name)
    (concludes : Concludes name ((nativeType t).run r) ended) : Tried r d ended :=
  .searched (show Begins r d { r with log := r.log } t from begins) own rfl concludes

theorem registerOne_tried (d : Declaration) (r : Registry) : Tried r d ((registerOne d).run r) := by
  match d with
  | .constant c =>
    refine tried_guarded _ fun free => ?_
    have done : (do if ← isTaken c.name then return false else _ : Register Bool).run r = _ :=
      registerConstant_free free
    rw [done]
    exact .bound free
  | .record record => exact tried_guarded _ .record
  | .constructor typeName =>
    obtain ⟨done, classes, log, finished, same⟩ := registerConstructor_run typeName r
    rw [registerOne, finished]
    exact .constructed same
  | .enumeration e =>
    obtain ⟨names, index, log, left, others⟩ := registerEnumeration_left e r
    have ended : (registerEnumeration e).run r = (((registerEnumeration e).run r).1,
        { r with names := names, index := index, log := log }) := Prod.ext rfl left
    rw [registerOne, ended]
    exact .enumerated others
  | .function f =>
    cases started : functionStart? r f with
    | none =>
      rcases registerFunction_passed started with ⟨log, passed⟩ | ⟨missed, failed⟩
      · rw [registerOne, passed]
        exact .passed
      · rw [registerOne, failed]
        exact .refused
    | some s =>
      have concludes := registerFunction_concludes started
      obtain ⟨log, rfl, -⟩ := functionStart?_cases started
      exact .searched (.signature started) rfl (nativeType_function_left _ _ _ _).symm concludes
  | .alias a => exact tried_guarded _ fun free => tried_searched (.target free) rfl (registerAlias_concludes free)
  | .variable v =>
    exact tried_guarded _ fun free => tried_searched (.type free) rfl (registerVariable_concludes free)
  | .info message => exact .passed
  | .stray text => exact .refused

section Names

theorem Concludes.left {α : Type} {found : Except RegistrationFault α × Registry}
    (concludes : Concludes name found ended) :
    ∃ names, ended.2 = { found.2 with names := names } ∧
      ∀ other, other ≠ name → names.get? other = found.2.names.get? other := by
  obtain ⟨result, s⟩ := found
  cases result with
  | error f =>
    cases concludes
    exact ⟨s.names, rfl, fun _ _ => rfl⟩
  | ok native =>
    rcases concludes with ⟨f, -, rfl⟩ | ⟨b, rfl⟩
    · exact ⟨s.names, rfl, fun _ _ => rfl⟩
    · refine ⟨_, rfl, fun other apart => ?_⟩
      rw [Namespace.get?_insert, if_neg apart]

theorem BindsNew.names {x : Register Bool} (binds : BindsNew name x) (r : Registry) {other : String}
    (apart : other ≠ name) : (x.run r).2.names.get? other = r.names.get? other := by
  rcases binds r with same | ⟨-, same | ⟨-, b, -, bound⟩⟩
  · rw [same]
  · rw [same]
  · rw [bound, Namespace.get?_insert, if_neg apart]

/- A declaration binds no other names than its own, and those of its enumerators. -/
theorem Tried.names (tried : Tried r d ended) (other : d.boundName? ≠ some name)
    (enumerators : ∀ e, d = .enumeration e → ∀ v ∈ e.values, v.name ≠ name) :
    ended.2.names.get? name = r.names.get? name := by
  cases tried with
  | passed => rfl
  | refused => rfl
  | @bound c index free =>
    have apart : name ≠ c.name := fun same => other (congrArg some same.symm)
    exact (Namespace.get?_insert _ _ _ _).trans (if_neg apart)
  | constructed same => rfl
  | @enumerated e _ _ _ _ others =>
    have apart : name ≠ e.name := fun same => other (congrArg some same.symm)
    exact others name apart (enumerators e rfl)
  | @searched _ _ t own log _ _ _ named searched concludes =>
    have apart : name ≠ own := fun same => other (named.trans (congrArg some same.symm))
    obtain ⟨names, left, others⟩ := concludes.left
    rw [left]
    refine (others name apart).trans ?_
    rw [searched, (onlyResolves_nativeType t).names]
  | @record record free =>
    have apart : name ≠ record.name := fun same => other (congrArg some same.symm)
    exact (registerRecord_binds record).names r apart

end Names

section Classes

theorem Concludes.gained {α : Type} {found : Except RegistrationFault α × Registry}
    (allowed : ∀ s' tag isUnion, Asks s t s' tag isUnion → P tag isUnion)
    (searched : found.2 = ((nativeType t).run s).2) (concludes : Concludes name found ended) :
    Gained P s ended.2 := by
  obtain ⟨names, left, -⟩ := concludes.left
  obtain ⟨⟨extended, more, same, waiting⟩, -⟩ := nativeType_grown t s allowed
  rw [left, searched]
  exact ⟨extended, more, same, waiting⟩

/- Only a record takes a class away from those that wait. -/
theorem Tried.gained (tried : Tried r d ended) (notRecord : ∀ record, d ≠ .record record)
    (allowed : ∀ s t, Begins r d s t → ∀ s' tag isUnion, Asks s t s' tag isUnion → P tag isUnion) :
    Gained P r ended.2 := by
  cases tried with
  | passed => exact gained_of_same (Classes.Extends.refl _) rfl
  | refused => exact Gained.refl P r
  | bound free => exact gained_of_same (Classes.Extends.refl _) rfl
  | constructed same => exact gained_of_same same.extends rfl
  | enumerated others => exact gained_of_same (Classes.Extends.refl _) rfl
  | searched begins own searched concludes =>
    have gained := concludes.gained (allowed _ _ begins) searched
    exact ⟨gained.classes, gained.waiting⟩
  | @record record free => exact absurd rfl (notRecord record)

end Classes

section Waiting

theorem Waiting.gained (waiting : Waiting P 0 r.classes r.pending) (gained : Gained P r r') :
    Waiting P 0 r'.classes r'.pending := by
  obtain ⟨extended, more, same, new⟩ := gained
  rw [same]
  exact Waiting.append extended waiting new (Nat.zero_le _)

/-- The class has these members, and is not one that waits for others. -/
structure Settled (i : Nat) (core : String × Bool × Option (List (Field NativeType)) × Bool) (r : Registry) : Prop where
  inside : i < r.classes.records.length
  core_eq : (r.classes.record i).core = core
  alone : ∀ entry ∈ r.pending, entry.2 ≠ i

variable {core : String × Bool × Option (List (Field NativeType)) × Bool}

theorem Settled.congr (settled : Settled i core r) (classes : r'.classes = r.classes)
    (pending : r'.pending = r.pending) : Settled i core r' := by
  obtain ⟨inside, core_eq, alone⟩ := settled
  exact ⟨classes ▸ inside, classes ▸ core_eq, pending ▸ alone⟩

theorem Settled.gained (settled : Settled i core r) (gained : Gained P r r') : Settled i core r' := by
  obtain ⟨extended, more, same, new⟩ := gained
  have inside := settled.inside
  refine ⟨Nat.lt_of_lt_of_le inside extended.length_le, (extended.core_eq i inside).trans settled.core_eq, ?_⟩
  intro entry member
  rw [same] at member
  rcases List.mem_append.mp member with old | new'
  · exact settled.alone entry old
  · have above := (new entry new').1
    omega

/-- The class that a record is to have: the one that waits for it, or a new one; no one waits for it any more. -/
structure Taken (r : Registry) (record : Record) (i : Nat) (r₁ : Registry) : Prop where
  rest : ∃ classes, r₁ = { r with classes := classes, pending := r.pending.filter (·.1 != record.name) }
  classes : r.classes.Extends r₁.classes
  settled : Settled i (record.name, record.isUnion, none, false) r₁
  origin : (∃ entry ∈ r.pending, entry.2 = i) ∨ r.classes.records.length ≤ i
  waited : ∀ j, r.pending.lookup record.name = some j → (r.classes.record j).isUnion = record.isUnion → i = j

theorem takePending_taken (waiting : Waiting P 0 r.classes r.pending)
    (ended : (takePending record).run r = (.ok i, r₁)) : Taken r record i r₁ := by
  rcases takePending_cases record r with ⟨j, waited, kind, taken⟩ | ⟨other, declared⟩
  · cases ended.symm.trans taken
    have member : (record.name, i) ∈ r.pending := by
      obtain ⟨before, after, split, -⟩ := List.lookup_eq_some_iff.mp waited
      rw [split]
      exact List.mem_append_right before (.head after)
    obtain ⟨-, inside, isUnion, -, core⟩ := waiting _ member
    have same : isUnion = record.isUnion := (congrArg (fun core => core.2.1) core).symm.trans kind
    refine ⟨⟨r.classes, rfl⟩, Classes.Extends.refl _, ⟨inside, same ▸ core, ?_⟩, .inl ⟨_, member, rfl⟩, ?_⟩
    · intro entry left equal
      obtain ⟨member', apart⟩ := List.mem_filter.mp left
      obtain ⟨-, -, _, -, core'⟩ := waiting entry member'
      rw [equal] at core'
      have names : entry.1 = record.name := congrArg Prod.fst (core'.symm.trans core)
      simp [names] at apart
    · intro j' waited' _
      exact Option.some.inj (waited.symm.trans waited')
  · rw [declared] at ended
    obtain ⟨rfl, rfl⟩ := declare_ok ended
    refine ⟨⟨_, rfl⟩, Classes.extends_append _ _, ⟨by simp, ?_, ?_⟩, .inr (Nat.le_refl _), ?_⟩
    · rw [Classes.record_append_length]
      rfl
    · intro entry left
      exact Nat.ne_of_lt (waiting entry (List.mem_filter.mp left).1).2.1
    · intro j waited kind
      exact absurd kind (other j waited)

theorem Taken.waiting (taken : Taken r record i r₁) (waiting : Waiting P 0 r.classes r.pending) :
    Waiting P 0 r₁.classes r₁.pending := by
  obtain ⟨classes, same⟩ := taken.rest
  have fewer : Waiting P 0 r.classes r₁.pending := by
    rw [same]
    exact waiting.sublist List.filter_sublist
  exact fewer.extends taken.classes

theorem Taken.settled_other {j : Nat} (taken : Taken r record i r₁) (settled : Settled j core r) :
    j ≠ i ∧ Settled j core r₁ := by
  obtain ⟨classes, same⟩ := taken.rest
  have inside := settled.inside
  refine ⟨?_, Nat.lt_of_lt_of_le inside taken.classes.length_le, ?_, fun entry left => ?_⟩
  · rcases taken.origin with ⟨entry, member, rfl⟩ | new
    · exact (settled.alone entry member).symm
    · omega
  · exact (taken.classes.core_eq j inside).trans settled.core_eq
  · rw [same] at left
    exact settled.alone entry (List.mem_filter.mp left).1

theorem takePending_refused {f : RegistrationFault} (ended : (takePending record).run r = (.error f, r₁)) :
    r₁ = { r with pending := r.pending.filter (·.1 != record.name) } := by
  rcases takePending_cases record r with ⟨j, -, -, taken⟩ | ⟨-, declared⟩
  · cases ended.symm.trans taken
  · rw [declared, onClasses_run] at ended
    rcases ClassWork.declare_run record.name record.isUnion r.classes with ⟨-, refused⟩ | made
    · rw [refused] at ended
      cases ended
      rfl
    · rw [made] at ended
      cases ended

/- While the members are looked for classes are gained; then the class itself gets its field list. -/
theorem defineMembers_left (i : Nat) (record : Record) (r : Registry)
    (allowed : ∀ before f after members s, record.fields = some (before ++ f :: after) →
      (memberTypes before).run r = (.ok members, s) → ∀ s' tag isUnion, Asks s f.type s' tag isUnion → P tag isUnion) :
    ∃ mid c, Grown P r mid ∧ ((defineMembers i record).run r).2 = { mid with classes := c } ∧
      c.records.length = mid.classes.records.length ∧ ∀ j ≠ i, (c.record j).core = (mid.classes.record j).core := by
  unfold defineMembers
  cases given : record.fields with
  | none => exact ⟨r, r.classes, Grown.refl P r, rfl, rfl, fun _ _ => rfl⟩
  | some fields =>
    have grown := memberTypes_grown fields r fun before f after members s split =>
      allowed before f after members s (given.trans (congrArg some split))
    dsimp only
    rw [run_bind]
    rcases ended : (memberTypes fields).run r with ⟨result, mid⟩
    rw [ended] at grown
    cases result with
    | error f => exact ⟨mid, mid.classes, grown, rfl, rfl, fun _ _ => rfl⟩
    | ok members =>
      dsimp only
      rw [onClasses_run]
      rcases set : (ClassWork.setFields i members record.anonymous).run mid.classes with ⟨result', c⟩
      obtain ⟨length, others, -⟩ := ClassWork.setFields_run set
      exact ⟨mid, c, grown, rfl, length, others⟩

/-- What stays true of classes: those that wait are blank, and those that do not wait keep their members. -/
def Keeps (P : String → Bool → Prop) (r r' : Registry) : Prop :=
  Waiting P 0 r'.classes r'.pending ∧ ∀ i core, Settled i core r → Settled i core r'

theorem Keeps.congr (keeps : Keeps P r s) (classes : r'.classes = s.classes) (pending : r'.pending = s.pending) :
    Keeps P r r' :=
  ⟨by rw [classes, pending]; exact keeps.1, fun i core settled => (keeps.2 i core settled).congr classes pending⟩

theorem Gained.keeps (gained : Gained P r r') (waiting : Waiting P 0 r.classes r.pending) : Keeps P r r' :=
  ⟨waiting.gained gained, fun _ _ settled => settled.gained gained⟩

theorem registerRecord_keeps (waiting : Waiting P 0 r.classes r.pending)
    (allowed : ∀ s t, Begins r (.record record) s t → ∀ s' tag isUnion, Asks s t s' tag isUnion → P tag isUnion) :
    Keeps P r ((registerRecord record).run r).2 := by
  cases free : r.names.has record.name with
  | true =>
    obtain ⟨log, passed⟩ : ∃ log, (registerRecord record).run r = (.ok false, { r with log := log }) :=
      guarded_passed free
    rw [passed]
    exact ⟨waiting, fun _ _ settled => settled.congr rfl rfl⟩
  | false =>
    rw [registerRecord_free free]
    rcases ended : (takePending record).run r with ⟨result, r₁⟩
    cases result with
    | error f =>
      rw [takePending_refused ended]
      refine ⟨waiting.sublist List.filter_sublist, fun i core settled => ⟨settled.inside, settled.core_eq, ?_⟩⟩
      exact fun entry left => settled.alone entry (List.mem_filter.mp left).1
    | ok i =>
      have taken := takePending_taken waiting ended
      obtain ⟨mid, c, ⟨gained, -⟩, left, length, others⟩ := defineMembers_left i record (withRecord r₁ record.name i)
        fun before f after members s given earlier => allowed s f.type (.member free ended earlier given)
      have kept : Keeps P r { mid with classes := c } := by
        have own : Settled i _ (withRecord r₁ record.name i) := taken.settled.congr rfl rfl
        have waiting' : Waiting P 0 mid.classes mid.pending :=
          Waiting.gained (r := withRecord r₁ record.name i) (taken.waiting waiting) gained
        refine ⟨waiting'.setFields length others (own.gained gained).alone, fun j core settled => ?_⟩
        obtain ⟨apart, before⟩ := taken.settled_other settled
        have settled' : Settled j core (withRecord r₁ record.name i) := before.congr rfl rfl
        obtain ⟨inside, core_eq, alone⟩ := settled'.gained gained
        exact ⟨length ▸ inside, (others j apart).trans core_eq, alone⟩
      dsimp only
      rcases defined : (defineMembers i record).run (withRecord r₁ record.name i) with ⟨result', r₂⟩
      rw [defined] at left
      dsimp only at left
      subst left
      cases result' with
      | ok _ => exact kept.congr rfl rfl
      | error f => exact kept.congr rfl rfl

/- The phases of a record that is registered. -/
theorem registerRecord_registered (waiting : Waiting P 0 r.classes r.pending)
    (ended : (registerRecord record).run r = (.ok true, r')) :
    ∃ i r₁ r₂, Taken r record i r₁ ∧ (defineMembers i record).run (withRecord r₁ record.name i) = (.ok (), r₂) ∧
      r' = { r₂ with defined := r₂.defined ++ [record.name] } := by
  cases free : r.names.has record.name with
  | true =>
    obtain ⟨log, passed⟩ : ∃ log, (registerRecord record).run r = (.ok false, { r with log := log }) :=
      guarded_passed free
    cases ended.symm.trans passed
  | false =>
    rw [registerRecord_free free] at ended
    rcases found : (takePending record).run r with ⟨result, r₁⟩
    rw [found] at ended
    cases result with
    | error f => cases ended
    | ok i =>
      dsimp only at ended
      rcases defined : (defineMembers i record).run (withRecord r₁ record.name i) with ⟨result', r₂⟩
      rw [defined] at ended
      cases result' with
      | error f => cases ended
      | ok _ =>
        cases ended
        exact ⟨i, r₁, r₂, takePending_taken waiting found, defined, rfl⟩

/-- What a declaration says of a member besides its type. -/
def label {τ : Type} (f : Field τ) : String × Option Int := (f.name, f.width)

theorem memberTypes_labels {fields : List (Field TypeExpr)} {members : List (Field NativeType)}
    (ended : (memberTypes fields).run r = (.ok members, r')) : members.map label = fields.map label := by
  rw [memberTypes_eq] at ended
  induction fields generalizing r members with
  | nil =>
    cases ended
    rfl
  | cons f rest ih =>
    rw [List.mapM_cons] at ended
    obtain ⟨member, between, found, onward⟩ := run_bind_ok ended
    obtain ⟨others, between', found', remaining⟩ := run_bind_ok onward
    cases remaining
    rw [memberType_run] at found
    have labelled : label member = label f := by
      generalize ((valueType f.type).run r).1 = result at found
      cases result with
      | ok native =>
        cases found
        rfl
      | error fault => cases found
    rw [List.map_cons, List.map_cons, labelled, ih found']

theorem setFields_ok {members : List (Field NativeType)} {anonymous : List String}
    (ended : (onClasses (ClassWork.setFields i members anonymous)).run r = (.ok (), r')) :
    ∃ c, r' = { r with classes := c } ∧ c.records.length = r.classes.records.length ∧
      (∀ j ≠ i, (c.record j).core = (r.classes.record j).core) ∧
      ∀ name kind fields failed, (r.classes.record i).core = (name, kind, fields, failed) →
        i < r.classes.records.length → (c.record i).core = (name, kind, some members, failed) := by
  rw [onClasses_run] at ended
  rcases set : (ClassWork.setFields i members anonymous).run r.classes with ⟨result, c⟩
  rw [set] at ended
  obtain ⟨length, others, -, own⟩ := ClassWork.setFields_run set
  cases result with
  | error f => cases ended
  | ok _ =>
    cases ended
    refine ⟨c, rfl, length, others, fun name kind fields failed core inside => ?_⟩
    simp only [RecordClass.core, Prod.mk.injEq] at core
    obtain ⟨rfl, rfl, -, rfl⟩ := core
    exact own rfl inside

/- The class gets the members that were found, and no one waits for it. -/
theorem defineMembers_settled (blank : Settled i (record.name, record.isUnion, none, false) r)
    (ended : (defineMembers i record).run r = (.ok (), r')) :
    ∃ members, Settled i (record.name, record.isUnion, members, false) r' ∧
      members.map (·.map label) = record.fields.map (·.map label) := by
  unfold defineMembers at ended
  cases given : record.fields with
  | none =>
    rw [given] at ended
    cases ended
    exact ⟨none, blank, rfl⟩
  | some fields =>
    rw [given] at ended
    obtain ⟨members, mid, found, set⟩ := run_bind_ok ended
    have gained := (memberTypes_grows fields r).toGained
    rw [found] at gained
    obtain ⟨inside, core, alone⟩ := blank.gained gained
    obtain ⟨c, rfl, length, -, own⟩ := setFields_ok set
    refine ⟨some members, ⟨length ▸ inside, ?_, alone⟩, congrArg some (memberTypes_labels found)⟩
    exact own record.name record.isUnion none false core inside

theorem registerOne_keeps (waiting : Waiting P 0 r.classes r.pending)
    (allowed : ∀ s t, Begins r d s t → ∀ s' tag isUnion, Asks s t s' tag isUnion → P tag isUnion) :
    Keeps P r ((registerOne d).run r).2 := by
  match d with
  | .record record => exact registerRecord_keeps waiting allowed
  | .constant _ | .constructor _ | .enumeration _ | .function _ | .alias _ | .variable _ | .info _ | .stray _ =>
    exact ((registerOne_tried _ r).gained (by simp) allowed).keeps waiting

/- Beyond that, a trial only writes to the log. -/
theorem trial_left (d : Declaration) (r : Registry) :
    ∃ log, ((trial d).run r).2 = { ((registerOne d).run r).2 with log := log } := by
  cases isInfo : d.isInfo with
  | true =>
    cases d with
    | info message =>
      obtain ⟨log, noted⟩ := note_run message r
      rw [trial, run_bind, noted]
      exact ⟨log, rfl⟩
    | _ => cases isInfo
  | false =>
    rw [trial_run_eq d r isInfo, attempt_run_eq]
    rcases (registerOne d).run r with ⟨result, r'⟩
    cases result with
    | ok done => exact ⟨r'.log, rfl⟩
    | error f =>
      dsimp only
      cases f.isContained with
      | true => exact ⟨_, rfl⟩
      | false => exact ⟨r'.log, rfl⟩

end Waiting

end CBindings.Register
