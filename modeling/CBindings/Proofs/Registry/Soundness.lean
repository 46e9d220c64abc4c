import CBindings.Proofs.Native.Tables
import CBindings.Proofs.Registry.Moves
import CBindings.Proofs.Registry.Sessions

/-! The table of classes through a whole session: it stays sound, and no one refers to a class that is not in it. -/
namespace CBindings.Register

open Outcome

/-- The table is sound, and has every class that the registry knows of. -/
structure Rooted (r : Registry) : Prop where
  classes : r.classes.Sound
  known : ∀ k, Known r k → k < r.classes.records.length

/-- One state comes after another: names stay bound, and no name that was bound gets another record class. -/
structure Follows (r r' : Registry) : Prop where
  rooted : Rooted r → Rooted r'
  has : ∀ name, r.names.has name = true → r'.names.has name = true
  records : ∀ name k, r.names.has name = true → r'.names.get? name = some (.type (.record k)) →
    r.names.get? name = some (.type (.record k))
  defined : r'.defined = r.defined

variable {r r' : Registry} {name : String}

theorem Follows.refl (r : Registry) : Follows r r := ⟨id, fun _ bound => bound, fun _ _ _ bound => bound, rfl⟩

theorem Follows.trans (r r' r'' : Registry) (first : Follows r r') (second : Follows r' r'') : Follows r r'' := by
  refine ⟨fun rooted => second.rooted (first.rooted rooted), fun name bound => second.has name (first.has name bound),
    fun name k bound found => ?_, second.defined.trans first.defined⟩
  exact first.records name k bound (second.records name k (first.has name bound) found)

theorem follows_of_names (rooted : Rooted r → Rooted r') (names : r'.names = r.names)
    (defined : r'.defined = r.defined) : Follows r r' := by
  refine ⟨rooted, ?_, ?_, defined⟩
  · rw [names]
    exact fun _ bound => bound
  · rw [names]
    exact fun _ _ _ bound => bound

theorem follows_aside (r : Registry) (index : ConstantIndex) (log : Log) :
    Follows r { r with index := index, log := log } :=
  follows_of_names (fun rooted => ⟨rooted.classes, rooted.known⟩) rfl rfl

theorem follows_log (r : Registry) (log : Log) : Follows r { r with log := log } := follows_aside r r.index log

/- The table has more classes, or classes with more marks, and tags that wait are in it. -/
theorem Rooted.grown (rooted : Rooted r) (names : r'.names = r.names)
    (same : ∀ j, (r'.classes.record j).body = (r.classes.record j).body)
    (final : ∀ k, (r.classes.record k).isFinal = true → (r'.classes.record k).isFinal = true)
    (longer : r.classes.records.length ≤ r'.classes.records.length)
    (pending : ∀ entry ∈ r'.pending, entry ∈ r.pending ∨ entry.2 < r'.classes.records.length) : Rooted r' := by
  refine ⟨rooted.classes.marked same final, fun k known => ?_⟩
  have earlier {k : Nat} (known : Known r k) : k < r'.classes.records.length :=
    Nat.lt_of_lt_of_le (rooted.known k known) longer
  rcases known with inside | ⟨name, bound⟩ | ⟨entry, waits, rfl⟩
  · exact inside
  · rw [names] at bound
    exact earlier (.inr (.inl ⟨name, bound⟩))
  · rcases pending entry waits with before | inside
    · exact earlier (.inr (.inr ⟨entry, before, rfl⟩))
    · exact inside

theorem body_declared (c : Classes) (name : String) (isUnion : Bool) (j : Nat) :
    (({ c with records := c.records ++ [{ name, isUnion }] } : Classes).record j).body = (c.record j).body ∧
      (({ c with records := c.records ++ [{ name, isUnion }] } : Classes).record j).isFinal = (c.record j).isFinal := by
  rcases Nat.lt_trichotomy j c.records.length with below | same | above
  · rw [Classes.record_append_of_lt below]
    exact ⟨rfl, rfl⟩
  · rw [same, Classes.record_append_length]
    simp [Classes.record, RecordClass.body]
  · have outside : (c.records ++ [({ name, isUnion } : RecordClass)])[j]? = none := by
      rw [List.getElem?_eq_none_iff, List.length_append, List.length_singleton]
      exact above
    simp [Classes.record, outside, List.getElem?_eq_none (Nat.le_of_lt above)]

theorem follows_declare (name : String) (isUnion : Bool) (r : Registry) :
    Follows r ((onClasses (ClassWork.declare name isUnion)).run r).2 := by
  rw [onClasses_run]
  rcases ClassWork.declare_run name isUnion r.classes with ⟨-, refused⟩ | made
  · rw [refused]
    exact follows_log r r.log
  · rw [made]
    refine follows_of_names (fun rooted => rooted.grown rfl (fun j => (body_declared _ _ _ j).1) (fun k marked => ?_)
      (by simp) fun entry waits => .inl waits) rfl rfl
    exact (body_declared _ _ _ k).2.trans marked

theorem follows_array (element : NativeType) (length : Int) (r : Registry) :
    Follows r ((onClasses (ClassWork.array element length)).run r).2 := by
  rw [onClasses_run]
  rcases ClassWork.array_run element length r.classes with ⟨_, refused, -⟩ | ⟨arrays, made, -⟩
  · rw [refused]
    exact follows_log r r.log
  · rw [made]
    exact follows_of_names (fun rooted => rooted.grown rfl (fun _ => rfl) (fun _ marked => marked) (Nat.le_refl _)
      fun entry waits => .inl waits) rfl rfl

theorem follows_recordClass (tag : String) (isUnion : Bool) (r : Registry) :
    Follows r ((recordClass tag isUnion).run r).2 := by
  rcases recordClass_cases tag isUnion r with ⟨i, -, known⟩ | ⟨-, ⟨-, refused⟩ | made⟩
  · rw [known]
    exact Follows.refl r
  · rw [refused]
    exact Follows.refl r
  · rw [made]
    refine follows_of_names (fun rooted => rooted.grown rfl (fun j => (body_declared _ _ _ j).1) (fun k marked => ?_)
      (by simp) fun entry waits => ?_) rfl rfl
    · exact (body_declared _ _ _ k).2.trans marked
    · refine (List.mem_append.mp waits).imp_right fun new => ?_
      cases List.mem_singleton.mp new
      simp

theorem follows_setFields {i : Nat} {members : List (Field NativeType)} (anonymous : List String)
    (blank : r.classes.Blank i) (known : ∀ f ∈ members, ∀ k, f.type = .record k → Known r k) :
    Follows r ((onClasses (ClassWork.setFields i members anonymous)).run r).2 := by
  rw [onClasses_run]
  rcases ended : (ClassWork.setFields i members anonymous).run r.classes with ⟨result, c⟩
  obtain ⟨length, -⟩ := ClassWork.setFields_run ended
  refine follows_of_names (fun rooted => ⟨?_, fun k known => ?_⟩) rfl rfl
  · exact ClassWork.setFields_sound rooted.classes blank.inside blank.fields
      (fun f inside k typed => rooted.known k (known f inside k typed)) ended
  · exact length.symm ▸ rooted.known k (known.imp_left fun inside => length ▸ inside)

theorem follows_moves : Moves Follows where
  refl := Follows.refl
  trans := Follows.trans
  tag := follows_recordClass
  array := follows_array
  declare := follows_declare
  fill _ _ anonymous _ blank known := follows_setFields anonymous blank known

/- A free name may be bound to any class that is known; no name is bound anew to a record class. -/
theorem follows_bind (b : Binding)
    (fits : ∀ k, b = .type (.record k) → r.names.has name = false ∧ Known r k) :
    Follows r { r with names := r.names.insert name b } := by
  refine ⟨fun rooted => ⟨rooted.classes, fun k known => rooted.known k ?_⟩, fun other bound => ?_,
    fun other k bound found => ?_, rfl⟩
  · rcases known with inside | ⟨other, found⟩ | waits
    · exact .inl inside
    · rw [Namespace.get?_insert] at found
      split at found
      · cases found
        exact (fits k rfl).2
      · exact .inr (.inl ⟨other, found⟩)
    · exact .inr (.inr waits)
  · rw [Namespace.has_insert, bound, Bool.or_true]
  · rw [Namespace.get?_insert] at found
    split at found
    · rename_i same
      cases found
      rw [same, (fits k rfl).1] at bound
      cases bound
    · exact found

theorem follows_isTaken (name : String) (r : Registry) : Follows r ((isTaken name).run r).2 := by
  obtain ⟨log, asked⟩ := isTaken_run name r
  rw [asked]
  exact follows_log r log

theorem follows_guarded {x : Register Bool} (free : r.names.has name = false → Follows r (x.run r).2) :
    Follows r ((do if ← isTaken name then return false else x : Register Bool).run r).2 := by
  cases taken : r.names.has name with
  | true =>
    obtain ⟨log, passed⟩ := guarded_passed (x := x) taken
    rw [passed]
    exact follows_log r log
  | false =>
    rw [guarded_free taken]
    exact free taken

theorem registerConstant_follows (c : Constant) (r : Registry) : Follows r ((registerConstant c).run r).2 := by
  refine follows_guarded fun free => ?_
  refine bind_moves Follows.trans (follows_bind (.value c.value) (by simp)) fun _ r' _ => ?_
  exact follows_aside r' (r'.index.add c.value c.name) r'.log

theorem registerAlias_follows (a : Alias) (r : Registry) : Follows r ((registerAlias a).run r).2 := by
  refine follows_guarded fun free => bind_moves Follows.trans (follows_moves.nativeType a.target r) ?_
  intro native r' found
  cases native with
  | none => exact Follows.refl r'
  | some t =>
    refine follows_bind (.type t) fun k same => ?_
    cases same
    have names := (onlyResolves_nativeType a.target).names r
    rw [found] at names
    exact ⟨names.symm ▸ free, nativeType_known found⟩

theorem registerVariable_follows (v : Variable) (r : Registry) : Follows r ((registerVariable v).run r).2 := by
  refine follows_guarded fun free => bind_moves Follows.trans ?_ fun t r' _ => follows_bind _ (by simp)
  rw [valueType_left]
  exact follows_moves.nativeType v.type r

theorem bindFunction_follows (f : Function) (r : Registry) : Follows r ((bindFunction f).run r).2 := by
  refine bind_moves Follows.trans (follows_moves.nativeType f.result r) fun result r₁ _ => ?_
  refine bind_moves Follows.trans ?_ fun arguments r₂ _ => follows_bind _ (by simp)
  rw [parameterTypes_eq]
  refine mapM_moves Follows.refl Follows.trans f.parameters r₁ fun _ p _ _ s _ _ => ?_
  rw [valueType_left]
  exact follows_moves.nativeType p.type s

theorem registerFunction_follows (f : Function) (r : Registry) : Follows r ((registerFunction f).run r).2 := by
  cases started : functionStart? r f with
  | none =>
    rcases registerFunction_passed started with ⟨log, passed⟩ | ⟨missed, failed⟩
    · rw [passed]
      exact follows_log r log
    · rw [failed]
      exact Follows.refl r
  | some s =>
    obtain ⟨log, rfl, -⟩ := functionStart?_cases started
    rw [registerFunction_started started]
    exact Follows.trans _ _ _ (follows_log r log) (bindFunction_follows f _)

theorem registerEnumerators_follows (e : EnumClass) (vs : List Enumerator) (r : Registry) :
    Follows r ((registerEnumerators e vs).run r).2 := by
  induction vs generalizing r with
  | nil => exact Follows.refl r
  | cons v rest ih =>
    rw [registerEnumerators]
    refine bind_moves Follows.trans (follows_isTaken v.name r) fun taken r₁ _ => ?_
    split
    · cases e.member? v.name with
      | error f => exact Follows.refl r₁
      | ok member =>
        refine bind_moves Follows.trans (follows_bind _ (by simp)) fun _ r₂ _ => ?_
        exact bind_moves Follows.trans (follows_aside r₂ _ r₂.log) fun _ r₃ _ => ih r₃
    · exact ih r₁

theorem registerEnumeration_follows (e : Enumeration) (r : Registry) :
    Follows r ((registerEnumeration e).run r).2 := by
  unfold registerEnumeration
  refine bind_moves Follows.trans (follows_isTaken e.name r) fun taken r₁ _ => ?_
  cases EnumClass.make e.name e.values with
  | error f => exact Follows.refl r₁
  | ok c =>
    have values (r : Registry) : Follows r ((do
        registerEnumerators c e.values
        return !taken : Register Bool).run r).2 :=
      bind_moves Follows.trans (registerEnumerators_follows c e.values r) fun _ r' _ => Follows.refl r'
    cases taken with
    | true => exact values r₁
    | false => exact bind_moves Follows.trans (follows_bind (.enumeration c) (by simp)) fun _ r₂ _ => values r₂

/- The constructor is set on a record that was defined before, if none of its own members is called `zero`. -/
theorem registerConstructor_cases (name : String) (r : Registry) :
    (∃ log, (registerConstructor name).run r = (.ok false, { r with log := log })) ∨
      ∃ i, name ∈ r.defined ∧ r.names.get? name = some (.type (.record i)) ∧
        (∀ f ∈ (r.classes.record i).fields.getD [], f.name ≠ "zero") ∧
        (registerConstructor name).run r =
          (.ok true, { r with classes := r.classes.update i fun c => { c with hasZero := true } }) := by
  unfold registerConstructor
  rw [run_bind, run_get]
  dsimp only
  split
  · exact .inl ⟨r.log, rfl⟩
  · rename_i defined
    have defined : name ∈ r.defined := by simpa using defined
    split
    · rename_i i bound
      split
      · obtain ⟨log, noted⟩ := note_run ("Skipping " ++ name ++ ".zero(): field named zero") r
        rw [run_bind, noted]
        exact .inl ⟨log, rfl⟩
      · rename_i unnamed
        refine .inr ⟨i, defined, bound, fun f inside same => unnamed ?_, rfl⟩
        exact List.any_eq_true.mpr ⟨f, inside, beq_iff_eq.mpr same⟩
    · exact .inl ⟨r.log, rfl⟩

theorem registerConstructor_follows (name : String) (r : Registry) :
    Follows r ((registerConstructor name).run r).2 := by
  rcases registerConstructor_cases name r with ⟨log, passed⟩ | ⟨i, -, -, -, done⟩
  · rw [passed]
    exact follows_log r log
  · rw [done]
    have marked (j : Nat) :
        ((r.classes.update i fun c => { c with hasZero := true }).record j).body = (r.classes.record j).body ∧
        ((r.classes.update i fun c => { c with hasZero := true }).record j).isFinal = (r.classes.record j).isFinal := by
      rw [Classes.record_update]
      split
      · exact ⟨rfl, rfl⟩
      · exact ⟨rfl, rfl⟩
    refine follows_of_names (fun rooted => rooted.grown rfl (fun j => (marked j).1) (fun k final => ?_) ?_
      fun entry waits => .inl waits) rfl rfl
    · exact (marked k).2.trans final
    · exact Nat.le_of_eq (Classes.length_update _ _ _).symm

theorem registerOne_follows {d : Declaration} (notRecord : ∀ record, d ≠ .record record) (r : Registry) :
    Follows r ((registerOne d).run r).2 := by
  rcases d with c | record | e | f | a | v | name | _ | _
  · exact registerConstant_follows c r
  · exact absurd rfl (notRecord record)
  · exact registerEnumeration_follows e r
  · exact registerFunction_follows f r
  · exact registerAlias_follows a r
  · exact registerVariable_follows v r
  · exact registerConstructor_follows name r
  · exact Follows.refl r
  · exact Follows.refl r

theorem takePending_follows (record : Record) (r : Registry) : Follows r ((takePending record).run r).2 := by
  have dropped : Follows r { r with pending := r.pending.filter (·.1 != record.name) } :=
    follows_of_names (fun rooted => rooted.grown rfl (fun _ => rfl) (fun _ marked => marked) (Nat.le_refl _)
      fun entry waits => .inl (List.mem_filter.mp waits).1) rfl rfl
  rcases takePending_cases record r with ⟨i, -, -, taken⟩ | ⟨-, declared⟩
  · rw [taken]
    exact dropped
  · rw [declared]
    exact Follows.trans _ _ _ dropped (follows_declare record.name record.isUnion _)

/- While its members are looked for, the name of the record stands for its class, which is still blank. -/
theorem Taken.defining {record : Record} {i : Nat} {r₁ : Registry} (taken : Taken r record i r₁)
    (free : r.names.has record.name = false) :
    Follows r₁ (withRecord r₁ record.name i) ∧
      Follows (withRecord r₁ record.name i) ((defineMembers i record).run (withRecord r₁ record.name i)).2 := by
  have inside := taken.settled.inside
  have blank : (withRecord r₁ record.name i).classes.Blank i :=
    Classes.blank_of_core inside taken.settled.core_eq
  refine ⟨follows_bind _ fun k same => ?_, follows_moves.defineMembers fun members r' extended known => ?_⟩
  · cases same
    obtain ⟨classes, rfl⟩ := taken.rest
    exact ⟨free, .inl inside⟩
  · exact follows_setFields record.anonymous (blank.extends extended) known

/-- A sound registry: its table is sound, and the records of the running registration have classes that no field list
was refused. -/
structure Sound (r : Registry) : Prop where
  rooted : Rooted r
  waiting : Waiting (fun _ _ => True) 0 r.classes r.pending
  defined : ∀ name ∈ r.defined, r.names.has name = true ∧ ∀ i, r.names.get? name = some (.type (.record i)) →
    ∃ tag isUnion members, Settled i (tag, isUnion, members, false) r

/- Nothing is registered yet, and no name is bound to a record class. -/
theorem sound_fresh {names : Namespace} (unbound : ∀ name k, names.get? name ≠ some (.type (.record k))) :
    Sound { names := names } := by
  refine ⟨⟨Classes.sound_empty, fun k known => ?_⟩, waiting_nil _ _ _, fun _ inside => by cases inside⟩
  rcases known with inside | ⟨name, bound⟩ | ⟨entry, waits, -⟩
  · exact inside
  · exact absurd bound (unbound name k)
  · cases waits

/- What was defined before is still, if its name is bound to no other class. -/
theorem Sound.still (sound : Sound r) (keeps : Keeps (fun _ _ => True) r r') (inside : name ∈ r.defined)
    (records : ∀ i, r'.names.get? name = some (.type (.record i)) → r.names.get? name = some (.type (.record i))) :
    ∀ i, r'.names.get? name = some (.type (.record i)) →
      ∃ tag isUnion members, Settled i (tag, isUnion, members, false) r' := by
  intro i found
  obtain ⟨tag, isUnion, members, settled⟩ := (sound.defined name inside).2 i (records i found)
  exact ⟨tag, isUnion, members, keeps.2 _ _ settled⟩

theorem Sound.follows (sound : Sound r) (follows : Follows r r') (keeps : Keeps (fun _ _ => True) r r') : Sound r' := by
  refine ⟨follows.rooted sound.rooted, keeps.1, fun name inside => ?_⟩
  rw [follows.defined] at inside
  have bound := (sound.defined name inside).1
  exact ⟨follows.has name bound, sound.still keeps inside fun i => follows.records name i bound⟩

/- A record that fails takes its name back. -/
theorem Sound.undone {r₂ : Registry} {b : Binding} (sound : Sound r) (follows : Follows r r₂)
    (free : r.names.has name = false) (named : r₂.names = r.names.insert name b)
    (keeps : Keeps (fun _ _ => True) r { r₂ with names := r₂.names.erase name }) :
    Sound { r₂ with names := r₂.names.erase name } := by
  have erased : r₂.names.erase name = r.names := by rw [named, Namespace.erase_insert free]
  rw [erased] at keeps ⊢
  have rooted := follows.rooted sound.rooted
  refine ⟨⟨rooted.classes, fun k known => rooted.known k ?_⟩, keeps.1, fun name inside => ?_⟩
  · rcases known with inside | ⟨other, bound⟩ | waits
    · exact .inl inside
    · refine .inr (.inl ⟨other, ?_⟩)
      have apart : other ≠ name := by
        rintro rfl
        rw [Namespace.has, bound] at free
        cases free
      rw [named, Namespace.get?_insert, if_neg apart]
      exact bound
    · exact .inr (.inr waits)
  · have earlier : name ∈ r.defined := follows.defined ▸ inside
    exact ⟨(sound.defined name earlier).1, sound.still keeps earlier fun i found => found⟩

/- A record that is defined joins those of the registration. -/
theorem Sound.joined {r₂ : Registry} (sound : Sound r) (follows : Follows r r₂) (bound : r₂.names.has name = true)
    (settled : ∀ i, r₂.names.get? name = some (.type (.record i)) →
      ∃ tag isUnion members, Settled i (tag, isUnion, members, false) r₂)
    (keeps : Keeps (fun _ _ => True) r { r₂ with defined := r₂.defined ++ [name] }) :
    Sound { r₂ with defined := r₂.defined ++ [name] } := by
  have rooted := follows.rooted sound.rooted
  refine ⟨⟨rooted.classes, rooted.known⟩, keeps.1, fun other inside => ?_⟩
  rcases List.mem_append.mp inside with earlier | own
  · rw [follows.defined] at earlier
    have before := (sound.defined other earlier).1
    exact ⟨follows.has other before, sound.still keeps earlier fun i => follows.records other i before⟩
  · cases List.mem_singleton.mp own
    refine ⟨bound, fun i found => ?_⟩
    obtain ⟨tag, isUnion, members, settled⟩ := settled i found
    exact ⟨tag, isUnion, members, settled.congr rfl rfl⟩

theorem registerRecord_sound {record : Record} (sound : Sound r) : Sound ((registerRecord record).run r).2 := by
  have keeps : Keeps (fun _ _ => True) r ((registerRecord record).run r).2 :=
    registerRecord_keeps sound.waiting fun _ _ _ _ _ _ _ => trivial
  cases free : r.names.has record.name with
  | true =>
    obtain ⟨log, passed⟩ : ∃ log, (registerRecord record).run r = (.ok false, { r with log := log }) :=
      guarded_passed free
    rw [passed] at keeps ⊢
    exact sound.follows (follows_log r log) keeps
  | false =>
    have taking := takePending_follows record r
    rw [registerRecord_free free] at keeps ⊢
    rcases ended : (takePending record).run r with ⟨result, r₁⟩
    rw [ended] at keeps taking
    cases result with
    | error f => exact sound.follows taking keeps
    | ok i =>
      have taken := takePending_taken sound.waiting ended
      have defining := taken.defining free
      dsimp only at keeps ⊢
      rcases ran : (defineMembers i record).run (withRecord r₁ record.name i) with ⟨result', r₂⟩
      rw [ran] at keeps defining
      have onward := Follows.trans _ _ _ taking (Follows.trans _ _ _ defining.1 defining.2)
      cases result' with
      | error f =>
        have names := (onlyResolves_defineMembers i record).names (withRecord r₁ record.name i)
        rw [ran] at names
        obtain ⟨classes, rfl⟩ := taken.rest
        exact sound.undone onward free names keeps
      | ok _ =>
        have blank : Settled i (record.name, record.isUnion, none, false) (withRecord r₁ record.name i) :=
          taken.settled.congr rfl rfl
        obtain ⟨members, settled, -⟩ := defineMembers_settled blank ran
        have bound : (withRecord r₁ record.name i).names.has record.name = true := by
          rw [withRecord, Namespace.has_insert, decide_eq_true rfl, Bool.true_or]
        refine sound.joined onward (defining.2.has _ bound) (fun j found => ?_) keeps
        have same := defining.2.records record.name j bound found
        rw [withRecord, Namespace.get?_insert, if_pos rfl] at same
        cases same
        exact ⟨_, _, members, settled⟩

theorem trial_sound (sound : Sound r) (d : Declaration) : Sound ((trial d).run r).2 := by
  obtain ⟨log, left⟩ := trial_left d r
  have tried : Sound ((registerOne d).run r).2 := by
    by_cases notRecord : ∀ record, d ≠ .record record
    · have gained := (registerOne_tried d r).gained notRecord fun _ _ _ _ _ _ _ => trivial
      exact sound.follows (registerOne_follows notRecord r) (gained.keeps sound.waiting)
    · obtain ⟨record, same⟩ := Classical.not_forall.mp notRecord
      rw [Classical.not_not.mp same]
      exact registerRecord_sound sound
  rw [left]
  exact tried.follows (follows_log _ log) ⟨tried.waiting, fun _ _ settled => settled.congr rfl rfl⟩

theorem session_sound (start : Sound r) (calls : List Call) :
    (∀ taken ∈ session r calls, Sound taken.1) ∧ Sound (closing r calls) := by
  refine (session_run r calls).invariant start (fun r sound => ?_) (fun r sound => ?_) fun taken _ sound => ?_
  · exact ⟨⟨sound.rooted.classes, sound.rooted.known⟩, sound.waiting, fun _ inside => by cases inside⟩
  · have bound : Follows r r.indexed := follows_bind (.index r.index) (by simp)
    exact sound.follows bound ⟨sound.waiting, fun _ _ settled => settled.congr rfl rfl⟩
  · obtain ⟨s, step⟩ := taken
    cases step with
    | trial d => exact trial_sound sound d
    | search t =>
      have grown := (nativeType_grows t s).toGained
      exact sound.follows (follows_moves.nativeType t s) (grown.keeps sound.waiting)

end CBindings.Register
