import CBindings.Proofs.Registry.Sessions

/-! One class for each tag. The class of a tag waits for its field list until the record is defined, and then is bound
to the tag; whoever asks for it, before or after, gets the same one. -/
namespace CBindings.Register

open Outcome

variable {r r' s s' : Registry} {t u : TypeExpr} {tag : String} {isUnion : Bool} {i : Nat}
  {P : String → Bool → Prop}

/-- The tag keeps its class, if it has one. -/
def Stays (tag : String) (r r' : Registry) : Prop := ∀ i, tagClass? r tag = some i → tagClass? r' tag = some i

theorem Stays.trans {r'' : Registry} (first : Stays tag r r') (second : Stays tag r' r'') : Stays tag r r'' :=
  fun i known => second i (first i known)

theorem stays_of_left (names : r'.names.get? tag = r.names.get? tag)
    (pending : ∃ more, r'.pending = r.pending ++ more) : Stays tag r r' := by
  intro i known
  obtain ⟨more, pending⟩ := pending
  unfold tagClass? boundClass? at known ⊢
  rw [names, pending, List.lookup_append, ← Option.or_assoc, known, Option.some_or]

theorem tagClass?_eq_of_bound (bound : r.names.get? tag = some (.type (.record i))) : tagClass? r tag = some i := by
  simp [tagClass?, boundClass?, bound]

section Searches

theorem Reaches.steady (reached : Reaches r t s u) : Steady ((nativeType u).run s).2 ((nativeType t).run r).2 := by
  induction reached with
  | here => exact Steady.refl _
  | next leads _ ih => exact Steady.trans _ _ _ ih leads.steady

/- Who asks for the class of a tag is told the one that it has from then on. -/
theorem Asks.answer (asks : Asks r t s tag isUnion) :
    (∃ i, ((recordClass tag isUnion).run s).1 = .ok (.record i) ∧ tagClass? ((nativeType t).run r).2 tag = some i) ∨
      tag.toList.contains '\x00' = true ∧
        ((recordClass tag isUnion).run s).1 = .error (.native .nameHoldsNul) := by
  obtain ⟨name, quals, canonical, reached, tagged⟩ := asks
  have steady := reached.steady
  rw [nativeType_tagged tagged] at steady
  refine (recordClass_answer tag isUnion s).imp_left ?_
  rintro ⟨i, told, known⟩
  exact ⟨i, told, steady tag i known⟩

end Searches

section Records

variable {record : Record} {r₁ : Registry}

theorem defineMembers_steady (i : Nat) (record : Record) (r : Registry) :
    Steady r ((defineMembers i record).run r).2 := by
  obtain ⟨mid, c, grown, left, -⟩ := defineMembers_left (P := fun _ _ => True) i record r
    fun _ _ _ _ _ _ _ _ _ _ _ => trivial
  rw [left]
  exact Steady.trans r mid _ grown.steady (steady_of_same rfl rfl)

theorem defineMembers_steady_on {before after : List (Field TypeExpr)} {f : Field TypeExpr}
    {members : List (Field NativeType)} (given : record.fields = some (before ++ f :: after))
    (earlier : (memberTypes before).run r = (.ok members, s)) :
    Steady ((nativeType f.type).run s).2 ((defineMembers i record).run r).2 := by
  rw [memberTypes_eq] at earlier
  have rest := mapM_moves_on (x := f) Steady.refl Steady.trans earlier
    fun f' (_ : f' ∈ after) s => memberType_steady f' s
  rw [memberType_run, ← memberTypes_eq] at rest
  unfold defineMembers
  rw [given]
  exact Steady.trans _ _ _ rest (bind_moves_on Steady.refl fun members r' _ => steady_onClasses _ r')

/- The class that waits for a record of its kind is the one that the record gets. -/
theorem withRecord_stays (waiting : Waiting P 0 r.classes r.pending) (taken : Taken r record i r₁)
    (free : r.names.has record.name = false) (fits : record.name = tag → ∀ kind, P tag kind → kind = record.isUnion) :
    Stays tag r (withRecord r₁ record.name i) := by
  intro j known
  by_cases own : record.name = tag
  · subst own
    have unbound : r.names.get? record.name = none := by simpa [Namespace.has] using free
    have waited : r.pending.lookup record.name = some j := by
      simpa [tagClass?, boundClass?, unbound] using known
    obtain ⟨before, after, split, -⟩ := List.lookup_eq_some_iff.mp waited
    obtain ⟨-, -, kind, allowed, core⟩ := waiting (record.name, j) (by rw [split]; simp)
    have same : (r.classes.record j).isUnion = record.isUnion :=
      (congrArg (fun core => core.2.1) core).trans (fits rfl kind allowed)
    rw [← taken.waited j waited same]
    refine tagClass?_eq_of_bound ?_
    exact (Namespace.get?_insert _ _ _ _).trans (if_pos rfl)
  · have apart : tag ≠ record.name := fun same => own same.symm
    obtain ⟨classes, same⟩ := taken.rest
    have names : (withRecord r₁ record.name i).names.get? tag = r.names.get? tag := by
      rw [same]
      exact (Namespace.get?_insert _ _ _ _).trans (if_neg apart)
    have pending : (withRecord r₁ record.name i).pending.lookup tag = r.pending.lookup tag := by
      rw [same]
      exact Namespace.lookup_filter_ne apart r.pending
    rw [tagClass?, boundClass?, names, pending]
    exact known

theorem registerRecord_stays_on (free : r.names.has record.name = false)
    (taken : (takePending record).run r = (.ok i, r₁))
    (fine : record.name = tag → ∃ done, ((registerRecord record).run r).1 = .ok done) :
    Stays tag ((defineMembers i record).run (withRecord r₁ record.name i)).2 ((registerRecord record).run r).2 := by
  rw [registerRecord_free free, taken] at fine ⊢
  dsimp only at fine ⊢
  generalize (defineMembers i record).run (withRecord r₁ record.name i) = ended at fine ⊢
  obtain ⟨result, r₂⟩ := ended
  cases result with
  | ok _ => exact fun j known => known
  | error f =>
    have apart : tag ≠ record.name := by
      rintro rfl
      obtain ⟨done, finished⟩ := fine rfl
      cases finished
    exact stays_of_left (Namespace.get?_erase apart _) ⟨[], (List.append_nil _).symm⟩

theorem registerRecord_stays (waiting : Waiting P 0 r.classes r.pending)
    (fits : record.name = tag → ∀ kind, P tag kind → kind = record.isUnion)
    (fine : record.name = tag → ∃ done, ((registerRecord record).run r).1 = .ok done) :
    Stays tag r ((registerRecord record).run r).2 := by
  cases free : r.names.has record.name with
  | true =>
    obtain ⟨log, passed⟩ : ∃ log, (registerRecord record).run r = (.ok false, { r with log := log }) :=
      guarded_passed free
    rw [passed]
    exact fun i known => known
  | false =>
    rcases found : (takePending record).run r with ⟨result, r₁⟩
    cases result with
    | ok i =>
      have start := withRecord_stays waiting (takePending_taken waiting found) free fits
      have members := defineMembers_steady i record (withRecord r₁ record.name i) tag
      exact (start.trans members).trans (registerRecord_stays_on free found fine)
    | error f =>
      rw [registerRecord_free free, found] at fine ⊢
      have apart : tag ≠ record.name := by
        rintro rfl
        obtain ⟨done, finished⟩ := fine rfl
        cases finished
      rw [takePending_refused found]
      intro i known
      unfold tagClass? at known ⊢
      rw [Namespace.lookup_filter_ne apart]
      exact known

end Records

/-- In the steps the tag names records of one kind only, none of which fails, and nothing else. -/
structure OnlyTag (tag : String) (kind : Bool) (steps : List (Registry × Step)) : Prop where
  asked : ∀ taken ∈ steps, ∀ s t, taken.2.Begins taken.1 s t → ∀ s' isUnion, Asks s t s' tag isUnion → isUnion = kind
  declared : ∀ r record, (r, .trial (.record record)) ∈ steps → record.name = tag →
    record.isUnion = kind ∧ verdict (r, .record record) ≠ none
  bound : ∀ r d, (r, .trial d) ∈ steps → d.boundName? = some tag → ∃ record, d = .record record
  enumerators : ∀ r e, (r, .trial (.enumeration e)) ∈ steps → ∀ v ∈ e.values, v.name ≠ tag

/-- Tags are used for any kind of record, this one for one kind only. -/
def Fits (tag : String) (kind : Bool) : String → Bool → Prop := fun other isUnion => other = tag → isUnion = kind

section Steps

variable {kind : Bool} {steps : List (Registry × Step)} {d : Declaration} {name : String}

theorem OnlyTag.allows (only : OnlyTag tag kind steps) : Allows (Fits tag kind) steps := by
  rintro taken inside s t begins s' other isUnion asks rfl
  exact only.asked taken inside s t begins s' isUnion asks

theorem ok_of_verdict {record : Record} (fine : verdict (r, .record record) ≠ none) :
    ∃ done, ((registerRecord record).run r).1 = .ok done := by
  obtain ⟨done, ended⟩ := Option.ne_none_iff_exists'.mp fine
  obtain ⟨r', run⟩ := run_of_verdict ended
  exact ⟨done, congrArg Prod.fst run⟩

theorem Concludes.stays {α : Type} {found : Except RegistrationFault α × Registry}
    {ended : Except RegistrationFault Bool × Registry} (apart : tag ≠ name) (concludes : Concludes name found ended) :
    Stays tag found.2 ended.2 := by
  obtain ⟨names, left, others⟩ := concludes.left
  rw [left]
  exact stays_of_left (others tag apart) ⟨[], (List.append_nil _).symm⟩

theorem stays_trial (d : Declaration) (r : Registry) :
    Stays tag ((registerOne d).run r).2 ((Step.trial d).after r) := by
  obtain ⟨log, left⟩ := trial_left d r
  rw [Step.after, left]
  exact fun i known => known

/- What a search finds about the tag holds at the end of the step. -/
theorem OnlyTag.stays_on {step : Step} (only : OnlyTag tag kind steps) (inside : (r, step) ∈ steps)
    (begins : step.Begins r s t) : Stays tag ((nativeType t).run s).2 (step.after r) := by
  cases step with
  | search u =>
    obtain ⟨rfl, rfl⟩ := begins
    exact fun i known => known
  | trial d =>
    refine Stays.trans ?_ (stays_trial d r)
    have apart {other : String} (own : d.boundName? = some other) (notRecord : ∀ record, d ≠ .record record) :
        tag ≠ other := by
      rintro rfl
      obtain ⟨record, isRecord⟩ := only.bound r d inside own
      exact notRecord record isRecord
    cases begins with
    | target free => exact (registerAlias_concludes free).stays (apart rfl (by simp))
    | type free => exact (registerVariable_concludes free).stays (apart rfl (by simp))
    | signature started =>
      rw [nativeType_function_left]
      exact (registerFunction_concludes started).stays (apart rfl (by simp))
    | member free taken earlier given =>
      refine Stays.trans (defineMembers_steady_on given earlier tag) (registerRecord_stays_on free taken fun own => ?_)
      exact ok_of_verdict (only.declared r _ inside own).2

theorem OnlyTag.stays {step : Step} (only : OnlyTag tag kind steps) (inside : (r, step) ∈ steps)
    (waiting : Waiting (Fits tag kind) 0 r.classes r.pending) : Stays tag r (step.after r) := by
  cases step with
  | search u => exact nativeType_steady u r tag
  | trial d =>
    refine Stays.trans ?_ (stays_trial d r)
    by_cases isRecord : ∃ record, d = .record record
    · obtain ⟨record, rfl⟩ := isRecord
      refine registerRecord_stays waiting (fun own isUnion fits => ?_) fun own => ?_
      · exact (fits rfl).trans (only.declared r record inside own).1.symm
      · exact ok_of_verdict (only.declared r record inside own).2
    · have tried := registerOne_tried d r
      have names : ((registerOne d).run r).2.names.get? tag = r.names.get? tag := by
        refine tried.names (fun own => isRecord (only.bound r d inside own)) ?_
        rintro e rfl
        exact only.enumerators r e inside
      obtain ⟨-, more, pending, -⟩ := tried.gained (P := fun _ _ => True)
        (fun record same => isRecord ⟨record, same⟩) fun _ _ _ _ _ _ _ => trivial
      exact stays_of_left names ⟨more, pending⟩

theorem stays_indexed (apart : tag ≠ constantIndexName) (r : Registry) : Stays tag r r.indexed := by
  refine stays_of_left ?_ ⟨[], (List.append_nil _).symm⟩
  exact (Namespace.get?_insert _ _ _ _).trans (if_neg apart)

/- From any step on, the class of the tag is the one that it has at the end. -/
theorem OnlyTag.stays_run (only : OnlyTag tag kind steps) (apart : tag ≠ constantIndexName)
    (run : Run r steps r') (waiting : Waiting (Fits tag kind) 0 r.classes r.pending) : Stays tag r r' := by
  intro i known
  refine (run.invariant (I := fun r => tagClass? r tag = some i ∧ Waiting (Fits tag kind) 0 r.classes r.pending)
    ⟨known, waiting⟩ (fun r holds => holds) (fun r holds => ?_) fun taken inside holds => ?_).2.1
  · exact ⟨stays_indexed apart r i holds.1, holds.2⟩
  · obtain ⟨r, step⟩ := taken
    exact ⟨only.stays inside holds.2 i holds.1, (Step.keeps holds.2 (only.allows _ inside)).1⟩

theorem OnlyTag.sub {fewer : List (Registry × Step)} (only : OnlyTag tag kind steps) (sub : fewer ⊆ steps) :
    OnlyTag tag kind fewer :=
  ⟨fun taken inside => only.asked taken (sub inside), fun r record inside => only.declared r record (sub inside),
    fun r d inside => only.bound r d (sub inside), fun r e inside => only.enumerators r e (sub inside)⟩

/- A tag that is bound stays bound: its record is not defined again. -/
theorem OnlyTag.keeps_bound {step : Step} {b : Binding} (only : OnlyTag tag kind steps) (inside : (r, step) ∈ steps)
    (bound : r.names.get? tag = some b) : (step.after r).names.get? tag = some b := by
  cases step with
  | search u =>
    rw [Step.after, (onlyResolves_nativeType u).names]
    exact bound
  | trial d =>
    obtain ⟨log, left⟩ := trial_left d r
    rw [Step.after, left]
    refine Eq.trans ?_ bound
    by_cases isRecord : ∃ record, d = .record record
    · obtain ⟨record, rfl⟩ := isRecord
      by_cases own : record.name = tag
      · obtain ⟨log', passed⟩ : ∃ log, (registerRecord record).run r = (.ok false, { r with log := log }) :=
          guarded_passed (by rw [own, Namespace.has, bound]; rfl)
        rw [registerOne, passed]
      · exact (registerRecord_binds record).names r fun same => own same.symm
    · refine (registerOne_tried d r).names (fun own => isRecord (only.bound r d inside own)) ?_
      rintro e rfl
      exact only.enumerators r e inside

/-- The tag is bound to the class, which has these members. -/
def Defines (r : Registry) (tag : String) (i : Nat) (members : Option (List (Field NativeType))) : Prop :=
  r.names.get? tag = some (.type (.record i)) ∧ (r.classes.record i).fields = members ∧
    (r.classes.record i).failed = false

/- The tag is bound to the class, and the class is left alone. -/
structure Stands (tag : String) (kind : Bool) (i : Nat) (members : Option (List (Field NativeType))) (r : Registry) :
    Prop where
  bound : r.names.get? tag = some (.type (.record i))
  settled : Settled i (tag, kind, members, false) r
  waiting : Waiting (Fits tag kind) 0 r.classes r.pending

theorem Stands.defines {members : Option (List (Field NativeType))} (stands : Stands tag kind i members r) :
    Defines r tag i members :=
  ⟨stands.bound, congrArg (fun core => core.2.2.1) stands.settled.core_eq,
    congrArg (fun core => core.2.2.2) stands.settled.core_eq⟩

theorem OnlyTag.stands_run {members : Option (List (Field NativeType))} (only : OnlyTag tag kind steps)
    (apart : tag ≠ constantIndexName) (run : Run r steps r') (stands : Stands tag kind i members r) :
    (∀ taken ∈ steps, Stands tag kind i members taken.1) ∧ Stands tag kind i members r' := by
  refine run.invariant stands (fun r stands => ?_) (fun r stands => ?_) fun taken inside stands => ?_
  · exact ⟨stands.bound, stands.settled.congr rfl rfl, stands.waiting⟩
  · refine ⟨?_, stands.settled.congr rfl rfl, stands.waiting⟩
    exact ((Namespace.get?_insert _ _ _ _).trans (if_neg apart)).trans stands.bound
  · obtain ⟨r, step⟩ := taken
    obtain ⟨waiting, settled⟩ := Step.keeps stands.waiting (only.allows _ inside)
    exact ⟨only.keeps_bound inside stands.bound, settled i _ stands.settled, waiting⟩

/- A record that is registered gets a class of its own, with its members. -/
theorem stands_of_registered {record : Record} (waiting : Waiting (Fits tag kind) 0 r.classes r.pending)
    (allowed : ∀ s t, Begins r (.record record) s t → ∀ s' other isUnion, Asks s t s' other isUnion →
      Fits tag kind other isUnion)
    (own : record.name = tag) (same : record.isUnion = kind) (registered : verdict (r, .record record) = some true) :
    ∃ i members, members.map (·.map label) = record.fields.map (·.map label) ∧
      Stands tag kind i members ((Step.trial (.record record)).after r) := by
  have kept : Keeps (Fits tag kind) r ((Step.trial (.record record)).after r) := Step.keeps waiting allowed
  obtain ⟨r', ended⟩ := run_of_verdict registered
  obtain ⟨log, left⟩ := trial_left (.record record) r
  rw [ended] at left
  obtain ⟨i, r₁, r₂, taken, defined, rfl⟩ := registerRecord_registered waiting ended
  have blank : Settled i _ (withRecord r₁ record.name i) := taken.settled.congr rfl rfl
  obtain ⟨members, settled, labels⟩ := defineMembers_settled blank defined
  have names := (onlyResolves_defineMembers i record).names (withRecord r₁ record.name i)
  rw [defined] at names
  rw [own, same] at settled
  refine ⟨i, members, labels, ?_, ?_, kept.1⟩
  · rw [Step.after, left]
    refine (congrArg (Namespace.get? · tag) names).trans ?_
    exact (Namespace.get?_insert _ _ _ _).trans (if_pos own.symm)
  · rw [Step.after, left]
    exact settled.congr rfl rfl

end Steps

/-- Of a tag that names records of one kind only, and is not the name of the index, there is one class. Whoever asks for
it, in whatever type, is told this class, unless the tag cannot name any class. From when the record is registered the
class is bound to the tag, and has the members of the record. -/
theorem session_one_class {calls : List Call} {kind : Bool} (fresh : r.pending = []) (apart : tag ≠ constantIndexName)
    (only : OnlyTag tag kind (session r calls)) :
    ∃ i, (∀ taken ∈ session r calls, ∀ s t, taken.2.Begins taken.1 s t → ∀ s' isUnion, Asks s t s' tag isUnion →
        ((recordClass tag isUnion).run s').1 = .ok (.record i) ∨ tag.toList.contains '\x00' = true ∧
          ((recordClass tag isUnion).run s').1 = .error (.native .nameHoldsNul)) ∧
      ∀ earlier s record later, session r calls = earlier ++ (s, .trial (.record record)) :: later →
        record.name = tag → verdict (s, .record record) = some true →
        ∃ members, members.map (·.map label) = record.fields.map (·.map label) ∧
          (∀ taken ∈ later, Defines taken.1 tag i members) ∧ Defines (closing r calls) tag i members := by
  have run := session_run r calls
  have start : Waiting (Fits tag kind) 0 r.classes r.pending := fresh ▸ waiting_nil _ _ _
  have waiting := (run.waiting start only.allows).1
  -- what a step leaves behind stays until the end
  have lasts {earlier later : List (Registry × Step)} {taken : Registry × Step}
      (split : session r calls = earlier ++ taken :: later) : Stays tag (taken.2.after taken.1) (closing r calls) := by
    have inside : taken ∈ session r calls := by simp [split]
    have kept := Step.keeps (waiting taken inside) (only.allows taken inside)
    refine (only.sub ?_).stays_run apart (Run.split (split ▸ run)) kept.1
    intro other later
    simp [split, later]
  refine ⟨(tagClass? (closing r calls) tag).getD 0, ?_, ?_⟩
  · intro taken inside s t begins s' isUnion asks
    obtain ⟨earlier, later, split⟩ := List.append_of_mem inside
    refine asks.answer.imp_left ?_
    rintro ⟨i, told, known⟩
    rw [told, lasts split i (only.stays_on inside begins i known)]
    rfl
  · intro earlier s record later split own registered
    have inside : (s, .trial (.record record)) ∈ session r calls := by simp [split]
    obtain ⟨i, members, labels, stands⟩ := stands_of_registered (waiting _ inside) (only.allows _ inside) own
      (only.declared s record inside own).1 registered
    rw [lasts split i (tagClass?_eq_of_bound stands.bound)]
    have sub : later ⊆ session r calls := fun other member => by simp [split, member]
    obtain ⟨onward, last⟩ := (only.sub sub).stands_run apart (Run.split (split ▸ run)) stands
    exact ⟨members, labels, fun taken member => (onward taken member).defines, last.defines⟩

def nodePointer : TypeExpr := .pointer (.named "struct node" [] none)

def nodeRecord : Record := { name := "node", fields := some [{ name := "next", type := nodePointer }] }

def listAlias : Alias := { name := "list", target := nodePointer }

/-- The tag is asked for before its record is defined, by the record itself, and afterwards. -/
def nodeCalls : List Call :=
  [.register [.alias listAlias],
   .register [.record nodeRecord],
   .search nodePointer]

theorem asks_nodePointer {r s : Registry} {isUnion : Bool} (asks : Asks r nodePointer s "node" isUnion) :
    isUnion = false := by
  obtain ⟨name, quals, canonical, reached, tagged⟩ := asks
  cases reached with
  | next leads reached =>
    cases leads with
    | pointee other =>
      cases reached with
      | here =>
        cases isUnion with
        | false => rfl
        | true => exact absurd tagged (by decide)
      | next leads _ => cases leads

/- A record whose only member is of this type begins no other search. -/
theorem type_of_begins {record : Record} {f : Field TypeExpr} {r s : Registry} {t : TypeExpr}
    (given : record.fields = some [f]) (begins : Begins r (.record record) s t) : t = f.type := by
  cases begins with
  | @member _ _ _ before _ name _ width after _ free found earlier given' =>
    have inside : ⟨name, t, width⟩ ∈ [f] := by
      rw [Option.some.inj (given.symm.trans given')]
      exact List.mem_append_right before (.head after)
    rw [← List.mem_singleton.mp inside]

theorem nodeCalls_steps : ∃ s₁ s₂, session {} nodeCalls =
    [({}, .trial (.alias listAlias)), (s₁, .trial (.record nodeRecord)), (s₂, .search nodePointer)] ∧
      verdict (s₁, .record nodeRecord) = some true := by
  refine ⟨(Call.after (.register [.alias listAlias]) {}).begun,
    Call.after (.register [.record nodeRecord]) (Call.after (.register [.alias listAlias]) {}), ?_, ?_⟩
  · simp only [nodeCalls, session, Call.steps, trials_single]
    rfl
  · decide +kernel

theorem nodeCalls_onlyTag : OnlyTag "node" false (session {} nodeCalls) := by
  obtain ⟨s₁, s₂, steps, registered⟩ := nodeCalls_steps
  rw [steps]
  refine ⟨fun taken inside s t begins s' isUnion asks => ?_, fun r record inside _ => ?_, fun r d inside own => ?_,
    fun r e inside => ?_⟩
  · have sought : t = nodePointer := by
      simp only [List.mem_cons, List.not_mem_nil, or_false] at inside
      rcases inside with rfl | rfl | rfl
      · cases begins with
        | target free => rfl
      · exact type_of_begins rfl begins
      · exact begins.2
    exact asks_nodePointer (sought ▸ asks)
  · simp at inside
    obtain ⟨rfl, rfl⟩ := inside
    exact ⟨rfl, by rw [registered]; simp⟩
  · simp at inside
    rcases inside with ⟨-, rfl⟩ | ⟨-, rfl⟩
    · exact absurd own (by decide)
    · exact ⟨nodeRecord, rfl⟩
  · simp at inside

theorem nodeCalls_one_class :
    OnlyTag "node" false (session {} nodeCalls) ∧ ∃ i members s,
      ((recordClass "node" false).run {}).1 = .ok (.record i) ∧
      (s, .search nodePointer) ∈ session {} nodeCalls ∧ ((recordClass "node" false).run s).1 = .ok (.record i) ∧
      Defines (closing {} nodeCalls) "node" i members ∧ members.map (·.map label) = some [("next", none)] := by
  obtain ⟨i, told, defined⟩ := session_one_class (r := {}) rfl (by decide) nodeCalls_onlyTag
  obtain ⟨s₁, s₂, steps, registered⟩ := nodeCalls_steps
  obtain ⟨members, labels, -, defines⟩ := defined [_] s₁ nodeRecord [_] steps rfl registered
  have asks (s : Registry) : Asks s nodePointer s "node" false :=
    ⟨"struct node", [], none, .next (.pointee (by decide)) .here, by decide⟩
  have last : (s₂, .search nodePointer) ∈ session {} nodeCalls := by simp [steps]
  refine ⟨nodeCalls_onlyTag, i, members, s₂, ?_, last, ?_, defines, labels⟩
  · have free : Begins {} (.alias listAlias) {} nodePointer := .target rfl
    have first : ({}, .trial (.alias listAlias)) ∈ session {} nodeCalls := by simp [steps]
    rcases told _ first {} nodePointer free {} false (asks {}) with same | ⟨nul, -⟩
    · exact same
    · exact absurd nul (by decide)
  · rcases told _ last s₂ nodePointer ⟨rfl, rfl⟩ s₂ false (asks s₂) with same | ⟨nul, -⟩
    · exact same
    · exact absurd nul (by decide)

/-- The name of the index is also a tag that a header may use. -/
def indexRecord : Record :=
  { name := constantIndexName, fields := some [{ name := "size", type := .named "int" [] none }] }

/- The record is registered, but the index takes its place, and the tag then stands for another class. -/
theorem indexRecord_replaced :
    OnlyTag constantIndexName false (session {} [.register [.record indexRecord]]) ∧
      verdict ({}, .record indexRecord) = some true ∧
      boundClass? (closing {} [.register [.record indexRecord]]).names constantIndexName = none ∧
      tagClass? ((registerOne (.record indexRecord)).run {}).2 constantIndexName = some 0 ∧
      tagClass? ((recordClass constantIndexName false).run (closing {} [.register [.record indexRecord]])).2
        constantIndexName = some 1 := by
  have steps : session {} [.register [.record indexRecord]] = [({}, .trial (.record indexRecord))] := by
    simp only [session, Call.steps, trials_single]
    rfl
  have registered : verdict ({}, .record indexRecord) = some true := by decide +kernel
  refine ⟨?_, registered, by decide +kernel, by decide +kernel, by decide +kernel⟩
  rw [steps]
  refine ⟨fun taken inside s' t begins s'' isUnion asks => ?_, fun r record inside _ => ?_, fun r d inside own => ?_,
    fun r e inside => ?_⟩
  · cases List.mem_singleton.mp inside
    cases type_of_begins rfl begins
    obtain ⟨name, quals, canonical, reached, tagged⟩ := asks
    cases reached with
    | here =>
      rw [show splitTag "int" = none from by decide] at tagged
      cases tagged
    | next leads _ => cases leads
  · simp at inside
    obtain ⟨rfl, rfl⟩ := inside
    exact ⟨rfl, by rw [registered]; simp⟩
  · simp at inside
    exact ⟨indexRecord, inside.2⟩
  · simp at inside

end CBindings.Register
