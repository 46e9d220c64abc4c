import CBindings.Proofs.Registry.Atomicity
import CBindings.Proofs.Registry.Effects
import CBindings.Proofs.Registry.Numbers

/-! The index of constants against the namespace. What a registration newly binds to integers, and nothing else, is
listed under them, in the order in which it was bound. The namespace still binds these names to them at the end, unless
a function took the place of an enumerator that looks like one. -/
namespace CBindings

open Outcome

namespace Register

/-- The enumerators as numbers. Those of an enumeration with a comparison of its own cannot be compared. -/
def numbersIn (e : Enumeration) (vs : List Enumerator) : List NewNumber :=
  vs.map fun v => ⟨v.name, v.value, !EnumClass.declares e.values "__eq__"⟩

/-- What trying a declaration newly binds to integers: a constant with a free name, or the enumerators whose names are
free and are not that of the enumeration. -/
def newNumbers (r : Registry) : Declaration → List NewNumber
  | .constant c =>
    match c.value with
    | .int n => if r.names.has c.name then [] else [⟨c.name, n, true⟩]
    | _ => []
  | .enumeration e =>
    match EnumClass.make e.name e.values with
    | .ok _ => numbersIn e (e.values.filter fun v => !r.names.has v.name && v.name != e.name)
    | .error _ => []
  | _ => []

/-- The name of an enumerator that looks like a method, where a function of that name is registered. -/
def lostName (tried : Registry × Declaration) : List String :=
  match tried.2 with
  | .function f =>
    match tried.1.names.get? f.name with
    | some (.member e _ _) => if e.looksLikeMethod && verdict tried == some true then [f.name] else []
    | _ => []
  | _ => []

/-- All that a registration newly binds to integers, in the order in which it is bound. -/
def allNewNumbers (r : Registry) (ds : List Declaration) : List NewNumber :=
  (trials r.begun ds).flatMap fun tried => newNumbers tried.1 tried.2

/-- All enumerators that a registration loses to functions. -/
def allLostNames (r : Registry) (ds : List Declaration) : List String := (trials r.begun ds).flatMap lostName

variable {r r' r₁ : Registry} {d : Declaration} {ds : List Declaration}

/-- `Counted` of the names and the index of two registries. -/
def Counts (r : Registry) (numbers : List NewNumber) (lost : List String) (r' : Registry) : Prop :=
  Counted r.names r.index numbers lost r'.names r'.index

theorem counts_of_same (names : r'.names = r.names) (index : r'.index = r.index) : Counts r [] [] r' := by
  rw [Counts, names, index]
  exact .done

theorem counts_insert {name : String} {b : Binding} (plain : b.number? = none) (free : r.names.has name = false)
    (names : r'.names = r.names.insert name b) (index : r'.index = r.index) : Counts r [] [] r' := by
  rw [Counts, names, index]
  exact .other plain free .done

theorem Resolved.counts (resolved : Resolved r r') : Counts r [] [] r' := by
  obtain ⟨classes, pending, log, rfl⟩ := resolved
  exact .done

/- Something that is no integer is bound once its types were found. -/
theorem counts_after {α : Type} {x : Register α} {f : α → Register Bool} (resolves : OnlyResolves x)
    (rest : ∀ a s, s.names = r.names → Counts s [] [] ((f a).run s).2) : Counts r [] [] ((x >>= f).run r).2 := by
  have first := resolves r
  rw [run_bind]
  rcases ended : x.run r with ⟨result, s⟩
  rw [ended] at first
  cases result with
  | error f => exact first.counts
  | ok a => exact first.counts.trans (rest a s (by obtain ⟨_, _, _, rfl⟩ := first; rfl))

theorem counts_guarded {name : String} {x : Register Bool}
    (free : r.names.has name = false → Counts r [] [] (x.run r).2) :
    Counts r [] [] ((do if ← isTaken name then return false else x : Register Bool).run r).2 := by
  cases taken : r.names.has name with
  | true =>
    obtain ⟨log, passed⟩ := guarded_passed (x := x) taken
    rw [passed]
    exact counts_of_same rfl rfl
  | false =>
    rw [guarded_free taken]
    exact free taken

theorem registerConstant_counts (c : Constant) (r : Registry) :
    Counts r (newNumbers r (.constant c)) [] ((registerConstant c).run r).2 := by
  cases taken : r.names.has c.name with
  | true =>
    obtain ⟨log, passed⟩ : ∃ log, (registerConstant c).run r = (.ok false, { r with log := log }) :=
      guarded_passed taken
    have nothing : newNumbers r (.constant c) = [] := by
      unfold newNumbers
      dsimp only
      split
      · simp [taken]
      · rfl
    rw [nothing, passed]
    exact counts_of_same rfl rfl
  | false =>
    rw [registerConstant_free taken]
    unfold newNumbers
    dsimp only
    rw [taken]
    cases value : c.value with
    | int n => exact .number (k := ⟨c.name, n, true⟩) taken rfl (by simp [Binding.equals?, Value.toInt?]) .done
    | _ => exact counts_insert rfl taken rfl rfl

theorem registerRecord_counts (record : Record) (r : Registry) : Counts r [] [] ((registerRecord record).run r).2 := by
  rcases ended : (registerRecord record).run r with ⟨result, r'⟩
  cases result with
  | error f => exact (registerRecord_failed ended).counts
  | ok done =>
    cases free : r.names.has record.name with
    | true =>
      obtain ⟨log, passed⟩ : ∃ log, (registerRecord record).run r = (.ok false, { r with log := log }) :=
        guarded_passed free
      cases ended.symm.trans passed
      exact counts_of_same rfl rfl
    | false =>
      have taken := onlyResolves_takePending record r
      rw [registerRecord_free free] at ended
      generalize (takePending record).run r = found at ended taken
      obtain ⟨result, r₁⟩ := found
      cases result with
      | error f => cases ended
      | ok i =>
        obtain ⟨classes, pending, log, rfl⟩ := taken
        have defined := onlyResolves_defineMembers i record
          (withRecord { r with classes := classes, pending := pending, log := log } record.name i)
        dsimp only at ended
        generalize (defineMembers i record).run _ = tried at ended defined
        obtain ⟨result', r₂⟩ := tried
        cases result' with
        | error f => cases ended
        | ok _ =>
          cases ended
          obtain ⟨classes', pending', log', rfl⟩ := defined
          exact counts_insert rfl free rfl rfl

theorem registerAlias_counts (a : Alias) (r : Registry) : Counts r [] [] ((registerAlias a).run r).2 := by
  refine counts_guarded fun free => counts_after (onlyResolves_nativeType a.target) fun native s same => ?_
  cases native with
  | none => exact counts_of_same rfl rfl
  | some t => exact counts_insert rfl (same ▸ free) rfl rfl

theorem registerVariable_counts (v : Variable) (r : Registry) : Counts r [] [] ((registerVariable v).run r).2 := by
  refine counts_guarded fun free => counts_after (onlyResolves_valueType v.type) fun t s same => ?_
  exact counts_insert rfl (same ▸ free) rfl rfl

/- A function is bound once its types were found. -/
theorem bindFunction_left (f : Function) (r : Registry) :
    (∃ fault r', (bindFunction f).run r = (.error fault, r') ∧ Resolved r r') ∨
      ∃ g s, (bindFunction f).run r = (.ok true, { s with names := s.names.insert f.name (.function g) }) ∧
        Resolved r s := by
  have first := onlyResolves_nativeType f.result r
  unfold bindFunction
  rw [run_bind]
  generalize (nativeType f.result).run r = found at first ⊢
  obtain ⟨result, r₁⟩ := found
  cases result with
  | error fault => exact .inl ⟨fault, r₁, rfl, first⟩
  | ok native =>
    have second := Resolved.trans first (onlyResolves_parameterTypes f.parameters r₁)
    dsimp only
    rw [run_bind]
    generalize (parameterTypes f.parameters).run r₁ = found' at second ⊢
    obtain ⟨result', r₂⟩ := found'
    cases result' with
    | error fault => exact .inl ⟨fault, r₂, rfl, second⟩
    | ok arguments => exact .inr ⟨_, r₂, rfl, second⟩

theorem lostName_of_verdict {f : Function} (other : verdict (r, .function f) ≠ some true) :
    lostName (r, .function f) = [] := by
  unfold lostName
  dsimp only
  split
  · simp [other]
  · rfl

/- An integer that gives way to a function is an enumerator that looks like one. -/
theorem lostName_of_number {f : Function} {b : Binding} {n : Int} (bound : r.names.get? f.name = some b)
    (isFunction : b.isFunction = true) (number : b.number? = some n) (done : verdict (r, .function f) = some true) :
    lostName (r, .function f) = [f.name] := by
  unfold lostName
  dsimp only
  rw [bound]
  cases b with
  | member e name value =>
    have looks : e.looksLikeMethod = true := isFunction
    simp [looks, done]
  | value v => cases isFunction
  | _ => cases number

theorem lostName_of_blank {f : Function} (blank : r.names.number? f.name = none) : lostName (r, .function f) = [] := by
  unfold lostName
  dsimp only
  split
  · rename_i bound
    rw [Namespace.number?, bound] at blank
    cases blank
  · rfl

theorem registerFunction_counts (f : Function) (r : Registry) :
    Counts r [] (lostName (r, .function f)) ((registerFunction f).run r).2 := by
  cases started : functionStart? r f with
  | none =>
    rcases registerFunction_passed started with ⟨log, passed⟩ | ⟨missed, failed⟩
    · rw [lostName_of_verdict (by simp [verdict, registerOne, passed, Except.toOption]), passed]
      exact counts_of_same rfl rfl
    · rw [lostName_of_verdict (by simp [verdict, registerOne, failed, Except.toOption]), failed]
      exact counts_of_same rfl rfl
  | some s =>
    have same := registerFunction_started started
    obtain ⟨log, rfl, existing⟩ := functionStart?_cases started
    rcases bindFunction_left f { r with log := log } with ⟨fault, r', failed, resolved⟩ | ⟨g, r', done, resolved⟩
    · rw [failed] at same
      rw [lostName_of_verdict (by simp [verdict, registerOne, same, Except.toOption]), same]
      exact (counts_of_same rfl rfl : Counts r [] [] { r with log := log }).trans resolved.counts
    · rw [done] at same
      have registered : verdict (r, .function f) = some true := by simp [verdict, registerOne, same, Except.toOption]
      obtain ⟨classes, pending, log', rfl⟩ := resolved
      rw [same]
      cases number : r.names.number? f.name with
      | none =>
        rw [lostName_of_blank number]
        exact .function number .done
      | some n =>
        rcases existing with free | ⟨b, bound, isFunction, -⟩
        · rw [Namespace.number?, free] at number
          cases number
        · rw [Namespace.number?, bound] at number
          rw [lostName_of_number bound isFunction number registered]
          exact .lost (by simp [Namespace.number?, bound, show b.number? = some n from number]) .done

/- Enumerators are looked at one by one: a name that is free is bound to the member of the same value. -/
theorem registerEnumerators_counts {e : EnumClass} {vs : List Enumerator}
    (valued : ∀ v ∈ vs, ∀ member, e.member? v.name = .ok member → member.2 = v.value)
    (apart : vs.Pairwise fun v w => (∃ member, e.member? v.name = .ok member) → v.name ≠ w.name)
    {d : Enumeration} (compared : e.has "__eq__" = EnumClass.declares d.values "__eq__")
    (ended : (registerEnumerators e vs).run r = (.ok (), r')) :
    Counts r (numbersIn d (vs.filter fun v => !r.names.has v.name)) [] r' := by
  induction vs generalizing r with
  | nil =>
    cases ended
    exact .done
  | cons v rest ih =>
    obtain ⟨own, others⟩ := List.pairwise_cons.mp apart
    have later := fun w inside => valued w (List.mem_cons_of_mem v inside)
    obtain ⟨log, asked⟩ := isTaken_run v.name r
    rw [registerEnumerators, run_bind, asked] at ended
    dsimp only at ended
    cases taken : r.names.has v.name with
    | true =>
      rw [taken] at ended
      rw [List.filter_cons_of_neg (by simp [taken])]
      exact ih (r := { r with log := log }) later others ended
    | false =>
      rw [taken] at ended
      rw [List.filter_cons_of_pos (by simp [taken])]
      cases found : e.member? v.name with
      | error f =>
        rw [found] at ended
        cases ended
      | ok member =>
        rw [found] at ended
        obtain ⟨name, value⟩ := member
        have same : value = v.value := valued v List.mem_cons_self _ found
        have onward := ih (r := { r with
          names := r.names.insert v.name (.member e name value),
          index := r.index.add (.int v.value) v.name, log := log }) later others ended
        have remaining : (rest.filter fun w => !(r.names.insert v.name (.member e name value)).has w.name) =
            rest.filter fun w => !r.names.has w.name := by
          refine List.filter_congr fun w inside => ?_
          have other : w.name ≠ v.name := fun equal => own w inside ⟨_, found⟩ equal.symm
          rw [Namespace.has_insert, decide_eq_false other, Bool.false_or]
        rw [Counts, remaining] at onward
        refine .number (k := ⟨v.name, v.value, _⟩) (b := .member e name value) taken (congrArg some same) ?_ onward
        rw [Binding.equals?, compared, same]
        cases EnumClass.declares d.values "__eq__" <;> simp

theorem registerEnumeration_counts {e : Enumeration} {done : Bool}
    (ended : (registerEnumeration e).run r = (.ok done, r')) : Counts r (newNumbers r (.enumeration e)) [] r' := by
  rcases registerEnumeration_run e r with ⟨f, log, -, failed⟩ | ⟨c, log, made, onward⟩
  · cases ended.symm.trans failed
  · rw [onward] at ended
    obtain ⟨_, r₁, looped, last⟩ := run_bind_ok ended
    cases last
    have looped := registerEnumerators_counts (fun v inside _ => EnumClass.member?_value made inside)
      ((EnumClass.make_pairwise made).imp_of_mem fun {v w} inside _ apart given => ?_)
      (EnumClass.make_has made (by decide)) looped
    · have same : (e.values.filter fun v => !(withEnumeration { r with log := log } e.name c).names.has v.name) =
          e.values.filter fun v => !r.names.has v.name && v.name != e.name := by
        refine List.filter_congr fun v _ => ?_
        have free := withEnumeration_free { r with log := log } e.name c v.name
        rw [Bool.eq_iff_iff]
        simpa using free
      have numbers : newNumbers r (.enumeration e) =
          numbersIn e (e.values.filter fun v => !r.names.has v.name && v.name != e.name) := by
        simp only [newNumbers, made]
      rw [same, ← numbers] at looped
      unfold withEnumeration at looped
      split at looped
      · exact looped
      · rename_i free
        rw [Bool.not_eq_true] at free
        exact .other rfl free looped
    · obtain ⟨member, found⟩ := given
      exact apart (EnumClass.passesOver_of_member? made inside found)

theorem registerOne_counts {done : Bool} (ended : (registerOne d).run r = (.ok done, r')) :
    Counts r (newNumbers r d) (lostName (r, d)) r' := by
  have left : r' = ((registerOne d).run r).2 := (congrArg Prod.snd ended).symm
  cases d with
  | constant c => exact left ▸ registerConstant_counts c r
  | record record => exact left ▸ registerRecord_counts record r
  | constructor typeName =>
    obtain ⟨done', classes, log, finished, -⟩ := registerConstructor_run typeName r
    cases ended.symm.trans finished
    exact counts_of_same rfl rfl
  | enumeration e => exact registerEnumeration_counts ended
  | function f => exact left ▸ registerFunction_counts f r
  | «alias» a => exact left ▸ registerAlias_counts a r
  | «variable» v => exact left ▸ registerVariable_counts v r
  | info message =>
    cases ended
    exact .done
  | stray text => cases ended

/- A declaration that fails binds nothing; in particular an enumeration fails when its class cannot be made. -/
theorem newNumbers_of_failed {f : RegistrationFault} (ended : (registerOne d).run r = (.error f, r'))
    (contained : f.isContained = true) : newNumbers r d = [] := by
  cases d with
  | constant c => cases ended.symm.trans (registerConstant_free (guarded_failed ended))
  | enumeration e =>
    rcases registerEnumeration_run e r with ⟨f', log, failed, -⟩ | ⟨c, log, -, onward⟩
    · simp only [newNumbers, failed]
    · rw [registerOne, onward, run_bind] at ended
      rcases looped : (registerEnumerators c e.values).run (withEnumeration { r with log := log } e.name c)
        with ⟨result, r₁⟩
      rw [looped] at ended
      cases result with
      | ok _ => cases ended
      | error f' =>
        cases ended
        cases contained.symm.trans (registerEnumerators_escapes looped)
  | record _ | constructor _ | function _ | «alias» _ | «variable» _ | info _ | stray _ => rfl

/- Only a function that is registered takes the place of an integer. -/
theorem lostName_of_failed {f : RegistrationFault} (ended : (registerOne d).run r = (.error f, r')) :
    lostName (r, d) = [] := by
  cases d with
  | function g => exact lostName_of_verdict (by simp [verdict, ended, Except.toOption])
  | constant _ | enumeration _ | record _ | constructor _ | «alias» _ | «variable» _ | info _ | stray _ => rfl

theorem trial_counts {entry : Option (String × Option Bool)} (ended : (trial d).run r = (.ok entry, r')) :
    Counts r (newNumbers r d) (lostName (r, d)) r' := by
  obtain ⟨log, left⟩ := trial_left d r
  have goes := ((trial_ok_iff d r).mp ⟨entry, r', ended⟩).2
  rw [ended] at left
  dsimp only at left
  rcases tried : (registerOne d).run r with ⟨result, r₁⟩
  rw [tried] at left goes
  subst left
  cases result with
  | ok done =>
    have counted := registerOne_counts tried
    exact counted
  | error f =>
    rw [newNumbers_of_failed tried (goes f rfl), lostName_of_failed tried]
    exact (registerOne_failed tried (goes f rfl)).counts

theorem registerAll_counts {report final : Report} (ended : (registerAll report ds).run r = (.ok final, r')) :
    Counts r ((trials r ds).flatMap fun tried => newNumbers tried.1 tried.2) ((trials r ds).flatMap lostName) r' := by
  induction ds generalizing report r with
  | nil =>
    cases ended
    exact .done
  | cons d rest ih =>
    rw [registerAll_trial] at ended
    obtain ⟨entry, between, tried, onward⟩ := run_bind_ok ended
    rw [trials_cons_ok tried, List.flatMap_cons, List.flatMap_cons]
    exact (trial_counts tried).trans (ih onward)

theorem mem_newNumbers {k : NewNumber} (new : k ∈ newNumbers r d) :
    (∃ c, d = .constant c ∧ c.name = k.name) ∨ ∃ e v, d = .enumeration e ∧ v ∈ e.values ∧ v.name = k.name := by
  unfold newNumbers at new
  split at new
  · rename_i c
    split at new
    · split at new
      · cases new
      · cases List.mem_singleton.mp new
        exact .inl ⟨c, rfl, rfl⟩
    · cases new
  · rename_i e
    split at new
    · obtain ⟨v, kept, same⟩ := List.mem_map.mp new
      cases same
      exact .inr ⟨e, v, rfl, (List.mem_filter.mp kept).1, rfl⟩
    · cases new
  · cases new

/- An enumeration that does not fail gives all its enumerators whose names are free. -/
theorem mem_newNumbers_enumeration {e : Enumeration} (succeeded : verdict (r, .enumeration e) ≠ none)
    {v : Enumerator} (inside : v ∈ e.values) (free : r.names.has v.name = false) (other : v.name ≠ e.name) :
    ∃ k ∈ newNumbers r (.enumeration e), k.name = v.name ∧ k.value = v.value := by
  rcases registerEnumeration_run e r with ⟨f, log, -, failed⟩ | ⟨c, log, made, -⟩
  · refine absurd ?_ succeeded
    rw [verdict, registerOne, failed]
    rfl
  · simp only [newNumbers, made]
    exact ⟨_, List.mem_map.mpr ⟨v, List.mem_filter.mpr ⟨inside, by simp [free, other]⟩, rfl⟩, rfl, rfl⟩

/- Binding the index touches no integer that was counted, as long as none of them has its name. -/
theorem adds_index {ns ns' : Namespace} {new : List String} (adds : Adds ns new ns') (index : ConstantIndex)
    (apart : ∀ n, (constantIndexName, n) ∉ ns'.numbersOf new) :
    ∃ new', new.Sublist new' ∧ Adds ns new' (ns'.insert constantIndexName (.index index)) ∧
      (ns'.insert constantIndexName (.index index)).numbersOf new' = ns'.numbersOf new := by
  have unmoved : (ns'.insert constantIndexName (.index index)).numbersOf new = ns'.numbersOf new := by
    refine List.filterMap_congr fun name inside => ?_
    rw [Namespace.number?_insert]
    split
    · rename_i same
      subst same
      cases given : ns'.number? constantIndexName with
      | none => rfl
      | some n => exact absurd (Namespace.mem_numbersOf.mpr ⟨inside, given⟩) (apart n)
    · rfl
  cases bound : ns'.has constantIndexName with
  | true =>
    refine ⟨new, List.Sublist.refl new, ⟨?_, adds.distinct, adds.free⟩, unmoved⟩
    rw [Namespace.places_of_bound bound, adds.places]
  | false =>
    have absent : constantIndexName ∉ ns.map Prod.fst ++ new := by
      rw [← adds.places, ← Namespace.has_iff, bound]
      exact Bool.false_ne_true
    rw [List.mem_append, not_or] at absent
    refine ⟨new ++ [constantIndexName], List.sublist_append_left _ _, ⟨?_, ?_, ?_⟩, ?_⟩
    · rw [Namespace.insert_of_free bound, List.map_append, adds.places, List.append_assoc]
      rfl
    · exact List.nodup_append.mpr ⟨adds.distinct, by simp, fun name inside other single same =>
        absent.2 (List.mem_singleton.mp single ▸ same ▸ inside)⟩
    · intro name inside
      rcases List.mem_append.mp inside with old | own
      · exact adds.free name old
      · cases List.mem_singleton.mp own
        exact Bool.eq_false_iff.mpr fun has => absent.1 (Namespace.has_iff.mp has)
    · rw [Namespace.numbersOf, List.filterMap_append]
      have none : (ns'.insert constantIndexName (.index index)).number? constantIndexName = none := by
        rw [Namespace.number?_insert, if_pos rfl]
        rfl
      simpa [none, Namespace.numbersOf] using unmoved

theorem name_ne_constantIndexName (all : (trials r.begun ds).map Prod.snd = ds)
    (named : ∀ d ∈ ds, d.boundName? ≠ some constantIndexName)
    (enumerators : ∀ e v, .enumeration e ∈ ds → v ∈ e.values → v.name ≠ constantIndexName) {k : NewNumber}
    (inside : k ∈ allNewNumbers r ds) : k.name ≠ constantIndexName := by
  obtain ⟨⟨s, d⟩, tried, own⟩ := List.mem_flatMap.mp inside
  have declared : d ∈ ds := all ▸ List.mem_map.mpr ⟨_, tried, rfl⟩
  rcases mem_newNumbers own with ⟨c, rfl, same⟩ | ⟨e, v, rfl, value, same⟩
  · exact fun reserved => named _ declared (congrArg some (same.trans reserved))
  · exact same ▸ enumerators e v declared value

/- Also if the name of the enumeration was taken. -/
theorem mem_allNewNumbers {s : Registry} {e : Enumeration} {v : Enumerator}
    (tried : (s, .enumeration e) ∈ trials r.begun ds) (taken : s.names.has e.name = true)
    (succeeded : verdict (s, .enumeration e) ≠ none) (inside : v ∈ e.values) (unbound : s.names.has v.name = false) :
    ∃ k ∈ allNewNumbers r ds, k.name = v.name ∧ k.value = v.value := by
  have other : v.name ≠ e.name := by
    intro same
    cases (same ▸ unbound).symm.trans taken
  obtain ⟨k, new, same, value⟩ := mem_newNumbers_enumeration succeeded inside unbound other
  exact ⟨k, List.mem_flatMap.mpr ⟨_, tried, new⟩, same, value⟩

/-- After a registration the index lists, under every integer, the names that the registration newly bound to it from
constants and enumerators, each once and in the order of binding, and has entries for no other values. In the namespace
these names come in the same order, and each is bound to something equal to its integer, with two exceptions: an
enumerator that looks like a method is lost where a function of its name is registered, and one whose enumeration has
a comparison of its own cannot be compared. Enumerators are listed even if the name of their enumeration was taken. -/
theorem register_index {report : Report} (ended : (register ds).run r = (.ok report, r'))
    (named : ∀ d ∈ ds, d.boundName? ≠ some constantIndexName)
    (enumerators : ∀ e v, .enumeration e ∈ ds → v ∈ e.values → v.name ≠ constantIndexName) :
    ∃ index, r'.names.get? constantIndexName = some (.index index) ∧
      (∀ n, index.namesOf n = ((allNewNumbers r ds).filter (·.value == n)).map (·.name)) ∧
      (∀ n, (index.namesOf n).Nodup) ∧
      (∀ k ∈ allNewNumbers r ds, r.names.has k.name = false ∧ ∃ b, r'.names.get? k.name = some b ∧
        (b.equals? k.value = some true ↔ k.comparable = true ∧ k.name ∉ allLostNames r ds)) ∧
      (∃ new, r'.names.map Prod.fst = r.names.map Prod.fst ++ new ∧
        ((allNewNumbers r ds).map (·.name)).Sublist new ∧ r'.names.numbersOf new =
          ((allNewNumbers r ds).filter (·.name ∉ allLostNames r ds)).map fun k => (k.name, k.value)) ∧
      (∀ v, index.contains v = true ↔ index.names v ≠ []) ∧
      ∀ s e, (s, .enumeration e) ∈ trials r.begun ds → s.names.has e.name = true →
        verdict (s, .enumeration e) ≠ none → ∀ v ∈ e.values, s.names.has v.name = false →
          v.name ∈ index.namesOf v.value := by
  rw [register_run] at ended
  rcases walked : (registerAll {} ds).run r.begun with ⟨result, between⟩
  rw [walked] at ended
  cases result with
  | error f => cases ended
  | ok final =>
    cases ended
    have counted : Counted r.names {} (allNewNumbers r ds) (allLostNames r ds) between.names between.index :=
      registerAll_counts walked
    have apart {k : NewNumber} (inside : k ∈ allNewNumbers r ds) : k.name ≠ constantIndexName :=
      name_ne_constantIndexName (registerAll_report walked).1 named enumerators inside
    obtain ⟨new, adds, part, listed⟩ := counted.adds
    obtain ⟨new', wider, adds', numbers⟩ := adds_index adds between.index fun n inside => by
      rw [listed] at inside
      obtain ⟨k, kept, same⟩ := List.mem_map.mp inside
      exact apart (List.mem_filter.mp kept).1 (congrArg Prod.fst same)
    have names (n : Int) : between.index.namesOf n = ((allNewNumbers r ds).filter (·.value == n)).map (·.name) :=
      counted.namesOf (fun _ _ inside => by cases inside) n
    refine ⟨between.index, ?_, names, fun n => ?_, fun k inside => ⟨?_, ?_⟩,
      ⟨new', adds'.places, part.trans wider, numbers.trans listed⟩, ?_, ?_⟩
    · rw [Namespace.get?_insert, if_pos rfl]
    · rw [names]
      exact (adds.distinct.sublist part).sublist (List.filter_sublist.map _)
    · exact adds.free k.name (part.subset (List.mem_map_of_mem inside))
    · obtain ⟨b, bound, equal⟩ := counted.equal_iff inside
      refine ⟨b, ?_, equal⟩
      rw [Namespace.get?_insert, if_neg (apart inside), bound]
    · exact (counted.filled fun _ _ found => by cases found).contains_iff
    · intro s e tried taken succeeded v inside unbound
      obtain ⟨k, new, same, value⟩ := mem_allNewNumbers tried taken succeeded inside unbound
      rw [names, List.mem_map]
      exact ⟨k, List.mem_filter.mpr ⟨new, by simp [value]⟩, same⟩

/-- The name of the enumeration is taken, and so is that of one of its enumerators. -/
def tokenNames : Namespace := [("token", .value (.text "word")), ("END", .value (.int 2))]

/-- Two of the enumerators have one value. -/
def tokenEnumeration : Enumeration :=
  { name := "token", values := [⟨"WORD", 0⟩, ⟨"NUMBER", 1⟩, ⟨"FIRST", 0⟩, ⟨"END", 2⟩] }

/-- There are a macro that repeats an enumerator, a truth value, and a constant with the name of a record that fails. -/
def tokenDeclarations : List Declaration :=
  [.constant { name := "LIMIT", value := .int 1 },
   .enumeration tokenEnumeration,
   .constant { name := "NUMBER", value := .int 1 },
   .constant { name := "STRICT", value := .bool true, kind := .bool },
   .record { name := "DEPTH", fields := some [{ name := "level", type := .named "depth" [] none }] },
   .constant { name := "DEPTH", value := .int 0 }]

theorem tokenDeclarations_index :
    ∃ report r' index, (register tokenDeclarations).run { names := tokenNames } = (.ok report, r') ∧
      report = ⟨["LIMIT", "STRICT", "DEPTH"], ["token", "NUMBER"], ["DEPTH"]⟩ ∧
      r'.names.get? constantIndexName = some (.index index) ∧
      index.namesOf 0 = ["WORD", "FIRST", "DEPTH"] ∧ index.namesOf 1 = ["LIMIT", "NUMBER"] ∧
      index.contains (.int 2) = false ∧ ∃ b, r'.names.get? "FIRST" = some b ∧ b.equals? 0 = some true := by
  have evaluated : ((register tokenDeclarations).run { names := tokenNames }).1.toOption =
        some ⟨["LIMIT", "STRICT", "DEPTH"], ["token", "NUMBER"], ["DEPTH"]⟩ ∧
      allNewNumbers { names := tokenNames } tokenDeclarations =
        [⟨"LIMIT", 1, true⟩, ⟨"WORD", 0, true⟩, ⟨"NUMBER", 1, true⟩, ⟨"FIRST", 0, true⟩, ⟨"DEPTH", 0, true⟩] ∧
      allLostNames { names := tokenNames } tokenDeclarations = [] := by
    decide +kernel
  have named : ∀ d ∈ tokenDeclarations, d.boundName? ≠ some constantIndexName := by
    decide +kernel
  have enumerators : ∀ e v, .enumeration e ∈ tokenDeclarations → v ∈ e.values → v.name ≠ constantIndexName := by
    intro e v declared inside
    have same : e = tokenEnumeration := by simpa [tokenDeclarations] using declared
    subst same
    revert v
    decide +kernel
  rcases ended : (register tokenDeclarations).run { names := tokenNames } with ⟨result, r'⟩
  rw [ended] at evaluated
  obtain ⟨listed, counted, lost⟩ := evaluated
  cases result with
  | error f => cases listed
  | ok report =>
    obtain ⟨index, stored, names, -, bound, -, entries, -⟩ := register_index ended named enumerators
    rw [counted] at names bound
    have empty : index.names (.int 2) = [] := names 2
    refine ⟨report, r', index, rfl, Option.some.inj listed, stored, names 0, names 1, ?_, ?_⟩
    · rw [Bool.eq_false_iff, ne_eq, entries, empty]
      simp
    · obtain ⟨-, b, first, equal⟩ := bound ⟨"FIRST", 0, true⟩ (by simp)
      exact ⟨b, first, equal.mpr ⟨rfl, by simp [lost]⟩⟩

/-- The enumeration has a special name for getting a member, which makes the other enumerator look like a method. -/
def gaugeDeclarations : List Declaration :=
  [.enumeration { name := "__get__", values := [⟨"__get__", 0⟩, ⟨"LEVEL", 5⟩] },
   .function { name := "LEVEL", result := .named "int" [] none }]

/-- The enumerator is listed under its value, and its name is bound to the function. -/
theorem gaugeDeclarations_lost :
    ((register gaugeDeclarations).run {}).1.toOption = some ⟨["__get__", "LEVEL"], [], []⟩ ∧
      ((register gaugeDeclarations).run {}).2.index.namesOf 5 = ["LEVEL"] ∧
      (((register gaugeDeclarations).run {}).2.names.get? "LEVEL").map (·.equals? 5) = some (some false) := by
  decide +kernel

end Register

end CBindings
