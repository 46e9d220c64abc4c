import CBindings.Proofs.BoundName
import CBindings.Proofs.Registry.Phases

/-! What a registration may do to a namespace. Names that are bound stay bound to what they were bound to, functions
apart that do not fit their new declaration; and every new name is one that the declarations give. -/
namespace CBindings.Register

open Outcome (run_bind run_bind_ok run_get run_map run_tryCatch)

/-- The binding is a function, and one of the declarations asks for a function of this name that it does not accept
the arguments of. -/
def Outdated (ds : List Declaration) (name : String) (b : Binding) : Prop :=
  b.isFunction = true ∧ ∃ f, .function f ∈ ds ∧ f.name = name ∧ b.accepts f.parameters.length = false

def Renewed (ds : List Declaration) (name : String) (b : Binding) : Prop :=
  ∃ f g, .function f ∈ ds ∧ f.name = name ∧ g.IsFor f ∧ b = .function g

/-- The name of a declaration that was registered, or of an enumerator. -/
def MayBind (ds : List Declaration) (registered : List String) (name : String) : Prop :=
  (name ∈ registered ∧ ∃ d ∈ ds, d.boundName? = some name) ∨
    ∃ e v, .enumeration e ∈ ds ∧ v ∈ e.values ∧ v.name = name

theorem mayBind_own {d : Declaration} {name : String} (given : d.boundName? = some name) : MayBind [d] [name] name :=
  .inl ⟨List.mem_singleton_self _, d, List.mem_singleton_self _, given⟩

structure Framed (ds : List Declaration) (registered : List String) (ns ns' : Namespace) : Prop where
  kept : ∀ name b, ns.get? name = some b → ns'.get? name = some b ∨
    Outdated ds name b ∧ ∃ b', ns'.get? name = some b' ∧ Renewed ds name b'
  new : ∀ name, ns.get? name = none → ns'.get? name ≠ none → MayBind ds registered name
  places : ns.map Prod.fst <+: ns'.map Prod.fst

section Framed

variable {ds es : List Declaration} {registered more : List String} {ns ns' ns'' : Namespace} {name : String}

theorem Framed.refl (ds : List Declaration) (registered : List String) (ns : Namespace) :
    Framed ds registered ns ns :=
  ⟨fun _ _ bound => .inl bound, fun _ free bound => absurd free bound, List.prefix_refl _⟩

theorem Framed.mono (framed : Framed ds registered ns ns') (declared : ds ⊆ es) (reported : registered ⊆ more) :
    Framed es more ns ns' := by
  refine ⟨fun name b bound => ?_, fun name free bound => ?_, framed.places⟩
  · rcases framed.kept name b bound with same | ⟨⟨isFunction, f, inside, unfit⟩, b', now, f', g, inside', made⟩
    · exact .inl same
    · exact .inr ⟨⟨isFunction, f, declared inside, unfit⟩, b', now, f', g, declared inside', made⟩
  · rcases framed.new name free bound with ⟨done, d, inside, same⟩ | ⟨e, v, inside, value⟩
    · exact .inl ⟨reported done, d, declared inside, same⟩
    · exact .inr ⟨e, v, declared inside, value⟩

theorem Framed.trans (first : Framed ds registered ns ns') (second : Framed ds registered ns' ns'') :
    Framed ds registered ns ns'' := by
  refine ⟨fun name b bound => ?_, fun name free bound => ?_, first.places.trans second.places⟩
  · rcases first.kept name b bound with same | ⟨outdated, b', now, renewed⟩
    · exact second.kept name b same
    · -- a function that was renewed may be renewed again; it is the first binding that was outdated
      rcases second.kept name b' now with same | ⟨_, b'', later, renewed'⟩
      · exact .inr ⟨outdated, b', same, renewed⟩
      · exact .inr ⟨outdated, b'', later, renewed'⟩
  · cases between : ns'.get? name with
    | none => exact second.new name between bound
    | some b => exact first.new name free (by simp [between])

theorem framed_insert_free (free : ns.has name = false) (given : MayBind ds registered name) (b : Binding) :
    Framed ds registered ns (ns.insert name b) := by
  have unbound : ns.get? name = none := by simpa [Namespace.has] using free
  refine ⟨fun other b' bound => .inl ?_, fun other unbound' bound => ?_, Namespace.places_insert ns name b⟩
  · have apart : other ≠ name := by
      rintro rfl
      cases unbound.symm.trans bound
    rw [Namespace.get?_insert, if_neg apart]
    exact bound
  · rw [Namespace.get?_insert] at bound
    by_cases same : other = name
    · exact same ▸ given
    · rw [if_neg same] at bound
      exact absurd unbound' bound

theorem framed_insert_function {b b' : Binding} (bound : ns.get? name = some b) (outdated : Outdated ds name b)
    (renewed : Renewed ds name b') : Framed ds registered ns (ns.insert name b') := by
  refine ⟨fun other b'' before => ?_, fun other unbound after => ?_, Namespace.places_insert ns name b'⟩
  · rw [Namespace.get?_insert]
    by_cases same : other = name
    · subst same
      cases bound.symm.trans before
      exact .inr ⟨outdated, b', by simp, renewed⟩
    · rw [if_neg same]
      exact .inl before
  · rw [Namespace.get?_insert] at after
    by_cases same : other = name
    · subst same
      cases bound.symm.trans unbound
    · rw [if_neg same] at after
      exact absurd unbound after

end Framed

/-- What one declaration adds to the list of registered names. -/
def reported (name : String) : Except RegistrationFault Bool → List String
  | .ok true => [name]
  | _ => []

theorem BoundOrLeft.framed {ds : List Declaration} {name : String} {P : Binding → Prop} {ns : Namespace}
    {ended : Except RegistrationFault Bool × Registry} (left : BoundOrLeft P name ns ended)
    (inserted : ∀ b, P b → Framed ds [name] ns (ns.insert name b)) :
    Framed ds (reported name ended.1) ns ended.2.names := by
  rcases left with same | ⟨done, b, made, bound⟩
  · rw [same]
    exact Framed.refl _ _ _
  · rw [done, bound]
    exact inserted b made

theorem BindsNew.framed {d : Declaration} {name : String} {x : Register Bool} (binds : BindsNew name x)
    (given : d.boundName? = some name) (r : Registry) :
    Framed [d] (reported name (x.run r).1) r.names (x.run r).2.names := by
  rcases binds r with same | ⟨free, left⟩
  · rw [same]
    exact Framed.refl _ _ _
  · exact left.framed fun b _ => framed_insert_free free (mayBind_own given) b

theorem registerFunction_framed (f : Function) (r : Registry) :
    Framed [.function f] (reported f.name ((registerFunction f).run r).1) r.names
      ((registerFunction f).run r).2.names := by
  cases started : functionStart? r f with
  | none =>
    rcases registerFunction_passed started with ⟨log, passed⟩ | ⟨missed, failed⟩
    · rw [passed]
      exact Framed.refl _ _ _
    · rw [failed]
      exact Framed.refl _ _ _
  | some s =>
    rw [registerFunction_started started]
    obtain ⟨log, rfl, free | ⟨b, found, isFunction, unfit⟩⟩ := functionStart?_cases started
    · have free : r.names.has f.name = false := by simp [Namespace.has, free]
      exact (function_boundOrLeft f _).framed fun b _ => framed_insert_free free (mayBind_own rfl) b
    · have outdated : Outdated [.function f] f.name b := ⟨isFunction, f, List.mem_singleton_self _, rfl, unfit⟩
      refine (function_boundOrLeft f _).framed fun b' made => ?_
      obtain ⟨g, isFor, rfl⟩ := made
      exact framed_insert_function found outdated ⟨f, g, List.mem_singleton_self _, rfl, isFor, rfl⟩

theorem member?_error {e : EnumClass} {name : String} {f : EnumFault} (missing : e.member? name = .error f) :
    f = .noMember name := by
  unfold EnumClass.member? at missing
  split at missing
  · exact (Except.error.inj missing).symm
  · cases missing

theorem registerEnumerators_framed {ds : List Declaration} {registered : List String} (e : EnumClass)
    (vs : List Enumerator) (given : ∀ v ∈ vs, MayBind ds registered v.name) (r : Registry) :
    Framed ds registered r.names ((registerEnumerators e vs).run r).2.names ∧
      ∀ f, ((registerEnumerators e vs).run r).1 = .error f → f.isContained = false := by
  induction vs generalizing r with
  | nil =>
    refine ⟨Framed.refl _ _ _, ?_⟩
    intro f failed
    cases failed
  | cons v rest ih =>
    have others := ih fun v' member => given v' (List.mem_cons_of_mem v member)
    obtain ⟨log, asked⟩ := isTaken_run v.name r
    rw [registerEnumerators, run_bind, asked]
    dsimp only
    cases taken : r.names.has v.name with
    | true => exact others { r with log := log }
    | false =>
      cases found : e.member? v.name with
      | error f =>
        cases member?_error found
        refine ⟨Framed.refl _ _ _, ?_⟩
        intro f failed
        cases failed
        rfl
      | ok member =>
        obtain ⟨name, value⟩ := member
        obtain ⟨framed, faults⟩ := others { r with
          names := r.names.insert v.name (.member e name value),
          index := r.index.add (.int v.value) v.name, log := log }
        exact ⟨(framed_insert_free taken (given v List.mem_cons_self) _).trans framed, faults⟩

/- A fault after the name of the enumeration is bound is one that ends the registration. -/
theorem registerEnumeration_framed (e : Enumeration) (r : Registry)
    (contained : ∀ f, ((registerEnumeration e).run r).1 = .error f → f.isContained = true) :
    Framed [.enumeration e] (reported e.name ((registerEnumeration e).run r).1) r.names
      ((registerEnumeration e).run r).2.names := by
  have values (registered : List String) : ∀ v ∈ e.values, MayBind [.enumeration e] registered v.name :=
    fun v member => .inr ⟨e, v, List.mem_singleton_self _, member, rfl⟩
  obtain ⟨log, asked⟩ := isTaken_run e.name r
  unfold registerEnumeration at contained ⊢
  rw [run_bind, asked] at contained ⊢
  dsimp only at contained ⊢
  cases made : EnumClass.make e.name e.values with
  | error f => exact Framed.refl _ _ _
  | ok c =>
    rw [made] at contained
    dsimp only at contained ⊢
    cases taken : r.names.has e.name with
    | true =>
      have framed := (registerEnumerators_framed c e.values (values []) { r with log := log }).1
      rw [if_neg (by simp), run_bind]
      generalize (registerEnumerators c e.values).run { r with log := log } = ended at framed ⊢
      obtain ⟨result, r'⟩ := ended
      cases result with
      | ok _ => exact framed
      | error f => exact framed
    | false =>
      have bound : (bind e.name (.enumeration c)).run { r with log := log } =
          (.ok (), { r with names := r.names.insert e.name (.enumeration c), log := log }) := rfl
      obtain ⟨framed, faults⟩ := registerEnumerators_framed c e.values (values [e.name])
        { r with names := r.names.insert e.name (.enumeration c), log := log }
      rw [taken, if_pos (by simp), run_bind, bound] at contained
      rw [if_pos (by simp), run_bind, bound]
      dsimp only at contained ⊢
      rw [run_bind] at contained ⊢
      generalize (registerEnumerators c e.values).run _ = ended at framed faults contained ⊢
      obtain ⟨result, r'⟩ := ended
      cases result with
      | error f => cases (contained f rfl).symm.trans (faults f rfl)
      | ok _ => exact (framed_insert_free taken (mayBind_own rfl) _).trans framed

/-- A fault that is not contained ends the registration, so the names may then be left in any state. -/
theorem registerOne_framed {d : Declaration} {name : String} (named : d.name? = .ok (some name)) (r : Registry)
    (contained : ∀ f, ((registerOne d).run r).1 = .error f → f.isContained = true) :
    Framed [d] (reported name ((registerOne d).run r).1) r.names ((registerOne d).run r).2.names := by
  match d with
  | .constant c =>
    cases named
    exact (registerConstant_binds c).framed rfl r
  | .record body =>
    cases named
    exact (registerRecord_binds body).framed rfl r
  | .enumeration e =>
    cases named
    exact registerEnumeration_framed e r contained
  | .function f =>
    cases named
    exact registerFunction_framed f r
  | .alias a =>
    cases named
    exact (registerAlias_binds a).framed rfl r
  | .variable v =>
    cases named
    exact (registerVariable_binds v).framed rfl r
  | .constructor typeName =>
    have same : ((registerOne (.constructor typeName)).run r).2.names = r.names :=
      registerConstructor_names typeName r
    rw [same]
    exact Framed.refl _ _ _
  | .info message => cases named
  | .stray text => cases named

/- The parts of a registration of one declaration among others. -/
def contain (d : Declaration) (f : RegistrationFault) : Register (Option Bool) := do
  if !f.isContained then throw f
  write .warning (f.message ++ " in " ++ shownText d)
  return none

def attempt (d : Declaration) : Register (Option Bool) := tryCatch (some <$> registerOne d) (contain d)

def listed (report : Report) (name : String) : Option Bool → Report
  | some true => { report with registered := report.registered ++ [name] }
  | some false => { report with skipped := report.skipped ++ [name] }
  | none => { report with failed := report.failed ++ [name] }

theorem registerAll_cons {d : Declaration} (notInfo : d.isInfo = false) (report : Report)
    (rest : List Declaration) :
    registerAll report (d :: rest) = (do
      let outcome ← attempt d
      let name ← nameOf d
      registerAll (listed report name outcome) rest) := by
  cases d with
  | info message => cases notInfo
  | _ => rfl

theorem listed_registered (report : Report) (name : String) (result : Except RegistrationFault Bool) :
    (listed report name result.toOption).registered = report.registered ++ reported name result := by
  match result with
  | .ok true => rfl
  | .ok false => exact (List.append_nil _).symm
  | .error f => exact (List.append_nil _).symm

theorem contain_run {d : Declaration} {f : RegistrationFault} {r r' : Registry} {outcome : Option Bool}
    (ended : (contain d f).run r = (.ok outcome, r')) :
    outcome = none ∧ r'.names = r.names ∧ f.isContained = true := by
  unfold contain at ended
  cases contained : f.isContained with
  | true =>
    rw [contained] at ended
    cases ended
    exact ⟨rfl, rfl, rfl⟩
  | false =>
    rw [contained] at ended
    cases congrArg Prod.fst ended

theorem attempt_run {d : Declaration} {r r' : Registry} {outcome : Option Bool}
    (ended : (attempt d).run r = (.ok outcome, r')) :
    outcome = ((registerOne d).run r).1.toOption ∧ r'.names = ((registerOne d).run r).2.names ∧
      ∀ f, ((registerOne d).run r).1 = .error f → f.isContained = true := by
  rw [attempt, run_tryCatch, run_map] at ended
  generalize (registerOne d).run r = tried at ended ⊢
  obtain ⟨result, between⟩ := tried
  cases result with
  | ok done =>
    cases ended
    refine ⟨rfl, rfl, ?_⟩
    intro f failed
    cases failed
  | error f =>
    obtain ⟨rfl, names, contained⟩ := contain_run ended
    refine ⟨rfl, names, ?_⟩
    intro f' failed
    cases failed
    exact contained

theorem nameOf_run {d : Declaration} {name : String} {r r' : Registry} (notInfo : d.isInfo = false)
    (ended : (nameOf d).run r = (.ok name, r')) : d.name? = .ok (some name) ∧ r' = r := by
  cases d with
  | info message => cases notInfo
  | stray text => cases ended
  | _ =>
    cases ended
    exact ⟨rfl, rfl⟩

theorem registerAll_framed {ds : List Declaration} {report final : Report} {r r' : Registry}
    (ended : (registerAll report ds).run r = (.ok final, r')) :
    report.registered ⊆ final.registered ∧ Framed ds final.registered r.names r'.names := by
  induction ds generalizing report r with
  | nil =>
    cases ended
    exact ⟨List.Subset.refl _, Framed.refl _ _ _⟩
  | cons d rest ih =>
    have later : rest ⊆ d :: rest := List.subset_cons_self d rest
    cases isInfo : d.isInfo with
    | true =>
      obtain ⟨message, rfl⟩ : ∃ message, d = .info message := by
        cases d with
        | info message => exact ⟨message, rfl⟩
        | _ => cases isInfo
      obtain ⟨log, noted⟩ := note_run message r
      rw [registerAll, run_bind, noted] at ended
      obtain ⟨grown, framed⟩ := ih ended
      exact ⟨grown, framed.mono later (List.Subset.refl _)⟩
    | false =>
      rw [registerAll_cons isInfo] at ended
      obtain ⟨outcome, between, tried, onward⟩ := run_bind_ok ended
      obtain ⟨name, between', asked, remaining⟩ := run_bind_ok onward
      obtain ⟨named, rfl⟩ := nameOf_run isInfo asked
      obtain ⟨rfl, names, contained⟩ := attempt_run tried
      obtain ⟨grown, framed⟩ := ih remaining
      rw [listed_registered] at grown
      have own := registerOne_framed named r contained
      rw [← names] at own
      have first : [d] ⊆ d :: rest := List.cons_subset_cons d (List.nil_subset rest)
      refine ⟨fun old member => grown (List.mem_append_left _ member), ?_⟩
      exact (own.mono first fun new member => grown (List.mem_append_right _ member)).trans
        (framed.mono later (List.Subset.refl _))

/-- Names that are bound stay bound to what they were bound to, unless that is a function which does not accept the
arguments of a function that is declared; then it may be the declared function instead. Other names are bound only
where a declaration of that name is registered, for enumerators, and for the index of constants. No name changes its
place. -/
theorem register_frame {ds : List Declaration} {r r' : Registry} {report : Report}
    (ended : (register ds).run r = (.ok report, r')) :
    (∀ name b, name ≠ constantIndexName → r.names.get? name = some b → r'.names.get? name = some b ∨
      Outdated ds name b ∧ ∃ b', r'.names.get? name = some b' ∧ Renewed ds name b') ∧
    (∀ name, r.names.get? name = none → r'.names.get? name ≠ none →
      name = constantIndexName ∨ MayBind ds report.registered name) ∧
    r'.names.get? constantIndexName = some (.index r'.index) ∧
    r.names.map Prod.fst <+: r'.names.map Prod.fst := by
  unfold register at ended
  obtain ⟨_, cleared, start, onward⟩ := run_bind_ok ended
  cases start
  obtain ⟨final, between, walked, remaining⟩ := run_bind_ok onward
  cases remaining
  obtain ⟨-, framed⟩ := registerAll_framed walked
  have indexed := Namespace.get?_insert between.names constantIndexName (.index between.index)
  have places := Namespace.places_insert between.names constantIndexName (.index between.index)
  refine ⟨?_, ?_, ?_, framed.places.trans places⟩
  · intro name b other bound
    have unchanged := (indexed name).trans (if_neg other)
    rcases framed.kept name b bound with same | ⟨outdated, b', now, renewed⟩
    · exact .inl (unchanged.trans same)
    · exact .inr ⟨outdated, b', unchanged.trans now, renewed⟩
  · intro name free bound
    by_cases other : name = constantIndexName
    · exact .inl other
    · have unchanged := (indexed name).trans (if_neg other)
      exact .inr (framed.new name free fun unbound => bound (unchanged.trans unbound))
  · exact (indexed constantIndexName).trans (if_pos rfl)

/-- A value, a routine that asks for the type of its argument, and one that does not. -/
def mathNames : Namespace :=
  [("LIMIT", .value (.int 3)), ("abs", .routine "abs" (some [⟨"n", .positional, true⟩])),
   ("labs", .routine "labs" (some [⟨"n", .positional, false⟩]))]

def absolute : Function :=
  { name := "abs", result := .named "int" [] none, parameters := [⟨none, .named "int" [] none⟩] }

/-- The record has a member of an unknown type. -/
def mathDeclarations : List Declaration :=
  [.constant { name := "LIMIT", value := .int 5 },
   .record { name := "quotient", fields := some [{ name := "whole", type := .named "integer" [] none }] },
   .function absolute,
   .function { absolute with name := "labs" },
   .enumeration { name := "rounding", values := [⟨"DOWN", 0⟩, ⟨"LIMIT", 1⟩] }]

theorem mathDeclarations_frame :
    ∃ report r', (register mathDeclarations).run { names := mathNames } = (.ok report, r') ∧
      report = ⟨["abs", "rounding"], ["LIMIT", "labs"], ["quotient"]⟩ ∧
      r'.names.map Prod.fst = ["LIMIT", "abs", "labs", "rounding", "DOWN", constantIndexName] ∧
      r'.names.get? "LIMIT" = some (.value (.int 3)) ∧
      r'.names.get? "labs" = some (.routine "labs" (some [⟨"n", .positional, false⟩])) ∧
      ∃ g : ForeignFunction, g.IsFor absolute ∧ r'.names.get? "abs" = some (.function g) := by
  have evaluated : ((register mathDeclarations).run { names := mathNames }).1.toOption =
        some ⟨["abs", "rounding"], ["LIMIT", "labs"], ["quotient"]⟩ ∧
      ((register mathDeclarations).run { names := mathNames }).2.names.map Prod.fst =
        ["LIMIT", "abs", "labs", "rounding", "DOWN", constantIndexName] ∧
      (((register mathDeclarations).run { names := mathNames }).2.names.get? "abs").any (·.accepts 1) = true := by
    decide +kernel
  have functions : ∀ f, .function f ∈ mathDeclarations → f = absolute ∨ f = { absolute with name := "labs" } := by
    intro f inside
    simpa [mathDeclarations] using inside
  rcases ended : (register mathDeclarations).run { names := mathNames } with ⟨result, r'⟩
  rw [ended] at evaluated
  obtain ⟨listed, places, replaced⟩ := evaluated
  cases result with
  | error f => cases listed
  | ok report =>
    have listed := Option.some.inj listed
    obtain ⟨kept, -⟩ := register_frame ended
    refine ⟨report, r', rfl, listed, places, ?_, ?_, ?_⟩
    · rcases kept "LIMIT" _ (by decide) rfl with same | ⟨⟨isFunction, -⟩, -⟩
      · exact same
      · cases isFunction
    · rcases kept "labs" _ (by decide) rfl with same | ⟨⟨-, f, inside, named, unfit⟩, -⟩
      · exact same
      · rcases functions f inside with rfl | rfl
        · exact absurd named (by decide)
        · cases unfit
    · rcases kept "abs" _ (by decide) rfl with same | ⟨-, b, now, f, g, inside, named, made, rfl⟩
      · rw [same] at replaced
        cases replaced
      · rcases functions f inside with rfl | rfl
        · exact ⟨g, made, now⟩
        · exact absurd named (by decide)

end CBindings.Register
