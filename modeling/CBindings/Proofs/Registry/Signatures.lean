import CBindings.Proofs.Probe.Segment
import CBindings.Proofs.Registry.Phases
import CBindings.Proofs.Registry.Trials
import Mathlib.Data.List.Nodup

/-! Functions registered again. A function that is bound already is passed over if its signature can be read; the
signature is made from the names of the parameters, from names made up for those without one, and from a name for the
rest of the arguments. -/
namespace CBindings

open Outcome Probe

section Signature

variable {names : List String} {variadic : Bool}

theorem checkDistinct_ok_iff (seen names : List String) :
    checkDistinct seen names = .ok () ↔ names.Nodup ∧ ∀ name ∈ names, name ∉ seen := by
  induction names generalizing seen with
  | nil => simp [checkDistinct]
  | cons name rest ih =>
    rw [checkDistinct]
    by_cases repeated : name ∈ seen
    · simp [repeated]
    · rw [if_neg (by simpa using repeated), ih, List.nodup_cons]
      simp only [List.mem_cons, not_or, forall_eq_or_imp, repeated, not_false_eq_true, true_and]
      constructor
      · rintro ⟨distinct, fresh⟩
        exact ⟨⟨fun inside => (fresh name inside).1 rfl, distinct⟩, fun other inside => (fresh other inside).2⟩
      · rintro ⟨⟨absent, distinct⟩, fresh⟩
        exact ⟨distinct, fun other inside => ⟨fun same => absent (same ▸ inside), fresh other inside⟩⟩

theorem check_eq_ok_iff {ε β : Type} {check : Except ε Unit} {rest : Unit → Except ε β} {b : β} :
    (check >>= rest) = .ok b ↔ check = .ok () ∧ rest () = .ok b := by
  cases check with
  | error e => simp [bind, Except.bind]
  | ok _ => simp [bind, Except.bind]

theorem forM_eq_ok_iff {check : String → Except SignatureFault Unit} (names : List String) :
    names.forM check = .ok () ↔ ∀ name ∈ names, check name = .ok () := by
  induction names with
  | nil => exact iff_of_true rfl (by simp)
  | cons name rest ih =>
    have step : (name :: rest).forM check = (check name >>= fun _ => rest.forM check) := rfl
    rw [step, check_eq_ok_iff, ih, List.forall_mem_cons]

/-- All arguments by position, and the rest of them if there may be more. -/
def positionalSignature (names : List String) (variadic : Bool) : Signature :=
  names.map (⟨·, .positionalOnly, false⟩) ++ if variadic then [⟨"args", .rest, false⟩] else []

theorem accepts_positionalSignature (names : List String) (variadic : Bool) :
    (positionalSignature names variadic).accepts names.length = true := by
  have positional : (positionalSignature names variadic).filter Signature.isPositional =
      names.map (⟨·, .positionalOnly, false⟩) := by
    cases variadic <;> simp [positionalSignature, Signature.isPositional, List.filter_map, Function.comp_def]
  have further : ((positionalSignature names variadic).filter (·.kind == .rest)).any (·.annotated) = false := by
    cases variadic <;> simp [positionalSignature]
  simp [Signature.accepts, positional, further]

theorem ofNames_eq_ok_iff {s : Signature} : Signature.ofNames names variadic = .ok s ↔
    (∀ name ∈ names, checkArgumentName name = .ok ()) ∧ (names ++ if variadic then ["args"] else []).Nodup ∧
      s = positionalSignature names variadic := by
  unfold Signature.ofNames
  rw [check_eq_ok_iff, forM_eq_ok_iff, check_eq_ok_iff, checkDistinct_ok_iff]
  simp only [List.not_mem_nil, not_false_eq_true, implies_true, and_true, pure, Except.pure, Except.ok.injEq]
  rw [positionalSignature, eq_comm (a := s)]

end Signature

/- A bound function accepts as many arguments as it has names exactly if its signature can be read. -/
theorem ForeignFunction.accepts_iff (g : ForeignFunction) :
    (Binding.function g).accepts g.argumentNames.length = true ↔
      (∀ name ∈ g.argumentNames, checkArgumentName name = .ok ()) ∧
        (g.argumentNames ++ if g.variadic then ["args"] else []).Nodup := by
  unfold Binding.accepts
  dsimp only
  cases read : g.signature with
  | ok s =>
    obtain ⟨valid, distinct, rfl⟩ := ofNames_eq_ok_iff.mp read
    exact iff_of_true (accepts_positionalSignature _ _) ⟨valid, distinct⟩
  | error f =>
    refine iff_of_false Bool.false_ne_true fun both => ?_
    have readable : g.signature = .ok _ := ofNames_eq_ok_iff.mpr ⟨both.1, both.2, rfl⟩
    rw [read] at readable
    cases readable

section Names

variable {names : List (Option String)}

/-- The name that a parameter gets if it has none. -/
def madeUp (i : Nat) : String := "arg" ++ i.repr

theorem madeUp_chars (i : Nat) : (madeUp i).toList = 'a' :: 'r' :: 'g' :: Nat.toDigits 10 i := by
  simp [madeUp, Nat.toList_repr]

theorem madeUp_injective {i j : Nat} (same : madeUp i = madeUp j) : i = j := by
  have digits := congrArg String.toList same
  simp only [madeUp_chars, List.cons.injEq, true_and] at digits
  rw [← Number.digitsValue_toDigits i, digits, Number.digitsValue_toDigits]

theorem madeUp_ne_args (i : Nat) : madeUp i ≠ "args" := by
  intro same
  have chars := congrArg String.toList same
  rw [madeUp_chars] at chars
  have digits : Nat.toDigits 10 i = ['s'] := by simpa using chars
  have digit := Number.isDigit_toDigits i 's' (by simp [digits])
  exact absurd digit (by decide)

theorem toNat_lt_of_word {c : Char} (word : (c.isAlphanum || c == '_') = true) : c.toNat < 128 := by
  have := alphanum_bounds word
  omega

theorem isName_identifier (n : Identifier) : Text.isName n.chars = true := by
  rw [Identifier.chars, Text.isName, Bool.and_eq_true, List.all_eq_true]
  refine ⟨?_, fun c inside => ?_⟩
  · rw [Text.startsName, if_pos (toNat_lt_of_word n.head_word)]
    exact n.starts
  · have word := List.all_eq_true.mp n.continues c inside
    rw [Text.continuesName, if_pos (toNat_lt_of_word word)]
    exact word

theorem checkArgumentName_identifier (n : Identifier) : checkArgumentName n.text = .ok () := by
  have chars : n.text.toList = n.head :: n.tail := by simp [Identifier.text, Identifier.chars]
  have noDot : n.head ≠ '.' := by
    intro dot
    have starts := n.starts
    rw [dot] at starts
    exact absurd starts (by decide)
  unfold checkArgumentName
  rw [chars]
  split
  · rename_i rest same
    exact absurd (List.cons.inj same).1 noDot
  · exact if_pos (isName_identifier n)

/-- A made-up name is spelled like any other. -/
def madeUpIdentifier (i : Nat) : Identifier where
  head := 'a'
  tail := 'r' :: 'g' :: Nat.toDigits 10 i
  starts := by decide
  continues := by
    have digits (c : Char) (inside : c ∈ Nat.toDigits 10 i) : (c.isAlphanum || c == '_') = true := by
      simp [Char.isAlphanum, Number.isDigit_toDigits i c inside]
    simpa using digits

theorem madeUpIdentifier_text (i : Nat) : (madeUpIdentifier i).text = madeUp i := by
  rw [← String.ofList_toList (s := madeUp i), madeUp_chars]
  rfl

/-- The names of all parameters, with made-up ones where there are none. -/
def argumentNames (names : List (Option String)) : List String :=
  names.zipIdx.map fun entry => entry.1.getD (madeUp entry.2)

theorem getElem?_argumentNames (names : List (Option String)) (i : Nat) :
    (argumentNames names)[i]? = names[i]?.map (·.getD (madeUp i)) := by
  simp [argumentNames, List.getElem?_zipIdx, Function.comp_def]

theorem mem_argumentNames_iff {name : String} : name ∈ argumentNames names ↔
    some name ∈ names ∨ ∃ i, names[i]? = some none ∧ name = madeUp i := by
  rw [List.mem_iff_getElem?]
  simp only [getElem?_argumentNames, Option.map_eq_some_iff]
  constructor
  · rintro ⟨i, given, found, rfl⟩
    cases given with
    | none => exact .inr ⟨i, found, rfl⟩
    | some name => exact .inl (List.mem_of_getElem? found)
  · rintro (inside | ⟨i, found, rfl⟩)
    · obtain ⟨i, found⟩ := List.mem_iff_getElem?.mp inside
      exact ⟨i, some name, found, rfl⟩
    · exact ⟨i, none, found, rfl⟩

/- No name is given twice, so two arguments of one name are a parameter and one whose name was made up. -/
theorem nodup_argumentNames_iff (distinct : (names.filterMap id).Nodup) : (argumentNames names).Nodup ↔
    ¬ ∃ i, names[i]? = some none ∧ some (madeUp i) ∈ names := by
  rw [List.nodup_iff_getElem?_ne_getElem?]
  constructor
  · rintro apart ⟨i, nameless, inside⟩
    obtain ⟨j, given⟩ := List.mem_iff_getElem?.mp inside
    have found : (argumentNames names)[i]? = some (madeUp i) := by
      rw [getElem?_argumentNames, nameless]
      rfl
    have found' : (argumentNames names)[j]? = some (madeUp i) := by
      rw [getElem?_argumentNames, given]
      rfl
    rcases Nat.lt_trichotomy i j with before | rfl | after
    · exact apart i j before (List.getElem?_eq_some_iff.mp found').1 (found.trans found'.symm)
    · cases nameless.symm.trans given
    · exact apart j i after (List.getElem?_eq_some_iff.mp found).1 (found'.trans found.symm)
  · intro clear i j before inside same
    have given := List.pairwise_filterMap.mp distinct
    rw [List.pairwise_iff_getElem] at given
    rw [getElem?_argumentNames, getElem?_argumentNames] at same
    have long : j < names.length := by simpa [argumentNames] using inside
    rw [List.getElem?_eq_getElem (Nat.lt_trans before long), List.getElem?_eq_getElem long] at same
    have apart := given i j (Nat.lt_trans before long) long before
    cases first : names[i] with
    | none =>
      have nameless : names[i]? = some none := by rw [List.getElem?_eq_getElem (Nat.lt_trans before long), first]
      cases second : names[j] with
      | none =>
        rw [first, second] at same
        exact Nat.ne_of_lt before (madeUp_injective (Option.some.inj same))
      | some name =>
        rw [first, second] at same
        have equal : madeUp i = name := Option.some.inj same
        exact clear ⟨i, nameless, equal ▸ second ▸ List.getElem_mem long⟩
    | some name =>
      cases second : names[j] with
      | none =>
        have nameless : names[j]? = some none := by rw [List.getElem?_eq_getElem long, second]
        rw [first, second] at same
        have equal : name = madeUp j := Option.some.inj same
        exact clear ⟨j, nameless, equal ▸ first ▸ List.getElem_mem (Nat.lt_trans before long)⟩
      | some name' =>
        rw [first, second] at same
        exact apart name first name' second (Option.some.inj same)

end Names

/-- A name that is made up for a parameter is the name of another one, or a parameter has the name of the rest of the
arguments. -/
def Function.Clashes (f : Function) : Prop :=
  (∃ i < f.parameters.length, (f.parameters.map (·.name))[i]? = some none ∧
    some (madeUp i) ∈ f.parameters.map (·.name)) ∨
  f.variadic = true ∧ some "args" ∈ f.parameters.map (·.name)

instance (f : Function) : Decidable f.Clashes := inferInstanceAs (Decidable (_ ∨ _))

/-- The parameters that have names are named as C programs name them, and differently. -/
structure Function.WellNamed (f : Function) : Prop where
  identifiers : ∀ p ∈ f.parameters, ∀ name, p.name = some name → ∃ n : Identifier, n.text = name
  distinct : (f.parameters.filterMap (·.name)).Nodup

section Function

variable {f : Function}

theorem Function.WellNamed.ne_empty (wellNamed : f.WellNamed) {p : Parameter TypeExpr} {name : String}
    (inside : p ∈ f.parameters) (given : p.name = some name) : name.isEmpty = false := by
  obtain ⟨n, rfl⟩ := wellNamed.identifiers p inside name given
  simp [Identifier.text, Identifier.chars]

theorem Function.WellNamed.namesFor_eq (wellNamed : f.WellNamed) :
    ForeignFunction.namesFor f.parameters.length (f.parameters.map fun p => p.name.getD "") =
      argumentNames (f.parameters.map (·.name)) := by
  refine List.ext_getElem? fun i => ?_
  rw [getElem?_argumentNames, ForeignFunction.namesFor, List.getElem?_map, List.getElem?_map]
  cases found : f.parameters[i]? with
  | none => simpa using found
  | some p =>
    have inside : i < f.parameters.length := (List.getElem?_eq_some_iff.mp found).1
    rw [List.getElem?_range inside, Option.map_some, List.getElem?_map, found]
    cases given : p.name with
    | none => simp [given, madeUp]
    | some name =>
      have filled := wellNamed.ne_empty (List.mem_of_getElem? found) given
      simp [given, filled]

theorem Function.WellNamed.checked (wellNamed : f.WellNamed) :
    ∀ name ∈ argumentNames (f.parameters.map (·.name)), checkArgumentName name = .ok () := by
  intro name inside
  rcases mem_argumentNames_iff.mp inside with given | ⟨i, -, rfl⟩
  · obtain ⟨p, inside, named⟩ := List.mem_map.mp given
    obtain ⟨n, rfl⟩ := wellNamed.identifiers p inside name named
    exact checkArgumentName_identifier n
  · rw [← madeUpIdentifier_text]
    exact checkArgumentName_identifier _

theorem Function.WellNamed.nodup_iff (wellNamed : f.WellNamed) :
    (argumentNames (f.parameters.map (·.name)) ++ if f.variadic then ["args"] else []).Nodup ↔ ¬ f.Clashes := by
  have distinct : ((f.parameters.map (·.name)).filterMap id).Nodup := by
    rw [List.filterMap_map]
    exact wellNamed.distinct
  have args : "args" ∈ argumentNames (f.parameters.map (·.name)) ↔ some "args" ∈ f.parameters.map (·.name) := by
    rw [mem_argumentNames_iff, or_iff_left]
    rintro ⟨i, -, same⟩
    exact madeUp_ne_args i same.symm
  have bounded : (∃ i < f.parameters.length, (f.parameters.map (·.name))[i]? = some none ∧
      some (madeUp i) ∈ f.parameters.map (·.name)) ↔
      ∃ i, (f.parameters.map (·.name))[i]? = some none ∧ some (madeUp i) ∈ f.parameters.map (·.name) := by
    constructor
    · rintro ⟨i, -, clash⟩
      exact ⟨i, clash⟩
    · rintro ⟨i, nameless, given⟩
      refine ⟨i, ?_, nameless, given⟩
      simpa using (List.getElem?_eq_some_iff.mp nameless).1
  rw [Function.Clashes, bounded, not_or, ← nodup_argumentNames_iff distinct]
  cases f.variadic with
  | false => simp
  | true =>
    have apart : (∀ name ∈ argumentNames (f.parameters.map (·.name)), ∀ rest ∈ ["args"], name ≠ rest) ↔
        "args" ∉ argumentNames (f.parameters.map (·.name)) := by
      simp only [List.mem_singleton, forall_eq]
      exact ⟨fun each inside => each _ inside rfl, fun absent name inside same => absent (same ▸ inside)⟩
    rw [if_pos rfl, List.nodup_append, apart, args]
    simp

end Function

namespace Register

variable {f : Function} {r r' s : Registry}

/- A function that is registered is bound with as many arguments as it has parameters. -/
theorem registerFunction_bound (ended : (registerFunction f).run r = (.ok true, r')) :
    ∃ g : ForeignFunction, r'.names.get? f.name = some (.function g) ∧ g.variadic = f.variadic ∧
      g.argumentNames = ForeignFunction.namesFor f.parameters.length (f.parameters.map fun p => p.name.getD "") := by
  cases started : functionStart? r f with
  | none =>
    rcases registerFunction_passed started with ⟨log, passed⟩ | ⟨missed, failed⟩
    · cases ended.symm.trans passed
    · cases ended.symm.trans failed
  | some s =>
    rw [registerFunction_started started] at ended
    obtain ⟨result, s₁, -, onward⟩ := run_bind_ok ended
    obtain ⟨arguments, s₂, found, onward⟩ := run_bind_ok onward
    cases onward
    refine ⟨_, (Namespace.get?_insert _ _ _ _).trans (if_pos rfl), rfl, ?_⟩
    rw [ForeignFunction.make, parameterTypes_length found]

theorem functionStart?_function {g : ForeignFunction} (bound : r.names.get? f.name = some (.function g)) :
    functionStart? r f = none ↔ (Binding.function g).accepts f.parameters.length = true := by
  have stays : (Binding.function g).staysFor f.parameters.length =
      .ok ((Binding.function g).accepts f.parameters.length) := rfl
  unfold functionStart?
  rw [bound]
  dsimp only
  rw [stays]
  cases (Binding.function g).accepts f.parameters.length with
  | true => simp
  | false => simp

theorem registerFunction_skipped {g : ForeignFunction} (bound : r.names.get? f.name = some (.function g))
    (accepted : (Binding.function g).accepts f.parameters.length = true) :
    ∃ log, (registerFunction f).run r = (.ok false, { r with log := log }) :=
  registerFunction_stays bound (congrArg Except.ok accepted)

theorem verdict_function_eq_false_iff {g : ForeignFunction} (bound : r.names.get? f.name = some (.function g)) :
    verdict (r, .function f) = some false ↔ (Binding.function g).accepts f.parameters.length = true := by
  rw [verdict, ← functionStart?_function bound]
  cases started : functionStart? r f with
  | none =>
    obtain ⟨log, passed⟩ := registerFunction_skipped bound ((functionStart?_function bound).mp started)
    rw [registerOne, passed]
    exact iff_of_true rfl rfl
  | some s =>
    have concludes := registerFunction_concludes started
    refine iff_of_false (fun ended => ?_) (Option.some_ne_none s)
    rw [registerOne] at ended
    generalize (signatureTypes f.result f.parameters).run s = found at concludes
    obtain ⟨result, s'⟩ := found
    cases result with
    | error fault =>
      rw [show (registerFunction f).run r = _ from concludes] at ended
      cases ended
    | ok native =>
      rcases concludes with ⟨fault, -, failed⟩ | ⟨b, done⟩
      · rw [failed] at ended
        cases ended
      · rw [done] at ended
        cases ended

/- A call with one declaration reports it as skipped exactly if the bound function accepts its arguments, and then binds
nothing but the index of constants. -/
theorem register_function_skipped_iff {g : ForeignFunction} (bound : r.names.get? f.name = some (.function g)) :
    (Binding.function g).accepts f.parameters.length = true ↔
      ∃ r', (register [.function f]).run r = (.ok ⟨[], [f.name], []⟩, r') ∧
        ∀ name ≠ constantIndexName, r'.names.get? name = r.names.get? name := by
  have begun : r.begun.names.get? f.name = some (.function g) := bound
  rw [register_run]
  constructor
  · intro accepted
    obtain ⟨log, ended⟩ := registerFunction_skipped begun accepted
    have tried : (registerAll {} [.function f]).run r.begun =
        (.ok ⟨[], [f.name], []⟩, { r.begun with log := log }) := by
      rw [registerAll_trial, run_bind, trial_run_eq _ _ rfl, attempt_run_eq, registerOne, ended]
      rfl
    rw [tried]
    refine ⟨_, rfl, fun name other => ?_⟩
    exact (Namespace.get?_insert _ _ _ _).trans (if_neg other)
  · rintro ⟨r', ended, -⟩
    rcases tried : (registerAll {} [.function f]).run r.begun with ⟨result, s⟩
    rw [tried] at ended
    cases result with
    | error fault => cases ended
    | ok report =>
      cases ended
      obtain ⟨-, -, skipped, -⟩ := registerAll_report tried
      rw [trials_single, namesEnded_cons] at skipped
      rw [← verdict_function_eq_false_iff begun]
      by_contra registered
      simp [registered, namesEnded] at skipped

/-- A function whose parameters have distinct names is passed over when it is registered again, in any registry with
that binding, exactly if no name clashes with a made-up one. -/
theorem function_again_skipped_iff (wellNamed : f.WellNamed) (ended : (registerFunction f).run r = (.ok true, r'))
    (same : s.names.get? f.name = r'.names.get? f.name) :
    ∃ g : ForeignFunction, r'.names.get? f.name = some (.function g) ∧
      ((Binding.function g).accepts f.parameters.length = true ↔ ¬ f.Clashes) ∧
      ((∃ s', (register [.function f]).run s = (.ok ⟨[], [f.name], []⟩, s') ∧
        ∀ name ≠ constantIndexName, s'.names.get? name = s.names.get? name) ↔ ¬ f.Clashes) := by
  obtain ⟨g, bound, variadic, names⟩ := registerFunction_bound ended
  rw [wellNamed.namesFor_eq] at names
  have accepted : (Binding.function g).accepts f.parameters.length = true ↔ ¬ f.Clashes := by
    have count : f.parameters.length = g.argumentNames.length := by simp [names, argumentNames]
    rw [count, g.accepts_iff, names, variadic, wellNamed.nodup_iff, and_iff_right wellNamed.checked]
  refine ⟨g, bound, accepted, ?_⟩
  rw [← register_function_skipped_iff (same.trans bound), accepted]

/-- The format has no name, and any number of arguments may follow. -/
def printFunction : Function :=
  { name := "print", result := .named "int" [] none, variadic := true, parameters := [
      ⟨some "level", .named "int" [] none⟩, ⟨none, .pointer (.named "char" [] none)⟩] }

def levelName : Identifier := ⟨'l', ['e', 'v', 'e', 'l'], by decide, by decide⟩

theorem printFunction_wellNamed : printFunction.WellNamed where
  identifiers p inside name given := by
    simp only [printFunction, List.mem_cons, List.not_mem_nil, or_false] at inside
    rcases inside with rfl | rfl
    · cases given
      exact ⟨levelName, by decide⟩
    · cases given
  distinct := by decide

theorem printFunction_again_skipped : ∃ r' s', (registerFunction printFunction).run {} = (.ok true, r') ∧
    (register [.function printFunction]).run r' = (.ok ⟨[], ["print"], []⟩, s') ∧
    s'.names.get? "print" = r'.names.get? "print" := by
  have registered : verdict ({}, .function printFunction) = some true := by decide +kernel
  obtain ⟨r', ended⟩ := run_of_verdict registered
  obtain ⟨g, -, -, skipped⟩ := function_again_skipped_iff printFunction_wellNamed ended rfl
  obtain ⟨s', again, kept⟩ := skipped.mpr (by decide +kernel)
  exact ⟨r', s', ended, again, kept "print" (by decide)⟩

/-- The parameter without a name gets the name of the other one. -/
def shiftFunction : Function :=
  { name := "shift", result := .named "int" [] none, parameters := [
      ⟨none, .named "int" [] none⟩, ⟨some "arg0", .named "int" [] none⟩] }

theorem shiftFunction_wellNamed : shiftFunction.WellNamed where
  identifiers p inside name given := by
    simp only [shiftFunction, List.mem_cons, List.not_mem_nil, or_false] at inside
    rcases inside with rfl | rfl
    · cases given
    · cases given
      exact ⟨madeUpIdentifier 0, by decide +kernel⟩
  distinct := by decide

/- The second call registers the function once more, instead of passing it over. -/
theorem shiftFunction_replaced : shiftFunction.WellNamed ∧ verdict ({}, .function shiftFunction) = some true ∧
    verdict (((registerFunction shiftFunction).run {}).2, .function shiftFunction) = some true :=
  ⟨shiftFunction_wellNamed, by decide +kernel, by decide +kernel⟩

end Register

end CBindings
