import CBindings.Proofs.Registry.Enumerators
import Mathlib.Data.List.Basic

/-! Integers in a namespace, in the members of an enumeration and in the index of constants. A namespace and an index
that are filled side by side list the same names. -/
namespace CBindings

open Outcome

/-- The integer that a binding stands for: the value of a constant, or of a member of an enumeration. -/
def Binding.number? : Binding → Option Int
  | .value (.int n) => some n
  | .member _ _ n => some n
  | _ => none

namespace Namespace

def number? (ns : Namespace) (name : String) : Option Int := (ns.get? name).bind Binding.number?

/-- Those of the names that stand for integers, each with its own. -/
def numbersOf (ns : Namespace) (names : List String) : List (String × Int) :=
  names.filterMap fun name => (ns.number? name).map (name, ·)

theorem number?_insert (ns : Namespace) (name : String) (b : Binding) (other : String) :
    (ns.insert name b).number? other = if other = name then b.number? else ns.number? other := by
  unfold number?
  rw [get?_insert]
  split
  · rfl
  · rfl

theorem number?_of_free {ns : Namespace} {name : String} (free : ns.has name = false) : ns.number? name = none := by
  have unbound : ns.get? name = none := by simpa [has] using free
  rw [number?, unbound]
  rfl

theorem mem_numbersOf {ns : Namespace} {names : List String} {name : String} {n : Int} :
    (name, n) ∈ ns.numbersOf names ↔ name ∈ names ∧ ns.number? name = some n := by
  simp [numbersOf, List.mem_filterMap, Option.map_eq_some_iff]

end Namespace

namespace ConstantIndex

theorem lookup_addName (n : Int) (name : String) (table : List (Int × List String)) (m : Int) :
    (addName n name table).lookup m =
      if m = n then some ((table.lookup n).getD [] ++ [name]) else table.lookup m := by
  induction table with
  | nil =>
    by_cases same : m = n
    · simp [addName, same]
    · have apart : (m == n) = false := beq_eq_false_iff_ne.mpr same
      simp [addName, List.lookup_cons, same, apart]
  | cons entry rest ih =>
    obtain ⟨k, names⟩ := entry
    rw [addName]
    by_cases here : k = n
    · subst here
      by_cases same : m = k
      · simp [same]
      · have apart : (m == k) = false := beq_eq_false_iff_ne.mpr same
        simp [List.lookup_cons, same, apart]
    · have other : (n == k) = false := beq_eq_false_iff_ne.mpr fun same => here same.symm
      rw [if_neg (by simpa using here), List.lookup_cons, List.lookup_cons, List.lookup_cons, ih, other]
      by_cases same : m = k
      · subst same
        simp [here]
      · have apart : (m == k) = false := beq_eq_false_iff_ne.mpr same
        rw [apart]

theorem namesOf_insert {i : ConstantIndex} {n : Int} {name : String} (new : name ∉ i.namesOf n) (m : Int) :
    (i.insert n name).namesOf m = i.namesOf m ++ if m = n then [name] else [] := by
  have absent : (i.namesOf n).contains name = false := by simpa using new
  unfold insert
  rw [absent, if_neg Bool.false_ne_true, namesOf, lookup_addName]
  by_cases same : m = n
  · simp [same, namesOf]
  · simp [same, namesOf]

theorem mem_namesOf_add (i : ConstantIndex) (v : Value) (name : String) (n : Int) :
    name ∈ (i.add v name).namesOf n ↔ name ∈ i.namesOf n ∨ v = .int n := by
  unfold add
  split
  · rename_i m
    by_cases listed : name ∈ i.namesOf m
    · have same : i.insert m name = i := if_pos (by simpa using listed)
      rw [same]
      constructor
      · exact .inl
      · rintro (inside | own)
        · exact inside
        · cases own
          exact listed
    · rw [namesOf_insert listed, List.mem_append]
      by_cases same : n = m
      · simp [same]
      · have apart : m ≠ n := fun eq => same eq.symm
        simp [same, apart]
  · rename_i other
    constructor
    · exact .inl
    · rintro (inside | own)
      · exact inside
      · exact absurd own (other n)

/-- Every value that has an entry has a name. -/
def Filled (i : ConstantIndex) : Prop := ∀ n names, i.table.lookup n = some names → names ≠ []

theorem Filled.insert {i : ConstantIndex} (filled : i.Filled) (n : Int) (name : String) : (i.insert n name).Filled := by
  intro m names found
  unfold ConstantIndex.insert at found
  split at found
  · exact filled m names found
  · rw [lookup_addName] at found
    split at found
    · cases found
      simp
    · exact filled m names found

theorem Filled.contains_iff {i : ConstantIndex} (filled : i.Filled) (v : Value) :
    i.contains v = true ↔ i.names v ≠ [] := by
  unfold contains names
  cases v.toInt? with
  | none => simp
  | some n =>
    cases found : i.table.lookup n with
    | none => simp [namesOf, found]
    | some names => simpa [namesOf, found] using filled n names found

end ConstantIndex

namespace EnumClass

variable {name : String} {values : List Enumerator} {c : EnumClass}

theorem membersFrom_nodup {members found : List (String × Int)} (made : membersFrom name members values = .ok found)
    (distinct : (members.map Prod.fst).Nodup) : (found.map Prod.fst).Nodup := by
  induction values generalizing members with
  | nil =>
    cases made
    exact distinct
  | cons v rest ih =>
    rw [membersFrom] at made
    split at made
    · exact ih made distinct
    · split at made
      · split at made
        · cases made
        · split at made
          · cases made
          · exact ih made distinct
      · split at made
        · exact ih made distinct
        · split at made
          · cases made
          · rename_i absent
            refine ih made ?_
            have new : v.name ∉ members.map Prod.fst := by
              intro inside
              obtain ⟨entry, member, same⟩ := List.mem_map.mp inside
              simpa [same] using List.lookup_eq_none_iff.mp absent entry member
            rw [List.map_append, List.nodup_append]
            refine ⟨distinct, by simp, fun other inside last single same => ?_⟩
            have own : other = v.name := same.trans (List.mem_singleton.mp single)
            exact new (own ▸ inside)

theorem make_nodup (made : make name values = .ok c) : (c.members.map Prod.fst).Nodup := by
  have listed := make_ok made
  unfold make at made
  obtain ⟨members, found, -⟩ := bind_eq_ok_iff.mp made
  have same : members = c.members := (membersFrom_ok found).trans listed.symm
  exact same ▸ membersFrom_nodup found List.nodup_nil

/- Two enumerators of one name are no members. -/
theorem make_pairwise (made : make name values = .ok c) :
    values.Pairwise fun v w => passesOver name v.name = false → v.name ≠ w.name := by
  have distinct := make_nodup made
  rw [make_ok made, List.map_map, List.Nodup, List.pairwise_map, List.pairwise_filter] at distinct
  refine distinct.imp fun {v w} apart member same => ?_
  exact apart (by simp [member]) (by simp [← same, member]) same

theorem lookup_of_mem {β : Type} {entries : List (String × β)} (distinct : (entries.map Prod.fst).Nodup)
    {key : String} {value : β} (inside : (key, value) ∈ entries) : entries.lookup key = some value := by
  induction entries with
  | nil => cases inside
  | cons entry rest ih =>
    obtain ⟨k, w⟩ := entry
    rw [List.map_cons, List.nodup_cons] at distinct
    rcases List.mem_cons.mp inside with same | later
    · cases same
      simp
    · have apart : (key == k) = false := by
        refine beq_eq_false_iff_ne.mpr ?_
        rintro rfl
        exact distinct.1 (List.mem_map.mpr ⟨_, later, rfl⟩)
      rw [List.lookup_cons, apart]
      exact ih distinct.2 later

theorem passesOver_of_member? (made : make name values = .ok c) {v : Enumerator} (inside : v ∈ values)
    {member : String × Int} (found : c.member? v.name = .ok member) : passesOver name v.name = false := by
  cases passed : passesOver name v.name with
  | false => rfl
  | true =>
    obtain ⟨f, missing⟩ := (member?_error_iff made inside).mpr passed
    cases missing.symm.trans found

/- The member that an enumerator stands for may have another name, but it has the same value. -/
theorem member?_value (made : make name values = .ok c) {v : Enumerator} (inside : v ∈ values) {member : String × Int}
    (found : c.member? v.name = .ok member) : member.2 = v.value := by
  have passed := passesOver_of_member? made inside found
  have listed : (v.name, v.value) ∈ c.members := by
    rw [make_ok made]
    exact List.mem_map_of_mem (List.mem_filter.mpr ⟨inside, by simp [passed]⟩)
  rw [member?, lookup_of_mem (make_nodup made) listed] at found
  cases found
  cases first : c.members.find? (·.2 == v.value) with
  | none => rfl
  | some entry => simpa using List.find?_some first

end EnumClass

/- An enumeration has those of the special names that it declares. -/
theorem EnumClass.make_has {name : String} {values : List Enumerator} {c : EnumClass}
    (made : make name values = .ok c) {special : String} (isSpecial : isSpecial special.toList = true) :
    c.has special = declares values special := by
  unfold make at made
  obtain ⟨members, -, checked⟩ := bind_eq_ok_iff.mp made
  have unchecked := checked_eq_ok (checked_eq_ok (checked_eq_ok (checked_eq_ok (checked_eq_ok checked))))
  cases checked_eq_ok (checked_eq_ok unchecked)
  rw [has, List.any_map, List.any_filter, declares]
  refine congrArg values.any (funext fun v => ?_)
  by_cases same : v.name = special
  · simp [same, isSpecial]
  · simp [same]

namespace Register

/-- A name that is newly bound to an integer, and whether what it is bound to can be compared with one. -/
structure NewNumber where
  name : String
  value : Int
  comparable : Bool
deriving DecidableEq, Repr

/-- Names are bound one after another. A name that is free is bound to an integer, which the index lists, or to
something else; one that is bound can only be bound again to a function, and what was an integer then is lost. -/
inductive Counted : Namespace → ConstantIndex → List NewNumber → List String → Namespace → ConstantIndex → Prop
  | done {ns i} : Counted ns i [] [] ns i
  | other {ns i name b numbers lost ns' i'} (plain : b.number? = none) (free : ns.has name = false)
    (onward : Counted (ns.insert name b) i numbers lost ns' i') : Counted ns i numbers lost ns' i'
  | function {ns i name g numbers lost ns' i'} (blank : ns.number? name = none)
    (onward : Counted (ns.insert name (.function g)) i numbers lost ns' i') : Counted ns i numbers lost ns' i'
  | lost {ns i name g numbers lost ns' i'} (given : ns.number? name ≠ none)
    (onward : Counted (ns.insert name (.function g)) i numbers lost ns' i') : Counted ns i numbers (name :: lost) ns' i'
  | number {ns i k b numbers lost ns' i'} (free : ns.has k.name = false) (given : b.number? = some k.value)
    (compared : b.equals? k.value = if k.comparable then some true else none)
    (onward : Counted (ns.insert k.name b) (i.insert k.value k.name) numbers lost ns' i') :
    Counted ns i (k :: numbers) lost ns' i'

section Counted

variable {ns ns' ns'' : Namespace} {i i' i'' : ConstantIndex} {numbers more : List NewNumber} {lost lost' : List String}
  {name : String} {b : Binding}

theorem Counted.trans (first : Counted ns i numbers lost ns' i') (second : Counted ns' i' more lost' ns'' i'') :
    Counted ns i (numbers ++ more) (lost ++ lost') ns'' i'' := by
  induction first with
  | done => exact second
  | other plain free _ ih => exact .other plain free (ih second)
  | function blank _ ih => exact .function blank (ih second)
  | lost given _ ih => exact .lost given (ih second)
  | number free given compared _ ih => exact .number free given compared (ih second)

theorem Counted.filled (counted : Counted ns i numbers lost ns' i') (filled : i.Filled) : i'.Filled := by
  induction counted with
  | done => exact filled
  | other _ _ _ ih | function _ _ ih | lost _ _ ih => exact ih filled
  | number _ _ _ _ ih => exact ih (filled.insert _ _)

/- A name that is free is not listed yet, so listing it makes the list longer. -/
theorem Counted.namesOf (counted : Counted ns i numbers lost ns' i')
    (bound : ∀ n, ∀ name ∈ i.namesOf n, ns.has name = true) (n : Int) :
    i'.namesOf n = i.namesOf n ++ (numbers.filter (·.value == n)).map (·.name) := by
  have still {ns : Namespace} {i : ConstantIndex} (bound : ∀ n, ∀ name ∈ i.namesOf n, ns.has name = true)
      (other : String) (b : Binding) : ∀ n, ∀ name ∈ i.namesOf n, (ns.insert other b).has name = true := by
    intro m name inside
    rw [Namespace.has_insert, bound m name inside, Bool.or_true]
  induction counted with
  | done => simp
  | other _ _ _ ih | function _ _ ih | lost _ _ ih => exact ih (still bound _ _)
  | @number ns i k b numbers _ _ _ free _ _ _ ih =>
    have new (m : Int) : k.name ∉ i.namesOf m := by
      intro inside
      cases free.symm.trans (bound m k.name inside)
    have others : ∀ m, ∀ name ∈ (i.insert k.value k.name).namesOf m, (ns.insert k.name b).has name = true := by
      intro m name inside
      rw [Namespace.has_insert, Bool.or_eq_true, decide_eq_true_eq]
      rw [ConstantIndex.namesOf_insert (new k.value)] at inside
      rcases List.mem_append.mp inside with old | own
      · exact .inr (bound m name old)
      · split at own
        · exact .inl (List.mem_singleton.mp own)
        · cases own
    rw [ih others, ConstantIndex.namesOf_insert (new k.value), List.append_assoc, List.filter_cons]
    by_cases same : n = k.value
    · simp [same]
    · have apart : k.value ≠ n := fun equal => same equal.symm
      simp [same, apart]

/- What is bound and no integer stays so. -/
theorem Counted.plain (counted : Counted ns i numbers lost ns' i') (bound : ns.has name = true)
    (plain : ns.number? name = none) : ns'.number? name = none := by
  induction counted with
  | done => exact plain
  | @other _ _ other b _ _ _ _ _ free _ ih =>
    have apart : name ≠ other := by
      rintro rfl
      cases free.symm.trans bound
    exact ih (by simp [Namespace.has_insert, bound]) (by rw [Namespace.number?_insert, if_neg apart, plain])
  | @function _ _ other g _ _ _ _ _ _ ih | @lost _ _ other g _ _ _ _ _ _ ih =>
    refine ih (by simp [Namespace.has_insert, bound]) ?_
    rw [Namespace.number?_insert]
    split
    · rfl
    · exact plain
  | @number _ _ k b _ _ _ _ free _ _ _ ih =>
    have apart : name ≠ k.name := by
      rintro rfl
      cases free.symm.trans bound
    exact ih (by simp [Namespace.has_insert, bound]) (by rw [Namespace.number?_insert, if_neg apart, plain])

theorem Counted.function_stays (counted : Counted ns i numbers lost ns' i') {g : ForeignFunction}
    (bound : ns.get? name = some (.function g)) : ∃ g', ns'.get? name = some (.function g') := by
  have has {ns : Namespace} {g : ForeignFunction} (bound : ns.get? name = some (.function g)) :
      ns.has name = true := by simp [Namespace.has, bound]
  induction counted generalizing g with
  | done => exact ⟨g, bound⟩
  | @other _ _ other b _ _ _ _ _ free _ ih =>
    have apart : name ≠ other := by
      rintro rfl
      cases free.symm.trans (has bound)
    exact ih (by rw [Namespace.get?_insert, if_neg apart, bound])
  | @function ns _ other g' _ _ _ _ _ _ ih | @lost ns _ other g' _ _ _ _ _ _ ih =>
    have found := Namespace.get?_insert ns other (.function g') name
    split at found
    · exact ih found
    · exact ih (found.trans bound)
  | @number _ _ k b _ _ _ _ free _ _ _ ih =>
    have apart : name ≠ k.name := by
      rintro rfl
      cases free.symm.trans (has bound)
    exact ih (by rw [Namespace.get?_insert, if_neg apart, bound])

/- An integer stays what it is, unless it is lost to a function. -/
theorem Counted.kept (counted : Counted ns i numbers lost ns' i') (bound : ns.get? name = some b)
    (number : b.number? ≠ none) :
    name ∉ lost ∧ ns'.get? name = some b ∨ name ∈ lost ∧ ∃ g, ns'.get? name = some (.function g) := by
  have has {ns : Namespace} (bound : ns.get? name = some b) : ns.has name = true := by simp [Namespace.has, bound]
  have given {ns : Namespace} (bound : ns.get? name = some b) : ns.number? name ≠ none := by
    rw [Namespace.number?, bound]
    exact number
  induction counted with
  | done => exact .inl ⟨by simp, bound⟩
  | @other _ _ other b' _ _ _ _ _ free _ ih =>
    have apart : name ≠ other := by
      rintro rfl
      cases free.symm.trans (has bound)
    exact ih (by rw [Namespace.get?_insert, if_neg apart, bound])
  | @function _ _ other g _ _ _ _ blank _ ih =>
    have apart : name ≠ other := by
      rintro rfl
      exact given bound blank
    exact ih (by rw [Namespace.get?_insert, if_neg apart, bound])
  | @lost ns _ other g _ lost _ _ _ onward ih =>
    by_cases here : name = other
    · subst here
      have found : (ns.insert name (.function g)).get? name = some (.function g) := by simp [Namespace.get?_insert]
      exact .inr ⟨List.mem_cons_self, onward.function_stays found⟩
    · simpa [here] using ih (by rw [Namespace.get?_insert, if_neg here, bound])
  | @number _ _ k b' _ _ _ _ free _ _ _ ih =>
    have apart : name ≠ k.name := by
      rintro rfl
      cases free.symm.trans (has bound)
    exact ih (by rw [Namespace.get?_insert, if_neg apart, bound])

/-- Between the two the names of `new` are bound, in this order. -/
structure Adds (ns : Namespace) (new : List String) (ns' : Namespace) : Prop where
  places : ns'.map Prod.fst = ns.map Prod.fst ++ new
  distinct : new.Nodup
  free : ∀ name ∈ new, ns.has name = false

theorem Adds.refl (ns : Namespace) : Adds ns [] ns := ⟨by simp, List.nodup_nil, by simp⟩

theorem Adds.insert_free (free : ns.has name = false) {new : List String} (adds : Adds (ns.insert name b) new ns') :
    Adds ns (name :: new) ns' := by
  have unbound {other : String} (inside : other ∈ new) : other ≠ name ∧ ns.has other = false := by
    have absent := adds.free other inside
    rw [Namespace.has_insert, Bool.or_eq_false_iff, decide_eq_false_iff_not] at absent
    exact absent
  refine ⟨?_, ?_, ?_⟩
  · rw [adds.places, Namespace.insert_of_free free, List.map_append, List.append_assoc]
    rfl
  · exact List.nodup_cons.mpr ⟨fun inside => (unbound inside).1 rfl, adds.distinct⟩
  · exact List.forall_mem_cons.mpr ⟨free, fun other inside => (unbound inside).2⟩

theorem Adds.insert_bound (bound : ns.has name = true) {new : List String} (adds : Adds (ns.insert name b) new ns') :
    Adds ns new ns' := by
  refine ⟨?_, adds.distinct, fun other inside => ?_⟩
  · rw [adds.places, Namespace.places_of_bound bound]
  · have absent := adds.free other inside
    rw [Namespace.has_insert, Bool.or_eq_false_iff] at absent
    exact absent.2

/- The numbers come in the order in which their names were bound; those that were not lost are the integers among the
new names. -/
theorem Counted.adds (counted : Counted ns i numbers lost ns' i') :
    ∃ new, Adds ns new ns' ∧ (numbers.map (·.name)).Sublist new ∧
      ns'.numbersOf new = (numbers.filter (·.name ∉ lost)).map fun k => (k.name, k.value) := by
  induction counted with
  | done => exact ⟨[], Adds.refl _, List.Sublist.refl _, rfl⟩
  | @other ns _ name b _ _ _ _ plain free onward ih =>
    obtain ⟨new, adds, part, listed⟩ := ih
    refine ⟨name :: new, adds.insert_free free, part.cons name, ?_⟩
    have own := onward.plain (ns.has_insert_self name b) (by simp [Namespace.number?_insert, plain])
    simpa [Namespace.numbersOf, own] using listed
  | @function ns _ name g _ _ _ _ blank onward ih =>
    obtain ⟨new, adds, part, listed⟩ := ih
    cases bound : ns.has name with
    | true => exact ⟨new, adds.insert_bound bound, part, listed⟩
    | false =>
      refine ⟨name :: new, adds.insert_free bound, part.cons name, ?_⟩
      have own := onward.plain (ns.has_insert_self name (.function g))
        (by simp [Namespace.number?_insert, Binding.number?])
      simpa [Namespace.numbersOf, own] using listed
  | @lost ns _ name g numbers lost _ _ given onward ih =>
    obtain ⟨new, adds, part, listed⟩ := ih
    have bound : ns.has name = true := by
      cases free : ns.has name with
      | true => rfl
      | false => exact absurd (Namespace.number?_of_free free) given
    refine ⟨new, adds.insert_bound bound, part, listed.trans (congrArg (List.map _) (List.filter_congr ?_))⟩
    -- what is counted later was free when the other name was bound
    intro k inside
    have apart : k.name ≠ name := by
      intro same
      have unbound := adds.free k.name (part.subset (List.mem_map_of_mem inside))
      simp [Namespace.has_insert, same] at unbound
    simp [apart]
  | @number ns _ k b numbers lost ns' _ free given _ onward ih =>
    obtain ⟨new, adds, part, listed⟩ := ih
    refine ⟨k.name :: new, adds.insert_free free, part.cons_cons k.name, ?_⟩
    have bound : (ns.insert k.name b).get? k.name = some b := by simp [Namespace.get?_insert]
    rcases onward.kept bound (by simp [given]) with ⟨kept, same⟩ | ⟨gone, g, replaced⟩
    · have own : ns'.number? k.name = some k.value := by rw [Namespace.number?, same, Option.bind_some, given]
      simpa [Namespace.numbersOf, own, kept] using listed
    · have own : ns'.number? k.name = none := by
        rw [Namespace.number?, replaced]
        rfl
      simpa [Namespace.numbersOf, own, gone] using listed

theorem equals?_function (g : ForeignFunction) (n : Int) : (Binding.function g).equals? n = some false := rfl

/- A number that was counted is equal to what its name is bound to exactly if it can be compared and was not lost. -/
theorem Counted.equal_iff (counted : Counted ns i numbers lost ns' i') {k : NewNumber} (inside : k ∈ numbers) :
    ∃ b, ns'.get? k.name = some b ∧ (b.equals? k.value = some true ↔ k.comparable = true ∧ k.name ∉ lost) := by
  induction counted with
  | done => cases inside
  | other _ _ _ ih | function _ _ ih => exact ih inside
  | @lost ns _ other g numbers lost _ _ _ onward ih =>
    obtain ⟨b, bound, equal⟩ := ih inside
    refine ⟨b, bound, equal.trans (and_congr_right fun _ => ?_)⟩
    -- the name was free after the other one was lost
    have apart : k.name ≠ other := by
      intro same
      obtain ⟨new, adds, part, -⟩ := onward.adds
      have unbound := adds.free k.name (part.subset (List.mem_map_of_mem inside))
      simp [Namespace.has_insert, same] at unbound
    simp [apart]
  | @number ns _ own b numbers lost _ _ free given compared onward ih =>
    rcases List.mem_cons.mp inside with rfl | later
    · have bound : (ns.insert k.name b).get? k.name = some b := by simp [Namespace.get?_insert]
      rcases onward.kept bound (by simp [given]) with ⟨kept, same⟩ | ⟨lost, g, replaced⟩
      · refine ⟨b, same, ?_⟩
        rw [compared]
        cases k.comparable <;> simp [kept]
      · exact ⟨_, replaced, by simp [equals?_function, lost]⟩
    · exact ih later

end Counted

end Register

end CBindings
