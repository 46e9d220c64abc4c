import CBindings.Registry.Binding
import Mathlib.Logic.Basic

/-! A namespace through what its names stand for: binding, binding again and taking back. -/
namespace CBindings.Namespace

theorem get?_cons (entry : String × Binding) (ns : Namespace) (name : String) :
    get? (entry :: ns) name = if name = entry.1 then some entry.2 else get? ns name := by
  obtain ⟨key, b⟩ := entry
  by_cases same : name = key
  · simp [get?, same]
  · have apart : (name == key) = false := beq_eq_false_iff_ne.mpr same
    simp [get?, List.lookup_cons, apart, same]

theorem has_cons (entry : String × Binding) (ns : Namespace) (name : String) :
    has (entry :: ns) name = (decide (name = entry.1) || has ns name) := by
  rw [has, get?_cons]
  by_cases here : name = entry.1
  · simp [here]
  · simp [here, has]

theorem get?_replaced (ns : Namespace) (name : String) (b : Binding) (other : String) :
    get? (ns.map fun e => if e.1 == name then (name, b) else e) other =
      if other = name ∧ ns.has name = true then some b else ns.get? other := by
  induction ns with
  | nil => simp [get?, has]
  | cons entry rest ih =>
    rw [List.map_cons, get?_cons, get?_cons, ih, has_cons]
    by_cases here : name = entry.1
    · by_cases asked : other = name
      · simp [← here, asked]
      · simp [← here, asked]
    · have apart : entry.1 ≠ name := fun same => here same.symm
      by_cases asked : other = name
      · simp [asked, here, apart]
      · simp [asked, apart]

theorem get?_append (ns : Namespace) (name : String) (b : Binding) (other : String) :
    get? (ns ++ [(name, b)]) other = (ns.get? other).or (if other = name then some b else none) := by
  induction ns with
  | nil => exact get?_cons (name, b) [] other
  | cons entry rest ih =>
    rw [List.cons_append, get?_cons, get?_cons, ih]
    by_cases here : other = entry.1
    · simp [here]
    · simp [here]

theorem get?_insert (ns : Namespace) (name : String) (b : Binding) (other : String) :
    (ns.insert name b).get? other = if other = name then some b else ns.get? other := by
  unfold insert
  by_cases bound : ns.has name = true
  · rw [if_pos bound, get?_replaced]
    simp [bound]
  · rw [if_neg bound, get?_append]
    by_cases asked : other = name
    · have free : ns.get? name = none := by simpa [has] using bound
      simp [asked, free]
    · simp [asked]

theorem has_insert (ns : Namespace) (name : String) (b : Binding) (other : String) :
    (ns.insert name b).has other = (decide (other = name) || ns.has other) := by
  rw [has, get?_insert]
  by_cases same : other = name
  · simp [same]
  · simp [same, has]

theorem has_insert_self (ns : Namespace) (name : String) (b : Binding) : (ns.insert name b).has name = true := by
  rw [has_insert, decide_eq_true rfl, Bool.true_or]

theorem insert_of_free {ns : Namespace} {name : String} (free : ns.has name = false) (b : Binding) :
    ns.insert name b = ns ++ [(name, b)] := by
  simp [insert, free]

theorem has_iff {ns : Namespace} {name : String} : ns.has name = true ↔ name ∈ ns.map Prod.fst := by
  induction ns with
  | nil => simp [has, get?]
  | cons entry rest ih =>
    rw [has_cons, Bool.or_eq_true, decide_eq_true_eq, ih, List.map_cons, List.mem_cons]

theorem ne_of_free {ns : Namespace} {name : String} (free : ns.has name = false) :
    ∀ entry ∈ ns, entry.1 ≠ name := by
  rintro entry member rfl
  cases free.symm.trans (has_iff.mpr (List.mem_map_of_mem member))

theorem erase_insert {ns : Namespace} {name : String} (free : ns.has name = false) (b : Binding) :
    (ns.insert name b).erase name = ns := by
  rw [insert_of_free free, erase, List.filter_append]
  have others : ns.filter (·.1 != name) = ns :=
    List.filter_eq_self.mpr fun entry member => by simpa using ne_of_free free entry member
  simp [others]

/- Taking the entries of one name away does not matter to another one. -/
theorem lookup_filter_ne {β : Type} {name other : String} (apart : other ≠ name) (entries : List (String × β)) :
    (entries.filter (·.1 != name)).lookup other = entries.lookup other := by
  induction entries with
  | nil => rfl
  | cons entry rest ih =>
    obtain ⟨key, value⟩ := entry
    rw [List.filter_cons]
    by_cases same : key = name
    · have other_key : (other == key) = false := beq_eq_false_iff_ne.mpr (same ▸ apart)
      rw [if_neg (by simp [same]), ih, List.lookup_cons, other_key]
    · rw [if_pos (by simp [same]), List.lookup_cons, List.lookup_cons, ih]

theorem get?_erase {name other : String} (apart : other ≠ name) (ns : Namespace) :
    (ns.erase name).get? other = ns.get? other :=
  lookup_filter_ne apart ns

theorem places_of_bound {ns : Namespace} {name : String} (bound : ns.has name = true) (b : Binding) :
    (ns.insert name b).map Prod.fst = ns.map Prod.fst := by
  rw [insert, if_pos bound, List.map_map]
  refine List.map_congr_left fun entry _ => ?_
  by_cases here : entry.1 = name
  · simp [here]
  · simp [here]

/- Names keep their places: one that is bound again stays where it was, a new one comes last. -/
theorem places_insert (ns : Namespace) (name : String) (b : Binding) :
    ns.map Prod.fst <+: (ns.insert name b).map Prod.fst := by
  cases bound : ns.has name with
  | true =>
    simp [places_of_bound bound]
  | false =>
    rw [insert_of_free bound, List.map_append]
    exact List.prefix_append _ _

end CBindings.Namespace
