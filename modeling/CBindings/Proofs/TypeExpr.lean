import CBindings.TypeExpr

/-! Induction over C types: through what an alias stands for, parameters, and the members of nested records. -/
namespace CBindings.TypeExpr

variable {motive : TypeExpr → Prop}

theorem sizeOf_parameter {p : Parameter TypeExpr} {ps : List (Parameter TypeExpr)} (inside : p ∈ ps) :
    sizeOf p.type < sizeOf ps := by
  have smaller := List.sizeOf_lt_of_mem inside
  obtain ⟨name, type⟩ := p
  simp only [Parameter.mk.sizeOf_spec] at smaller ⊢
  omega

theorem sizeOf_member {f : Field TypeExpr} {fs : List (Field TypeExpr)} (inside : f ∈ fs) :
    sizeOf f.type < sizeOf fs := by
  have smaller := List.sizeOf_lt_of_mem inside
  obtain ⟨name, type, width⟩ := f
  simp only [Field.mk.sizeOf_spec] at smaller ⊢
  omega

theorem induction
    (named : ∀ name quals canonical, (∀ t, canonical = some t → motive t) → motive (.named name quals canonical))
    (pointer : ∀ pointee, motive pointee → motive (.pointer pointee))
    (array : ∀ element size, motive element → motive (.array element size))
    (function : ∀ result parameters variadic, motive result → (∀ p ∈ parameters, motive p.type) →
      motive (.function result parameters variadic))
    (record : ∀ body : Record, (∀ fields, body.fields = some fields → ∀ f ∈ fields, motive f.type) →
      motive (.record body))
    (stray : ∀ text, motive (.stray text)) (t : TypeExpr) : motive t := by
  have again : ∀ u, sizeOf u < sizeOf t → motive u := fun u _ =>
    induction named pointer array function record stray u
  cases t with
  | named name quals canonical =>
    refine named name quals canonical fun u same => again u ?_
    subst same
    simp only [TypeExpr.named.sizeOf_spec, Option.some.sizeOf_spec]
    omega
  | pointer pointee =>
    refine pointer pointee (again pointee ?_)
    simp only [TypeExpr.pointer.sizeOf_spec]
    omega
  | array element size =>
    refine array element size (again element ?_)
    simp only [TypeExpr.array.sizeOf_spec]
    omega
  | function result parameters variadic =>
    refine function result parameters variadic (again result ?_) fun p inside => again p.type ?_
    · simp only [TypeExpr.function.sizeOf_spec]
      omega
    · have smaller := sizeOf_parameter inside
      simp only [TypeExpr.function.sizeOf_spec]
      omega
  | record body =>
    refine record body fun fields given f inside => again f.type ?_
    have smaller := sizeOf_member inside
    obtain ⟨name, fields', isUnion, anonymous, location⟩ := body
    subst given
    simp only [TypeExpr.record.sizeOf_spec, RecordOf.mk.sizeOf_spec, Option.some.sizeOf_spec]
    omega
  | stray text => exact stray text
termination_by sizeOf t

/-- `Mentions t u`: the type `u` is `t`, or stands somewhere in it. -/
inductive Mentions : TypeExpr → TypeExpr → Prop
  | here {t : TypeExpr} : Mentions t t
  | canonical {name quals} {t u : TypeExpr} (inner : Mentions t u) : Mentions (.named name quals (some t)) u
  | pointee {t u : TypeExpr} (inner : Mentions t u) : Mentions (.pointer t) u
  | element {size} {t u : TypeExpr} (inner : Mentions t u) : Mentions (.array t size) u
  | result {parameters variadic} {t u : TypeExpr} (inner : Mentions t u) :
    Mentions (.function t parameters variadic) u
  | parameter {result parameters variadic} {p : Parameter TypeExpr} {u : TypeExpr} (inside : p ∈ parameters)
    (inner : Mentions p.type u) : Mentions (.function result parameters variadic) u
  | member {body : Record} {fields} {f : Field TypeExpr} {u : TypeExpr} (given : body.fields = some fields)
    (inside : f ∈ fields) (inner : Mentions f.type u) : Mentions (.record body) u

section Mentions

variable {u : TypeExpr}

@[simp] theorem mentions_named (name : String) (quals : List String) (canonical : Option TypeExpr) :
    Mentions (.named name quals canonical) u ↔
      u = .named name quals canonical ∨ ∃ t, canonical = some t ∧ Mentions t u := by
  constructor
  · intro mentioned
    cases mentioned with
    | here => exact .inl rfl
    | canonical inner => exact .inr ⟨_, rfl, inner⟩
  · rintro (rfl | ⟨t, rfl, inner⟩)
    · exact .here
    · exact .canonical inner

@[simp] theorem mentions_pointer (t : TypeExpr) : Mentions (.pointer t) u ↔ u = .pointer t ∨ Mentions t u := by
  constructor
  · intro mentioned
    cases mentioned with
    | here => exact .inl rfl
    | pointee inner => exact .inr inner
  · rintro (rfl | inner)
    · exact .here
    · exact .pointee inner

@[simp] theorem mentions_array (t : TypeExpr) (size : Option Int) :
    Mentions (.array t size) u ↔ u = .array t size ∨ Mentions t u := by
  constructor
  · intro mentioned
    cases mentioned with
    | here => exact .inl rfl
    | element inner => exact .inr inner
  · rintro (rfl | inner)
    · exact .here
    · exact .element inner

@[simp] theorem mentions_function (t : TypeExpr) (parameters : List (Parameter TypeExpr)) (variadic : Bool) :
    Mentions (.function t parameters variadic) u ↔
      u = .function t parameters variadic ∨ Mentions t u ∨ ∃ p ∈ parameters, Mentions p.type u := by
  constructor
  · intro mentioned
    cases mentioned with
    | here => exact .inl rfl
    | result inner => exact .inr (.inl inner)
    | parameter inside inner => exact .inr (.inr ⟨_, inside, inner⟩)
  · rintro (rfl | inner | ⟨p, inside, inner⟩)
    · exact .here
    · exact .result inner
    · exact .parameter inside inner

end Mentions

theorem Mentions.trans {t u v : TypeExpr} (first : Mentions t u) (second : Mentions u v) : Mentions t v := by
  induction first with
  | here => exact second
  | canonical _ ih => exact .canonical (ih second)
  | pointee _ ih => exact .pointee (ih second)
  | element _ ih => exact .element (ih second)
  | result _ ih => exact .result (ih second)
  | parameter inside _ ih => exact .parameter inside (ih second)
  | member given inside _ ih => exact .member given inside (ih second)

end CBindings.TypeExpr
