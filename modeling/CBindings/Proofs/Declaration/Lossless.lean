import CBindings.Declaration.Json
import CBindings.Proofs.Document
import CBindings.Proofs.Number.Shortest
import CBindings.Proofs.TypeExpr

/-! What is lost when declarations become documents: of a constant its kind, and nothing else. The kinds of types are
told apart by their keys alone, and floating-point numbers by the shortest text that reads back. -/
namespace CBindings

section Leaves

open Document

variable {α : Type} {f : α → Shown}

/-- No other value has the document of this one. -/
abbrev Faithful (f : α → Shown) (a : α) : Prop := ∀ b, (f a).Same (f b) ↔ a = b

/- Values are told apart by whatever equal documents agree in. -/
theorem same_iff_of_ne {β : Type} {g : α → β} {a b : α} (told : (f a).Same (f b) → g a = g b) (differ : g a ≠ g b) :
    (f a).Same (f b) ↔ a = b := by
  refine iff_of_false (fun same => differ (told same)) ?_
  rintro rfl
  exact differ rfl

theorem same_iff_of_shape {a b : α} (differ : (f a).shape ≠ (f b).shape) : (f a).Same (f b) ↔ a = b :=
  same_iff_of_ne (g := fun a => (f a).shape) Same.shape differ

theorem faithful_optional {x : Option α} (inner : ∀ a, x = some a → Faithful f a)
    (given : ∀ a, (f a).shape ≠ .null) : Faithful (optional f) x := by
  intro y
  cases x with
  | none =>
    cases y with
    | none => exact iff_of_true .null rfl
    | some b => exact same_iff_of_shape (given b).symm
  | some a =>
    cases y with
    | none => exact same_iff_of_shape (given a)
    | some b => simpa [optional] using inner a rfl b

theorem forall₂_map_iff {xs ys : List α} (inner : ∀ x ∈ xs, Faithful f x) :
    List.Forall₂ Same (xs.map f) (ys.map f) ↔ xs = ys := by
  induction xs generalizing ys with
  | nil => cases ys <;> simp
  | cons x xs ih =>
    cases ys with
    | nil => simp
    | cons y ys =>
      have head := inner x List.mem_cons_self y
      have tail : List.Forall₂ Same (xs.map f) (ys.map f) ↔ xs = ys :=
        ih fun z inside => inner z (List.mem_cons_of_mem x inside)
      simp only [List.map_cons, List.forall₂_cons, head, tail, List.cons.injEq]

theorem faithful_list {xs : List α} (inner : ∀ x ∈ xs, Faithful f x) : Faithful (fun xs => .list (xs.map f)) xs :=
  fun _ => same_list_iff.trans (forall₂_map_iff inner)

theorem faithful_text (s : String) : Faithful .text s := fun _ => same_text_iff

theorem faithful_texts (xs : List String) : Faithful texts xs := faithful_list fun s _ => faithful_text s

theorem faithful_ofInt (n : Int) : Faithful ofInt n := by
  intro n'
  constructor
  · intro same
    have texts : toString n = toString n' := Option.some.inj same.numeral?
    have written : (Number.Written.ofInt n).text = (Number.Written.ofInt n').text := by
      rw [← Number.Written.toList_toString, ← Number.Written.toList_toString, texts]
    have parts := Number.Written.parts_of_text_eq written
    rw [← Number.Written.integer_ofInt n, ← Number.Written.integer_ofInt n', Number.Written.integer, parts.1, parts.2.1]
    rfl
  · rintro rfl
    exact .number rfl rfl

theorem faithful_number (x : Option Int) : Faithful (optional ofInt) x :=
  faithful_optional (fun n _ => faithful_ofInt n) (by simp [ofInt, shape])

theorem faithful_name (x : Option String) : Faithful (optional .text) x :=
  faithful_optional (fun s _ => faithful_text s) (by simp [shape])

theorem faithful_location (l : Location) : Faithful Location.document l := by
  intro l'
  rw [Location.document, Location.document]
  refine Iff.trans (same_object_iff rfl (by simp)) ?_
  obtain ⟨file, line, column⟩ := l
  obtain ⟨file', line', column'⟩ := l'
  simp [faithful_ofInt, faithful_number]

theorem faithful_place (x : Option Location) : Faithful (optional Location.document) x :=
  faithful_optional (fun l _ => faithful_location l) (by simp [Location.document, shape])

end Leaves

section Types

open Document

def Parameter.document (p : Parameter TypeExpr) : Shown :=
  .object [("name", optional .text p.name), ("type", p.type.document)]

def Field.document (f : Field TypeExpr) : Shown :=
  .object [("name", .text f.name), ("type", f.type.document), ("bit_width", optional ofInt f.width)]

theorem parameterDocuments_eq (ps : List (Parameter TypeExpr)) :
    parameterDocuments ps = ps.map Parameter.document := by
  induction ps with
  | nil => rfl
  | cons p ps ih => rw [parameterDocuments, ih, List.map_cons, Parameter.document]

theorem fieldDocuments_eq (fs : List (Field TypeExpr)) : fieldDocuments fs = fs.map Field.document := by
  induction fs with
  | nil => rfl
  | cons f fs ih => rw [fieldDocuments, ih, List.map_cons, Field.document]

def fieldList (fs : List (Field TypeExpr)) : Shown := .list (fs.map Field.document)

theorem document_named (name : String) (qualifiers : List String) (canonical : Option TypeExpr) :
    (TypeExpr.named name qualifiers canonical).document =
      .object [("name", .text name), ("qualifiers", texts qualifiers),
        ("canonical", optional TypeExpr.document canonical)] := by
  cases canonical <;> rfl

theorem document_function (result : TypeExpr) (parameters : List (Parameter TypeExpr)) (variadic : Bool) :
    (TypeExpr.function result parameters variadic).document =
      .object [("return_type", result.document), ("parameters", .list (parameters.map Parameter.document)),
        ("is_variadic", .bool variadic)] := by
  rw [TypeExpr.document, parameterDocuments_eq]

theorem document_record (body : Record) :
    (TypeExpr.record body).document =
      .object [("name", .text body.name), ("fields", optional fieldList body.fields),
        ("is_union", .bool body.isUnion), ("anonymous", texts body.anonymous),
        ("location", optional Location.document body.location)] := by
  obtain ⟨name, fields, isUnion, anonymous, location⟩ := body
  cases fields with
  | none => rfl
  | some fields => simp only [TypeExpr.document, optional, fieldList, fieldDocuments_eq]

theorem shape_document (t : TypeExpr) : t.document.shape ≠ .null := by
  cases t with
  | named name qualifiers canonical => simp [document_named, shape]
  | record body => simp [document_record, shape]
  | _ => simp [TypeExpr.document, shape]

theorem faithful_parameter {p : Parameter TypeExpr} (type : Faithful TypeExpr.document p.type) :
    Faithful Parameter.document p := by
  intro p'
  rw [Parameter.document, Parameter.document]
  refine Iff.trans (same_object_iff rfl (by simp)) ?_
  obtain ⟨name, type⟩ := p
  obtain ⟨name', type'⟩ := p'
  simp_all [faithful_name]

theorem faithful_field {f : Field TypeExpr} (type : Faithful TypeExpr.document f.type) :
    Faithful Field.document f := by
  intro f'
  rw [Field.document, Field.document]
  refine Iff.trans (same_object_iff rfl (by simp)) ?_
  obtain ⟨name, type, width⟩ := f
  obtain ⟨name', type', width'⟩ := f'
  simp_all [faithful_number]

theorem faithful_fields {fs : Option (List (Field TypeExpr))}
    (types : ∀ fields, fs = some fields → ∀ f ∈ fields, Faithful TypeExpr.document f.type) :
    Faithful (optional fieldList) fs :=
  faithful_optional (fun fields given => faithful_list fun f inside => faithful_field (types fields given f inside))
    (by simp [fieldList, shape])

/-- A key that only documents of types of this kind have. -/
def TypeExpr.ownKey : TypeExpr → Option String
  | .named _ _ _ => some "qualifiers"
  | .pointer _ => some "pointee"
  | .array _ _ => some "element_type"
  | .function _ _ _ => some "return_type"
  | .record _ => some "is_union"
  | .stray _ => none

theorem isSome_entry?_document (t u : TypeExpr) {key : String} (own : u.ownKey = some key) :
    (t.document.entry? key).isSome = (t.ownKey == some key) := by
  have keys : key ∈ ["qualifiers", "pointee", "element_type", "return_type", "is_union"] := by
    cases u <;> simp_all [TypeExpr.ownKey]
  simp only [List.mem_cons, List.not_mem_nil, or_false] at keys
  cases t with
  | named name qualifiers canonical =>
    rw [document_named]
    rcases keys with rfl | rfl | rfl | rfl | rfl <;> rfl
  | record body =>
    rw [document_record]
    rcases keys with rfl | rfl | rfl | rfl | rfl <;> rfl
  | _ => rcases keys with rfl | rfl | rfl | rfl | rfl <;> rfl

/- The keys of a document tell which kind of type it is of. -/
theorem ownKey_of_same {t t' : TypeExpr} (same : t.document.Same t'.document) : t.ownKey = t'.ownKey := by
  cases own : t.ownKey with
  | some key =>
    have both := same.isSome_entry? key
    rw [isSome_entry?_document t t own, isSome_entry?_document t' t own, own] at both
    have found : t'.ownKey = some key := by simpa using both
    exact found.symm
  | none =>
    cases own' : t'.ownKey with
    | none => rfl
    | some key =>
      have both := same.isSome_entry? key
      rw [isSome_entry?_document t t' own', isSome_entry?_document t' t' own', own, own'] at both
      simp at both

theorem faithful_type (t : TypeExpr) : Faithful TypeExpr.document t := by
  induction t using TypeExpr.induction with
  | named name qualifiers canonical ih =>
    intro t'
    cases t' with
    | named name' qualifiers' canonical' =>
      have inner := faithful_optional ih shape_document canonical'
      rw [document_named, document_named]
      refine Iff.trans (same_object_iff rfl (by simp)) ?_
      simp [faithful_texts, inner]
    | _ => exact same_iff_of_ne ownKey_of_same (by simp [TypeExpr.ownKey])
  | pointer pointee ih =>
    intro t'
    cases t' with
    | pointer pointee' =>
      refine Iff.trans (same_object_iff rfl (by simp)) ?_
      simp [ih]
    | _ => exact same_iff_of_ne ownKey_of_same (by simp [TypeExpr.ownKey])
  | array element size ih =>
    intro t'
    cases t' with
    | array element' size' =>
      refine Iff.trans (same_object_iff rfl (by simp)) ?_
      simp [ih, faithful_number]
    | _ => exact same_iff_of_ne ownKey_of_same (by simp [TypeExpr.ownKey])
  | function result parameters variadic ih ihs =>
    intro t'
    cases t' with
    | function result' parameters' variadic' =>
      have inner := faithful_list (fun p inside => faithful_parameter (ihs p inside)) parameters'
      rw [document_function, document_function]
      refine Iff.trans (same_object_iff rfl (by simp)) ?_
      simp [ih, inner]
    | _ => exact same_iff_of_ne ownKey_of_same (by simp [TypeExpr.ownKey])
  | record body ih =>
    intro t'
    cases t' with
    | record body' =>
      have inner := faithful_fields ih body'.fields
      rw [document_record, document_record]
      refine Iff.trans (same_object_iff rfl (by simp)) ?_
      obtain ⟨name, fields, isUnion, anonymous, location⟩ := body
      obtain ⟨name', fields', isUnion', anonymous', location'⟩ := body'
      simp [faithful_texts, faithful_place, inner]
    | _ => exact same_iff_of_ne ownKey_of_same (by simp [TypeExpr.ownKey])
  | stray text =>
    intro t'
    cases t' with
    | stray text' => simp [TypeExpr.document]
    | _ => exact same_iff_of_ne ownKey_of_same (by simp [TypeExpr.ownKey])

theorem faithful_parameters (ps : List (Parameter TypeExpr)) :
    Faithful (fun ps => .list (parameterDocuments ps)) ps := by
  simp only [parameterDocuments_eq]
  exact faithful_list fun p _ => faithful_parameter (faithful_type p.type)

theorem faithful_members (fs : Option (List (Field TypeExpr))) :
    Faithful (optional fun fields => .list (fieldDocuments fields)) fs := by
  simp only [fieldDocuments_eq]
  exact faithful_fields fun _ _ f _ => faithful_type f.type

def Enumerator.document (v : Enumerator) : Shown := .object [("name", .text v.name), ("value", ofInt v.value)]

theorem faithful_enumerator (v : Enumerator) : Faithful Enumerator.document v := by
  intro v'
  refine Iff.trans (same_object_iff rfl (by simp)) ?_
  obtain ⟨name, value⟩ := v
  obtain ⟨name', value'⟩ := v'
  simp [faithful_ofInt]

def enumeratorList (vs : List Enumerator) : Shown := .list (vs.map Enumerator.document)

theorem faithful_enumerators (vs : List Enumerator) : Faithful enumeratorList vs :=
  faithful_list fun v _ => faithful_enumerator v

end Types

section Values

open Document

/-- A scalar. A floating-point number is one that the format has, and a text is made of characters. -/
def Value.Canonical : Value → Prop
  | .float x => x.Canonical
  | .points _ | .tuple _ => False
  | _ => True

/- A floating-point number is never written like an integer, and reads back. -/
theorem Binary64.document_reads {x : Binary64} (canonical : x.Canonical) :
    ∃ t, x.document = .number t ∧ Number.readDecimal t.toList = some x ∧ ∀ n : Int, t ≠ toString n := by
  have lettered {t : String} (c : Char) (inside : c ∈ t.toList)
      (letter : ¬ (c.isDigit = true ∨ c ∈ ['-', '+', '.', 'e'])) (n : Int) : t ≠ toString n := by
    rintro rfl
    rw [Number.Written.toList_toString] at inside
    exact letter (Number.Written.mem_text _ inside)
  cases x with
  | nan => exact ⟨_, rfl, by decide, lettered 'N' (by decide) (by decide)⟩
  | infinite negative =>
    cases negative with
    | false => exact ⟨_, rfl, by decide, lettered 'I' (by decide) (by decide)⟩
    | true => exact ⟨_, rfl, by decide, lettered 'I' (by decide) (by decide)⟩
  | finite negative m e =>
    obtain ⟨w, notWhole, written, reads⟩ := text_written canonical negative
    refine ⟨_, rfl, written ▸ reads, ?_⟩
    intro n same
    rw [same, Number.Written.toList_toString] at written
    have tails := (Number.Written.parts_of_text_eq written).2.2
    have whole := ((Number.Written.ofInt n).tail_eq_nil_iff).mpr rfl
    rw [tails, w.tail_eq_nil_iff, notWhole] at whole
    cases whole

def Value.shape : Value → Shape
  | .none => .null
  | .bool _ => .bool
  | .int _ => .number
  | .float _ => .number
  | .text _ => .text
  | .bytes _ => .bytes
  | .points _ | .tuple _ => .block

theorem shape_value (v : Value) : v.document.shape = v.shape := by
  cases v with
  | float x => cases x <;> rfl
  | _ => rfl

theorem same_value_iff {v v' : Value} (canonical : v.Canonical) (canonical' : v'.Canonical) :
    v.document.Same v'.document ↔ v = v' := by
  cases v with
  | none =>
    cases v' with
    | none => exact iff_of_true .null rfl
    | _ => exact same_iff_of_shape (by simp [shape_value, Value.shape])
  | bool b =>
    cases v' with
    | bool b' => simp [Value.document]
    | _ => exact same_iff_of_shape (by simp [shape_value, Value.shape])
  | int n =>
    cases v' with
    | int n' => simpa [Value.document] using faithful_ofInt n n'
    | float x' =>
      obtain ⟨t, document, -, other⟩ := Binary64.document_reads canonical'
      refine iff_of_false (fun same => ?_) (by simp)
      rw [Value.document, Value.document, document] at same
      exact other n (Option.some.inj same.numeral?).symm
    | _ => exact same_iff_of_shape (by simp [shape_value, Value.shape])
  | float x =>
    obtain ⟨t, document, reads, other⟩ := Binary64.document_reads canonical
    cases v' with
    | int n' =>
      refine iff_of_false (fun same => ?_) (by simp)
      rw [Value.document, Value.document, document] at same
      exact other n' (Option.some.inj same.numeral?)
    | float x' =>
      obtain ⟨t', document', reads', -⟩ := Binary64.document_reads canonical'
      constructor
      · intro same
        rw [Value.document, Value.document, document, document'] at same
        have texts : t = t' := Option.some.inj same.numeral?
        rw [texts, reads'] at reads
        rw [Option.some.inj reads]
      · rintro ⟨⟩
        rw [Value.document, document]
        exact .number rfl rfl
    | _ => exact same_iff_of_shape (by simp [shape_value, Value.shape])
  | text s =>
    cases v' with
    | text s' => simp [Value.document]
    | _ => exact same_iff_of_shape (by simp [shape_value, Value.shape])
  | bytes b =>
    cases v' with
    | bytes b' => simp [Value.document]
    | _ => exact same_iff_of_shape (by simp [shape_value, Value.shape])
  | points _ | tuple _ => exact canonical.elim

end Values

namespace Declaration

open Document

variable {d d' : Declaration}

/-- The declaration with the kind of a constant left open. -/
def withoutKind : Declaration → Declaration
  | .constant c => .constant { c with kind := .integer }
  | d => d

def Canonical : Declaration → Prop
  | .constant c => c.value.Canonical
  | _ => True

/-- Which declaration it is: records of both tags are one. -/
def variant : Declaration → Option String
  | .record _ => some "record"
  | d => d.kind.toOption

theorem entry?_kind (d : Declaration) : d.document.entry? "kind" = d.kind.toOption.map .text := by
  cases d <;> rfl

theorem isSome_entry?_isUnion (d : Declaration) :
    (d.document.entry? "is_union").isSome = (d.variant == some "record") := by
  cases d <;> rfl

theorem kind_of_same (same : d.document.Same d'.document) : d.kind.toOption = d'.kind.toOption := by
  have both := same.entry? "kind"
  rw [entry?_kind, entry?_kind] at both
  cases left : d.kind.toOption with
  | none =>
    cases right : d'.kind.toOption with
    | none => rfl
    | some kind' => simp [left, right] at both
  | some kind =>
    cases right : d'.kind.toOption with
    | none => simp [left, right] at both
    | some kind' => simpa [left, right] using both

theorem variant_of_same (same : d.document.Same d'.document) : d.variant = d'.variant := by
  have kinds := kind_of_same same
  have unions := same.isSome_entry? "is_union"
  rw [isSome_entry?_isUnion, isSome_entry?_isUnion] at unions
  cases d with
  | record r =>
    have found : d'.variant = some "record" := by simpa [variant] using unions
    exact found.symm
  | _ =>
    cases d' with
    | record r' => cases unions
    | _ => exact kinds

theorem variant_withoutKind (d : Declaration) : d.withoutKind.variant = d.variant := by
  cases d <;> rfl

theorem same_iff_of_variant {p : Prop} (differ : d.variant ≠ d'.variant) :
    d.document.Same d'.document ↔ p ∧ d.withoutKind = d'.withoutKind := by
  refine iff_of_false (fun same => differ (variant_of_same same)) ?_
  rintro ⟨-, same⟩
  rw [← variant_withoutKind d, same, variant_withoutKind] at differ
  exact differ rfl

theorem same_constant_iff {c c' : Constant} (canonical : c.value.Canonical) (canonical' : c'.value.Canonical) :
    (Declaration.constant c).document.Same (Declaration.constant c').document ↔
      { c with kind := .integer } = { c' with kind := .integer } := by
  have values := same_value_iff canonical canonical'
  refine Iff.trans (same_object_iff rfl (by simp)) ?_
  simp [values, faithful_place]

theorem same_record_iff (r r' : Record) :
    (Declaration.record r).document.Same (Declaration.record r').document ↔ r = r' := by
  refine Iff.trans (same_object_iff rfl (by simp)) ?_
  obtain ⟨name, fields, isUnion, anonymous, location⟩ := r
  obtain ⟨name', fields', isUnion', anonymous', location'⟩ := r'
  simp only [List.map_cons, List.map_nil, List.forall₂_cons, same_text_iff, same_bool_iff, faithful_members,
    faithful_texts, faithful_place, List.Forall₂.nil, and_true, RecordOf.tag, RecordOf.mk.injEq]
  -- the tag that is the kind says no more than whether it is a union
  constructor
  · rintro ⟨name, fields, union, anonymous, location, -⟩
    exact ⟨name, fields, union, anonymous, location⟩
  · rintro ⟨name, fields, rfl, anonymous, location⟩
    exact ⟨name, fields, rfl, anonymous, location, rfl⟩

theorem document_enumeration (e : Enumeration) :
    (Declaration.enumeration e).document =
      .object [("name", .text e.name), ("values", enumeratorList e.values), ("underlying_type", e.underlying.document),
        ("location", optional Location.document e.location), ("kind", .text "enum")] := rfl

theorem same_enumeration_iff (e e' : Enumeration) :
    (Declaration.enumeration e).document.Same (Declaration.enumeration e').document ↔ e = e' := by
  have values := faithful_enumerators e.values e'.values
  rw [document_enumeration, document_enumeration]
  refine Iff.trans (same_object_iff rfl (by simp)) ?_
  obtain ⟨name, values, underlying, location⟩ := e
  obtain ⟨name', values', underlying', location'⟩ := e'
  simp [values, faithful_type, faithful_place]

theorem same_function_iff (f f' : Function) :
    (Declaration.function f).document.Same (Declaration.function f').document ↔ f = f' := by
  have parameters := faithful_parameters f.parameters f'.parameters
  refine Iff.trans (same_object_iff rfl (by simp)) ?_
  obtain ⟨name, result, parameters, variadic, library, location⟩ := f
  obtain ⟨name', result', parameters', variadic', library', location'⟩ := f'
  simp [parameters, faithful_type, faithful_name, faithful_place]

theorem same_alias_iff (a a' : Alias) :
    (Declaration.alias a).document.Same (Declaration.alias a').document ↔ a = a' := by
  refine Iff.trans (same_object_iff rfl (by simp)) ?_
  obtain ⟨name, target, location⟩ := a
  obtain ⟨name', target', location'⟩ := a'
  simp [faithful_type, faithful_place]

theorem same_variable_iff (v v' : Variable) :
    (Declaration.variable v).document.Same (Declaration.variable v').document ↔ v = v' := by
  refine Iff.trans (same_object_iff rfl (by simp)) ?_
  obtain ⟨name, type, library, location⟩ := v
  obtain ⟨name', type', library', location'⟩ := v'
  simp [faithful_type, faithful_name, faithful_place]

theorem same_constructor_iff (n n' : String) :
    (Declaration.constructor n).document.Same (Declaration.constructor n').document ↔ n = n' := by
  refine Iff.trans (same_object_iff rfl (by simp)) ?_
  simp

theorem same_info_iff (m m' : String) :
    (Declaration.info m).document.Same (Declaration.info m').document ↔ m = m' := by
  refine Iff.trans (same_object_iff rfl (by simp)) ?_
  simp

/-- A constant such as `#define STEP 0.1` gives, with any kind. -/
def stepConstant (value : Binary64) (kind : ConstantKind) : Declaration :=
  .constant { name := "STEP", value := .float value, kind }

end Declaration

end CBindings
