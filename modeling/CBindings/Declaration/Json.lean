import CBindings.Declaration
import CBindings.Document

/-! Declarations as documents: every field in its order, and the kind of declaration. -/
namespace CBindings

abbrev Shown := Document ShowFault

def ofInt (n : Int) : Shown := .integer n .tooManyDigits

def Binary64.document : Binary64 → Shown
  | .nan => .number "NaN"
  | .infinite s => .number (if s then "-Infinity" else "Infinity")
  | x => .number x.text

def JsonLines.document (j : JsonLines) : Shown :=
  .block j (.unserializable (match j with
    | .written _ => ""
    | .refused message => message))

def Value.document : Value → Shown
  | .none => .null
  | .bool b => .bool b
  | .int n => ofInt n
  | .float x => x.document
  | .text s => .text s
  | .points codes => (JsonLines.written [(0, Document.quotePoints codes)]).document
  | .bytes b => .bytes b .bytesInDocument
  | .tuple t => t.json.document

def optional {α : Type} (f : α → Shown) : Option α → Shown
  | none => .null
  | some a => f a

def texts (xs : List String) : Shown := .list (xs.map .text)

def Location.document (l : Location) : Shown :=
  .object [("file", .text l.file), ("line", ofInt l.line), ("column", optional ofInt l.column)]

mutual
def TypeExpr.document : TypeExpr → Shown
  | .named name qualifiers none =>
    .object [("name", .text name), ("qualifiers", texts qualifiers), ("canonical", .null)]
  | .named name qualifiers (some t) =>
    .object [("name", .text name), ("qualifiers", texts qualifiers), ("canonical", t.document)]
  | .pointer t => .object [("pointee", t.document)]
  | .array t size => .object [("element_type", t.document), ("size", optional ofInt size)]
  | .function result parameters variadic =>
    .object [("return_type", result.document), ("parameters", .list (parameterDocuments parameters)),
      ("is_variadic", .bool variadic)]
  | .record ⟨name, none, isUnion, anonymous, location⟩ =>
    .object [("name", .text name), ("fields", .null), ("is_union", .bool isUnion),
      ("anonymous", texts anonymous), ("location", optional Location.document location)]
  | .record ⟨name, some fields, isUnion, anonymous, location⟩ =>
    .object [("name", .text name), ("fields", .list (fieldDocuments fields)), ("is_union", .bool isUnion),
      ("anonymous", texts anonymous), ("location", optional Location.document location)]
  | .stray text => .text text

def parameterDocuments : List (Parameter TypeExpr) → List Shown
  | [] => []
  | ⟨name, type⟩ :: rest =>
    .object [("name", optional .text name), ("type", type.document)] :: parameterDocuments rest

def fieldDocuments : List (Field TypeExpr) → List Shown
  | [] => []
  | ⟨name, type, width⟩ :: rest =>
    .object [("name", .text name), ("type", type.document), ("bit_width", optional ofInt width)] ::
      fieldDocuments rest
end

def Declaration.document : Declaration → Shown
  | .constant c =>
    .object [("name", .text c.name), ("value", c.value.document), ("kind", .text "constant"),
      ("is_macro", .bool c.isMacro), ("probed", .bool c.probed),
      ("location", optional Location.document c.location)]
  | .record r =>
    .object [("name", .text r.name), ("fields", optional (fun fs => .list (fieldDocuments fs)) r.fields),
      ("is_union", .bool r.isUnion), ("anonymous", texts r.anonymous),
      ("location", optional Location.document r.location), ("kind", .text r.tag.text)]
  | .enumeration e =>
    let values := e.values.map fun v => Document.object [("name", .text v.name), ("value", ofInt v.value)]
    .object [("name", .text e.name), ("values", .list values), ("underlying_type", e.underlying.document),
      ("location", optional Location.document e.location), ("kind", .text "enum")]
  | .function f =>
    .object [("name", .text f.name), ("return_type", f.result.document),
      ("parameters", .list (parameterDocuments f.parameters)), ("is_variadic", .bool f.variadic),
      ("library", optional .text f.library), ("location", optional Location.document f.location),
      ("kind", .text "function")]
  | .alias a =>
    .object [("name", .text a.name), ("underlying_type", a.target.document),
      ("location", optional Location.document a.location), ("kind", .text "typedef")]
  | .variable v =>
    .object [("name", .text v.name), ("type", v.type.document), ("library", optional .text v.library),
      ("location", optional Location.document v.location), ("kind", .text "variable")]
  | .constructor n => .object [("type_name", .text n), ("kind", .text "constructor")]
  | .info m => .object [("message", .text m), ("kind", .text "info")]
  | .stray _ => .refused .unstructured

end CBindings
