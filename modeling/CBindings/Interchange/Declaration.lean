import CBindings.Declaration
import CBindings.Interchange.Tree

/-! Types and declarations in the exchange format. -/
namespace CBindings.Tree

mutual
def ofType : TypeExpr → Tree
  | .named name qualifiers none =>
    .object [("t", .text "named"), ("name", .text name), ("quals", texts qualifiers), ("canon", .null)]
  | .named name qualifiers (some t) =>
    .object [("t", .text "named"), ("name", .text name), ("quals", texts qualifiers), ("canon", ofType t)]
  | .pointer t => .object [("t", .text "ptr"), ("to", ofType t)]
  | .array t size => .object [("t", .text "arr"), ("of", ofType t), ("size", orNull ofInteger size)]
  | .function result parameters variadic =>
    .object [("t", .text "fn"), ("ret", ofType result), ("params", .list (ofParameters parameters)),
      ("variadic", .bool variadic)]
  | .record ⟨name, none, isUnion, anonymous, location⟩ =>
    .object [("t", .text "struct"), ("name", .text name), ("fields", .null), ("union", .bool isUnion),
      ("anonymous", texts anonymous), ("loc", orNull ofLocation location)]
  | .record ⟨name, some fields, isUnion, anonymous, location⟩ =>
    .object [("t", .text "struct"), ("name", .text name), ("fields", .list (ofFields fields)),
      ("union", .bool isUnion), ("anonymous", texts anonymous), ("loc", orNull ofLocation location)]
  | .stray s => .object [("t", .text "raw"), ("value", .text s)]

def ofParameters : List (Parameter TypeExpr) → List Tree
  | [] => []
  | ⟨name, type⟩ :: rest => .list [orNull .text name, ofType type] :: ofParameters rest

def ofFields : List (Field TypeExpr) → List Tree
  | [] => []
  | ⟨name, type, width⟩ :: rest =>
    .object [("name", .text name), ("type", ofType type), ("bits", orNull ofInteger width)] :: ofFields rest
end

def ofDeclaration : Declaration → Tree
  | .constant c =>
    .object [("d", .text "constant"), ("name", .text c.name), ("value", ofValue c.value), ("kind", .text c.kind.text),
      ("macro", .bool c.isMacro), ("probed", .bool c.probed), ("loc", orNull ofLocation c.location)]
  | .record r =>
    .object [("d", .text "struct"), ("name", .text r.name), ("fields", orNull (fun fs => .list (ofFields fs)) r.fields),
      ("union", .bool r.isUnion), ("anonymous", texts r.anonymous), ("loc", orNull ofLocation r.location)]
  | .enumeration e =>
    let values := e.values.map fun v => Document.list [.text v.name, ofInteger v.value]
    .object [("d", .text "enum"), ("name", .text e.name), ("values", .list values), ("type", ofType e.underlying),
      ("loc", orNull ofLocation e.location)]
  | .function f =>
    .object [("d", .text "function"), ("name", .text f.name), ("ret", ofType f.result),
      ("params", .list (ofParameters f.parameters)), ("variadic", .bool f.variadic), ("lib", orNull .text f.library),
      ("loc", orNull ofLocation f.location)]
  | .alias a =>
    .object [("d", .text "typedef"), ("name", .text a.name), ("type", ofType a.target),
      ("loc", orNull ofLocation a.location)]
  | .variable v =>
    .object [("d", .text "variable"), ("name", .text v.name), ("type", ofType v.type), ("lib", orNull .text v.library),
      ("loc", orNull ofLocation v.location)]
  | .constructor n => .object [("d", .text "constructor"), ("name", .text n)]
  | .info m => .object [("d", .text "info"), ("message", .text m)]
  | .stray s => .object [("d", .text "raw"), ("value", .text s)]

def ofDeclarations (ds : List Declaration) : Tree := .list (ds.map ofDeclaration)

def parameters (type : Tree → Read TypeExpr) (d : Tree) : Read (List (Parameter TypeExpr)) :=
  d.withDefault [] (listOf fun p => do
    match ← p.asList with
    | [.null, t] => return ⟨none, ← type t⟩
    | [n, t] => return ⟨some (← n.asText), ← type t⟩
    | _ => .error (.unexpected "parameter")) "params"

/-- A record without the member `fields` has none; one whose fields are not known says null. -/
def recordOf (type : Tree → Read TypeExpr) (d : Tree) : Read Record := do
  let field (f : Tree) : Read (Field TypeExpr) := do
    return ⟨← f.required asText "name", ← f.required type "type", ← f.optional asInteger "bits"⟩
  let fields ← match d.entry? "fields" with
    | some .null => pure none
    | some fs => some <$> listOf field fs
    | none => pure (some [])
  return {
    name := ← d.required asText "name", fields, isUnion := ← d.withDefault false asFlag "union",
    anonymous := ← d.withDefault [] (listOf asText) "anonymous", location := ← d.optional asLocation "loc" }

/-- The fuel bounds the types inside types. -/
def typeFrom : Nat → Tree → Read TypeExpr
  | 0, _ => .error (.unexpected "type")
  | fuel + 1, d => do
    match ← d.required asText "t" with
    | "named" =>
      return .named (← d.required asText "name") (← d.withDefault [] (listOf asText) "quals")
        (← d.optional (typeFrom fuel) "canon")
    | "ptr" => return .pointer (← d.required (typeFrom fuel) "to")
    | "arr" => return .array (← d.required (typeFrom fuel) "of") (← d.optional asInteger "size")
    | "fn" =>
      return .function (← d.required (typeFrom fuel) "ret") (← d.parameters (typeFrom fuel))
        (← d.withDefault false asFlag "variadic")
    | "struct" => return .record (← d.recordOf (typeFrom fuel))
    | "raw" => return .stray (← d.required asText "value")
    | _ => .error (.unexpected "type")

def asType (d : Tree) : Read TypeExpr := typeFrom d.depth d

def kinds : List ConstantKind := [.integer, .float, .string, .char, .bool]

def asConstantKind (d : Tree) : Read ConstantKind := do
  let name ← d.asText
  match kinds.find? (·.text == name) with
  | some k => return k
  | none => .error (.unexpected "kind")

def asEnumerator (d : Tree) : Read Enumerator := do
  match ← d.asList with
  | [n, x] => return ⟨← n.asText, ← x.asInteger⟩
  | _ => .error (.unexpected "enumerator")

def asDeclaration (d : Tree) : Read Declaration := do
  let place ← d.optional asLocation "loc"
  match ← d.required asText "d" with
  | "constant" =>
    return .constant {
      name := ← d.required asText "name", value := ← d.required asValue "value",
      kind := ← d.withDefault .integer asConstantKind "kind", isMacro := ← d.withDefault true asFlag "macro",
      probed := ← d.withDefault false asFlag "probed", location := place }
  | "struct" => return .record (← d.recordOf asType)
  | "enum" =>
    return .enumeration {
      name := ← d.required asText "name", values := ← d.withDefault [] (listOf asEnumerator) "values",
      underlying := ← d.withDefault (.named "unsigned int" [] none) asType "type", location := place }
  | "function" =>
    return .function {
      name := ← d.required asText "name", result := ← d.required asType "ret", parameters := ← d.parameters asType,
      variadic := ← d.withDefault false asFlag "variadic", library := ← d.optional asText "lib", location := place }
  | "typedef" =>
    return .alias { name := ← d.required asText "name", target := ← d.required asType "type", location := place }
  | "variable" =>
    return .variable {
      name := ← d.required asText "name", type := ← d.required asType "type", library := ← d.optional asText "lib",
      location := place }
  | "constructor" => return .constructor (← d.required asText "name")
  | "info" => return .info (← d.required asText "message")
  | "raw" => return .stray (← d.required asText "value")
  | _ => .error (.unexpected "declaration")

end CBindings.Tree
