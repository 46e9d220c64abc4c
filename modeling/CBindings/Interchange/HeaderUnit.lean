import CBindings.HeaderUnit.Basic
import CBindings.Interchange.Tree

/-! Parsed headers in the exchange format. Kinds of cursors and types have the names that C parsers give them. -/
namespace CBindings

def CursorKind.ofName : String → CursorKind
  | "STRUCT_DECL" => .record false
  | "UNION_DECL" => .record true
  | "ENUM_DECL" => .enumeration
  | "ENUM_CONSTANT_DECL" => .enumerator
  | "FIELD_DECL" => .field
  | "FUNCTION_DECL" => .function
  | "TYPEDEF_DECL" => .alias
  | "VAR_DECL" => .variable
  | "MACRO_DEFINITION" => .macroDefinition
  | _ => .other

def Builtin.names : List (String × Builtin) :=
  [("VOID", .void), ("BOOL", .bool), ("CHAR_U", .char), ("CHAR_S", .char), ("SCHAR", .signedChar),
   ("UCHAR", .unsignedChar), ("SHORT", .short), ("USHORT", .unsignedShort), ("INT", .int), ("UINT", .unsignedInt),
   ("LONG", .long), ("ULONG", .unsignedLong), ("LONGLONG", .longLong), ("ULONGLONG", .unsignedLongLong),
   ("INT128", .int128), ("UINT128", .unsignedInt128), ("FLOAT", .float), ("DOUBLE", .double),
   ("LONGDOUBLE", .longDouble), ("WCHAR", .wideChar), ("CHAR16", .char16), ("CHAR32", .char32)]

def TypeKind.ofName (name : String) : TypeKind :=
  match Builtin.names.lookup name with
  | some b => .builtin b
  | none =>
    match name with
    | "INVALID" => .invalid
    | "POINTER" => .pointer
    | "CONSTANTARRAY" => .constantArray
    | "INCOMPLETEARRAY" => .incompleteArray
    | "FUNCTIONPROTO" => .function true
    | "FUNCTIONNOPROTO" => .function false
    | "ELABORATED" => .elaborated
    | "RECORD" => .record
    | "ENUM" => .enumeration
    | "TYPEDEF" => .alias
    | name => .other name

namespace Tree

def asToken (d : Tree) : Read SourceToken := do
  match ← d.asList with
  | [text, first, last] => return ⟨← text.asText, ← first.asInteger, ← last.asInteger⟩
  | _ => .error (.unexpected "token")

def references (d : Tree) (key : String) : Read (List Nat) := d.withDefault [] (listOf asNatural) key

def asCursor (d : Tree) : Read Cursor := do
  return {
    kind := .ofName (← d.withDefault "" asText "kind"), name := ← d.withDefault "" asText "name",
    location := ← d.optional asLocation "loc", children := ← d.references "children",
    isDefinition := ← d.withDefault false asFlag "is_def", definition := ← d.optional asNatural "def",
    type := ← d.optional asNatural "type", integerType := ← d.optional asNatural "enum_type",
    result := ← d.optional asNatural "result", underlying := ← d.optional asNatural "underlying",
    arguments := ← d.references "args", width := ← d.optional asInteger "bits",
    value := ← d.withDefault 0 asInteger "value", isStatic := (← d.withDefault "NONE" asText "storage") == "STATIC",
    tokens := ← d.withDefault [] (listOf asToken) "tokens" }

def asCursorType (d : Tree) : Read CursorType := do
  return {
    kind := .ofName (← d.withDefault "INVALID" asText "kind"), spelling := ← d.withDefault "" asText "spelling",
    isConst := ← d.withDefault false asFlag "const", canonical := ← d.optional asNatural "canon",
    pointee := ← d.optional asNatural "pointee", element := ← d.optional asNatural "elem",
    named := ← d.optional asNatural "named", result := ← d.optional asNatural "ret",
    count := ← d.withDefault (-1) asInteger "count", declaration := ← d.optional asNatural "decl",
    parameters := ← d.references "args", variadic := ← d.withDefault false asFlag "variadic" }

def asDiagnostic (d : Tree) : Read Diagnostic := do
  match ← d.asList with
  | [severity, message] => return ⟨← severity.asInteger, ← message.asText, none⟩
  | [severity, message, .null] => return ⟨← severity.asInteger, ← message.asText, none⟩
  | [severity, message, place] => return ⟨← severity.asInteger, ← message.asText, some (← place.asLocation)⟩
  | _ => .error (.unexpected "diagnostic")

def asUnit (d : Tree) : Read HeaderUnit := do
  return {
    cursors := ← d.withDefault [] (listOf asCursor) "cursors", types := ← d.withDefault [] (listOf asCursorType) "types",
    top := ← d.references "top", diagnostics := ← d.withDefault [] (listOf asDiagnostic) "diags" }

end Tree

end CBindings
