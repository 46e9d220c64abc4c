import CBindings.Location
import CBindings.Text.Basic

/-! A parsed header: cursors for what is written in it, the types they mention, and diagnostics. Cursors and
types refer to each other by index, since records refer to themselves through pointers. -/
namespace CBindings

inductive CursorKind where
  | record (isUnion : Bool)
  | enumeration
  | enumerator
  | field
  | function
  | alias
  | variable
  | macroDefinition
  | other
deriving DecidableEq, Repr

inductive Builtin where
  | void
  | bool
  | char
  | signedChar
  | unsignedChar
  | short
  | unsignedShort
  | int
  | unsignedInt
  | long
  | unsignedLong
  | longLong
  | unsignedLongLong
  | int128
  | unsignedInt128
  | float
  | double
  | longDouble
  | wideChar
  | char16
  | char32
deriving DecidableEq, Repr

def Builtin.text : Builtin → String
  | .void => "void"
  | .bool => "bool"
  | .char => "char"
  | .signedChar => "signed char"
  | .unsignedChar => "unsigned char"
  | .short => "short"
  | .unsignedShort => "unsigned short"
  | .int => "int"
  | .unsignedInt => "unsigned int"
  | .long => "long"
  | .unsignedLong => "unsigned long"
  | .longLong => "long long"
  | .unsignedLongLong => "unsigned long long"
  | .int128 => "__int128"
  | .unsignedInt128 => "unsigned __int128"
  | .float => "float"
  | .double => "double"
  | .longDouble => "long double"
  | .wideChar => "wchar_t"
  | .char16 => "char16_t"
  | .char32 => "char32_t"

/-- Kinds of types; `other` is one that is only known through its canonical type. -/
inductive TypeKind where
  | invalid
  | builtin (b : Builtin)
  | pointer
  | constantArray
  | incompleteArray
  | function (prototyped : Bool)
  | elaborated
  | record
  | enumeration
  | alias
  | other (name : String)
deriving DecidableEq, Repr

/-- A token with the offsets where it starts and ends. -/
structure SourceToken where
  text : String
  first : Int
  last : Int
deriving DecidableEq, Repr

abbrev CursorRef := Option Nat

abbrev TypeRef := Option Nat

/-- Without a location a cursor is in no file. -/
structure Cursor where
  kind : CursorKind := .other
  name : String := ""
  location : Option Location := none
  children : List Nat := []
  isDefinition : Bool := false
  definition : CursorRef := none
  type : TypeRef := none
  integerType : TypeRef := none
  result : TypeRef := none
  underlying : TypeRef := none
  arguments : List Nat := []
  width : Option Int := none
  value : Int := 0
  isStatic : Bool := false
  tokens : List SourceToken := []
deriving DecidableEq, Repr

/-- A type without `canonical` is canonical itself. -/
structure CursorType where
  kind : TypeKind := .invalid
  spelling : String := ""
  isConst : Bool := false
  canonical : TypeRef := none
  pointee : TypeRef := none
  element : TypeRef := none
  named : TypeRef := none
  result : TypeRef := none
  count : Int := -1
  declaration : CursorRef := none
  parameters : List Nat := []
  variadic : Bool := false
deriving DecidableEq, Repr

structure Diagnostic where
  severity : Int
  message : String
  location : Option Location
deriving DecidableEq, Repr

structure HeaderUnit where
  cursors : List Cursor := []
  types : List CursorType := []
  top : List Nat := []
  diagnostics : List Diagnostic := []
deriving DecidableEq, Repr

namespace HeaderUnit

/-- A reference that leads nowhere leads to a cursor without name, kind and content. -/
def cursor (u : HeaderUnit) (r : CursorRef) : Cursor := (r.bind (u.cursors[·]?)).getD {}

def type (u : HeaderUnit) (r : TypeRef) : CursorType := (r.bind (u.types[·]?)).getD {}

def canonicalRef (u : HeaderUnit) (r : TypeRef) : TypeRef := (u.type r).canonical.or r

/-- More than the number of steps from reference to reference that can be made without coming back. -/
def depth (u : HeaderUnit) : Nat := u.cursors.length + u.types.length + 2

def errors (u : HeaderUnit) : List Diagnostic := u.diagnostics.filter (·.severity ≥ 3)

end HeaderUnit

namespace Cursor

def isRecord (c : Cursor) : Bool :=
  match c.kind with
  | .record _ => true
  | _ => false

/-- Names that the parser makes up for a record or enumeration without one. -/
def isUnnamed (c : Cursor) : Bool :=
  c.name.isEmpty || Text.occursIn "(unnamed".toList c.name.toList
    || Text.occursIn "(anonymous".toList c.name.toList

def isUnion (c : Cursor) : Bool := c.kind == .record true

/-- A macro takes arguments if a parenthesis touches its name. -/
def takesArguments (c : Cursor) : Bool :=
  match c.tokens with
  | name :: next :: _ => next.text == "(" && next.first == name.last
  | _ => false

end Cursor

end CBindings
