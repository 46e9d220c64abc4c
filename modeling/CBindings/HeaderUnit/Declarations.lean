import CBindings.Declaration
import CBindings.HeaderUnit.Basic

/-! Declarations that the cursors of a parsed header stand for. -/
namespace CBindings.HeaderUnit

inductive Fault where
  | unsupportedType (spelling : String)
  | enumerationType (spelling : String)
  /-- References come back to where they started. -/
  | endless
deriving DecidableEq, Repr

def Fault.message : Fault → String
  | .unsupportedType spelling => "unsupported type " ++ Text.quote spelling
  | .enumerationType spelling => "unexpected enum type " ++ spelling
  | .endless => "maximum recursion depth exceeded"

/-- The declaration behind a type, through pointers and arrays. -/
def declaredThrough (u : HeaderUnit) : Nat → TypeRef → CursorRef
  | 0, _ => none
  | fuel + 1, r =>
    match (u.type r).kind with
    | .pointer => declaredThrough u fuel (u.type r).pointee
    | .constantArray | .incompleteArray => declaredThrough u fuel (u.type r).element
    | _ => (u.type r).declaration

def declaredRecord (u : HeaderUnit) (r : TypeRef) : CursorRef := u.declaredThrough u.depth (u.canonicalRef r)

def qualifiers (t : CursorType) : List String := if t.isConst then ["const"] else []

/-- What is known of a record half way through its cursors; `nested` are records with a tag that were
defined inside, which C moves in front of it. -/
structure Members where
  nested : List Declaration := []
  fields : List (Field TypeExpr) := []
  anonymous : List String := []

def Members.record (m : Members) (c : Cursor) (name : String) : Record where
  name := name
  fields := some m.fields
  isUnion := c.isUnion
  anonymous := m.anonymous
  location := c.location

/-- The type of a function, with the types it mentions read by `convert`. -/
def functionType (u : HeaderUnit) (convert : TypeRef → Except Fault TypeExpr) (r : TypeRef) :
    Except Fault TypeExpr := do
  let t := u.type r
  let prototyped := t.kind = .function true
  let parameters ← (if prototyped then t.parameters else []).mapM fun p => do
    return Parameter.mk none (← convert (some p))
  let result ← convert t.result
  return .function result parameters (prototyped && t.variadic)

def isNamedField (c : Cursor) : Bool := c.kind == .field && c.name != ""

/-- The records that members with a name have as their types. -/
def memberRecords (u : HeaderUnit) (r : CursorRef) : List CursorRef :=
  ((u.cursor r).children.filter fun i => isNamedField (u.cursor (some i))).map fun i =>
    u.declaredRecord (u.cursor (some i)).type

/-- One more cursor of the record at `r`, which goes by `name`. A nested record without a name is a member
without a name, unless a member with a name has it as its type. -/
def addMember (u : HeaderUnit) (convert : TypeRef → String → Except Fault TypeExpr)
    (inside : CursorRef → String → Except Fault Members) (r : CursorRef) (name : String) (m : Members)
    (i : Nat) : Except Fault Members := do
  let child := u.cursor (some i)
  if child.isRecord && child.isDefinition then
    if !child.isUnnamed then
      let inner ← inside (some i) child.name
      return { m with nested := m.nested ++ inner.nested ++ [.record (inner.record child child.name)] }
    else if (u.memberRecords r).contains (some i) then return m
    else
      let member := "_anon" ++ m.anonymous.length.repr
      let whole := name ++ "_" ++ member
      let inner ← inside (some i) whole
      return { nested := m.nested ++ inner.nested
               fields := m.fields ++ [⟨member, .record (inner.record child whole), none⟩]
               anonymous := m.anonymous ++ [member] }
  else if isNamedField child then
    let type ← convert child.type (name ++ "_" ++ child.name)
    return { m with fields := m.fields ++ [⟨child.name, type, child.width⟩] }
  else return m

mutual
/-- `context` names a record without a tag that is met on the way. -/
def typeExpr (u : HeaderUnit) : Nat → TypeRef → String → Except Fault TypeExpr
  | 0, _, _ => .error .endless
  | fuel + 1, r, context =>
    let t := u.type r
    match t.kind with
    | .builtin b => .ok (.named b.text (qualifiers t) none)
    | .pointer =>
      let target := u.canonicalRef t.pointee
      match (u.type target).kind with
      | .function _ => u.functionType (typeExpr u fuel · "anonymous") target
      | _ => do return .pointer (← typeExpr u fuel t.pointee context)
    | .constantArray => do return .array (← typeExpr u fuel t.element context) (some t.count)
    | .incompleteArray => do return .array (← typeExpr u fuel t.element context) none
    | .function _ => u.functionType (typeExpr u fuel · "anonymous") r
    | .elaborated => typeExpr u fuel t.named context
    | .record =>
      let d := u.cursor t.declaration
      if d.isUnnamed then do
        let m ← members u fuel t.declaration context
        return .record (m.record d context)
      else .ok (.named ((if d.isUnion then "union " else "struct ") ++ d.name) [] none)
    | .enumeration => do
      let d := u.cursor t.declaration
      let integer ← typeExpr u fuel d.integerType "anonymous"
      return if d.isUnnamed then integer else .named ("enum " ++ d.name) [] (some integer)
    | .alias => do
      let d := u.cursor t.declaration
      let canonical ← typeExpr u fuel (u.canonicalRef r) d.name
      return .named d.name (qualifiers t) (some canonical)
    | kind =>
      let canonical := u.canonicalRef r
      if (u.type canonical).kind = kind then .error (.unsupportedType t.spelling)
      else typeExpr u fuel canonical context

def members (u : HeaderUnit) : Nat → CursorRef → String → Except Fault Members
  | 0, _, _ => .error .endless
  | fuel + 1, r, name =>
    (u.cursor r).children.foldlM (u.addMember (typeExpr u fuel) (members u fuel) r name) {}
end

def typeOf (u : HeaderUnit) (r : TypeRef) : Except Fault TypeExpr := u.typeExpr u.depth r "anonymous"

/-- A record with the tagged records defined inside in front of it. A record that is only declared gives
nothing if the header defines it elsewhere. -/
def recordDeclarations (u : HeaderUnit) (r : CursorRef) (name : String) :
    Except Fault (List Declaration) := do
  let c := u.cursor r
  if c.isDefinition then
    let m ← u.members u.depth r name
    return m.nested ++ [.record (m.record c name)]
  else if c.definition.isSome then return []
  else return [.record { name, fields := none, isUnion := c.isUnion, location := c.location }]

def enumerationDeclarations (u : HeaderUnit) (r : CursorRef) (name : String) :
    Except Fault (List Declaration) := do
  let c := u.cursor r
  if !c.isDefinition then return []
  let values := (c.children.map fun i => u.cursor (some i)).filter (·.kind == .enumerator)
  match ← u.typeOf c.integerType with
  | .named n q k =>
    return [.enumeration {
      name, values := values.map fun v => ⟨v.name, v.value⟩, underlying := .named n q k,
      location := c.location }]
  | _ => throw (.enumerationType (u.type c.integerType).spelling)

/-- A function that only its own file sees has no symbol to call. -/
def functionDeclarations (u : HeaderUnit) (c : Cursor) (library : Option String) :
    Except Fault (List Declaration) := do
  if c.isStatic then return []
  let result ← u.typeOf c.result
  let parameters ← c.arguments.mapM fun i => do
    let a := u.cursor (some i)
    return Parameter.mk (if a.name.isEmpty then none else some a.name) (← u.typeOf a.type)
  let t := u.type c.type
  return [.function {
    name := c.name, result, parameters, variadic := t.kind == .function true && t.variadic, library,
    location := c.location }]

def variableDeclarations (u : HeaderUnit) (c : Cursor) (library : Option String) :
    Except Fault (List Declaration) := do
  if c.isStatic then return []
  return [.variable { name := c.name, type := ← u.typeOf c.type, library, location := c.location }]

/-- An alias of a record or enumeration without a tag is its name; an alias that repeats the tag adds
nothing, unless the record is never defined. -/
def aliasDeclarations (u : HeaderUnit) (c : Cursor) : Except Fault (List Declaration) := do
  let underlying := u.type c.underlying
  if "__builtin_".toList.isPrefixOf underlying.spelling.toList then return []
  let d := u.cursor underlying.declaration
  let plain : Except Fault (List Declaration) := do
    return [.alias { name := c.name, target := ← u.typeOf c.underlying, location := c.location }]
  if d.isRecord then
    if d.isUnnamed then u.recordDeclarations underlying.declaration c.name
    else if d.name != c.name then plain
    else if d.definition.isNone then u.recordDeclarations underlying.declaration c.name
    else return []
  else if d.kind == .enumeration then
    if d.isUnnamed then u.enumerationDeclarations underlying.declaration c.name
    else if d.name != c.name then plain
    else return []
  else plain

/-- What a cursor declares; records and enumerations under the given name. -/
def declarations (u : HeaderUnit) (r : CursorRef) (name : String) (library : Option String) :
    Except Fault (List Declaration) :=
  let c := u.cursor r
  match c.kind with
  | .record _ => u.recordDeclarations r name
  | .enumeration => u.enumerationDeclarations r name
  | .function => u.functionDeclarations c library
  | .alias => u.aliasDeclarations c
  | .variable => u.variableDeclarations c library
  | _ => .ok []

end CBindings.HeaderUnit
