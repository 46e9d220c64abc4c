import CBindings.HeaderUnit.Declarations
import CBindings.Log
import CBindings.MacroDefinition
import CBindings.Request

/-! Collecting declarations from parsed headers, each name once over all of them. Macros whose value the
compiler has to compute are only noted. -/
namespace CBindings

structure Collector where
  seen : List String := []
  /-- How many enumerations were given a name. -/
  unnamed : Nat := 0
  computed : List String := []
  declarations : List Declaration := []
  log : Log := []

/-- What one collection was asked for. -/
structure Collection where
  filter : NameFilter := {}
  library : Option String := some "libc"
  quiet : Bool := false
  reserved : String := "_"

def Request.collection (r : Request) : Except FilterFault Collection := do
  return { filter := ← r.filter, library := r.library, quiet := r.quiet, reserved := r.reserved }

namespace Collector

inductive Fault where
  | literal (f : Literal.Fault)
  | endless
deriving DecidableEq, Repr

def Fault.message : Fault → String
  | .literal f => f.message
  | .endless => HeaderUnit.Fault.endless.message

def note (c : Collection) (s : Collector) (message : String) : Collector :=
  if c.quiet then s else { s with log := s.log ++ [⟨.info, .collection, message⟩] }

def cannotWrap (name reason : String) : String := "Can't wrap " ++ name ++ " (" ++ reason ++ ")"

/-- Adds a declaration unless its name is taken; one without a name is always added. -/
def add (s : Collector) (d : Declaration) : Collector :=
  match d.name? with
  | .ok (some name) =>
    if s.seen.contains name then s
    else { s with seen := s.seen ++ [name], declarations := s.declarations ++ [d] }
  | _ => { s with declarations := s.declarations ++ [d] }

def addAll (s : Collector) (ds : List Declaration) : Collector := ds.foldl add s

/-- What a cursor gives under its name. -/
inductive Gain where
  | nothing
  /-- A reason why it cannot be declared. -/
  | refused (reason : String)
  /-- A macro for the compiler to compute. -/
  | computed
  | declared (ds : List Declaration)

def macroGain (c : Collection) (cursor : Cursor) (name : String) : Except Fault Gain :=
  let tokens := cursor.tokens.map (·.text)
  match MacroDefinition.classify name tokens (some cursor.takesArguments) c.reserved with
  | .error f => .error (.literal f)
  | .ok .skipped => .ok .nothing
  | .ok .computed => .ok .computed
  | .ok .literal =>
    match MacroDefinition.constant name tokens cursor.location with
    | .ok constant => .ok (.declared [.constant constant])
    | .error (.literal f) => .error (.literal f)
    | .error f => .ok (.refused f.message)

/-- That a reserved name cannot be declared is not worth a message. -/
def declarationGain (c : Collection) (u : HeaderUnit) (r : Nat) (name : String) : Except Fault Gain :=
  match u.declarations (some r) name c.library with
  | .ok ds => .ok (.declared ds)
  | .error .endless => .error .endless
  | .error f => .ok (if MacroDefinition.isReserved c.reserved name then .nothing else .refused f.message)

def gain (c : Collection) (u : HeaderUnit) (r : Nat) (name : String) : Except Fault Gain :=
  let cursor := u.cursor (some r)
  if cursor.kind == .macroDefinition then macroGain c cursor name else declarationGain c u r name

def take (c : Collection) (s : Collector) (name : String) : Gain → Collector
  | .nothing => s
  | .refused reason => s.note c (cannotWrap name reason)
  | .computed => { s with seen := s.seen ++ [name], computed := s.computed ++ [name] }
  | .declared ds => s.addAll ds

/-- An alias right after a record or enumeration without a name gives it one. -/
def nameFromAlias (u : HeaderUnit) (r : Nat) (following : Option Nat) : Option String := do
  let f := u.cursor (some (← following))
  if f.kind == .alias && (u.type f.underlying).declaration == some r then some f.name else none

/-- The name of a cursor, none if it declares nothing that can be named. Where a number is made up for a
name, it is spent. -/
def nameFor (s : Collector) (u : HeaderUnit) (r : Nat) (following : Option Nat) : Option String × Collector :=
  let cursor := u.cursor (some r)
  let isEnumeration := cursor.kind == .enumeration
  if !((cursor.isRecord || isEnumeration) && cursor.isUnnamed) then (some cursor.name, s)
  else match nameFromAlias u r following with
    | some name => (some name, s)
    | none =>
      if !isEnumeration || !cursor.isDefinition then (none, s)
      else (some ("ANONYMOUS_ENUM_" ++ (s.unnamed + 1).repr), { s with unnamed := s.unnamed + 1 })

/-- Whether a name is worth a look: a new one that the filter does not leave out. -/
def admits (c : Collection) (s : Collector) (name : String) (isEnumeration : Bool) : Bool :=
  !name.isEmpty && !s.seen.contains name && !c.filter.leavesOut name isEnumeration

/-- What was collected before a fault stays collected. -/
abbrev Collect := ExceptT Fault (StateM Collector)

def visit (c : Collection) (u : HeaderUnit) (r : Nat) (following : Option Nat) : Collect Unit := do
  match (← get).nameFor u r following with
  | (none, s) => set s
  | (some name, s) =>
    set s
    if s.admits c name ((u.cursor (some r)).kind == .enumeration) then
      set (s.take c name (← gain c u r name))

def isCollected (cursor : Cursor) : Bool :=
  cursor.location.isSome &&
    match cursor.kind with
    | .record _ | .enumeration | .function | .alias | .variable | .macroDefinition => true
    | .enumerator | .field | .other => false

def visitAll (c : Collection) (u : HeaderUnit) : List Nat → Collect Unit
  | [] => return
  | r :: rest => do
    visit c u r rest.head?
    visitAll c u rest

/-- Collects from the cursors at the top of a header, in the order of the source. -/
def collect (c : Collection) (u : HeaderUnit) : Collect Unit :=
  visitAll c u (u.top.filter fun r => isCollected (u.cursor (some r)))

end Collector

end CBindings
