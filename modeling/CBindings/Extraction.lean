import CBindings.Collector
import CBindings.Probe.Resolve

/-! From a request to its declarations: find the headers, parse them, collect their declarations, and let the
compiler compute the rest. A header that cannot be parsed is left out. -/
namespace CBindings

def defaultLibrary : String := "libc"

/-- A symbol of the default library is one of the running process. -/
def Declaration.rebound (default : String) : Declaration → Declaration
  | .function f => .function (if f.library = some default then { f with library := none } else f)
  | .variable v => .variable (if v.library = some default then { v with library := none } else v)
  | d => d

/-- Every record is followed by the constructor of its zero value. -/
def synthesize (default : String) (ds : List Declaration) : List Declaration :=
  ds.flatMap fun d =>
    match d with
    | .record r => [.record r, .constructor r.name]
    | d => [d.rebound default]

namespace Extraction

inductive Fault where
  | filter (f : FilterFault)
  | search (u : Uncaught)
  | collector (f : Collector.Fault)
  | probe (f : Probe.Fault)
deriving DecidableEq, Repr

def Fault.message : Fault → String
  | .filter f => f.message
  | .search u => u.message
  | .collector f => f.message
  | .probe f => f.message

def placeText (l : Option Location) : String :=
  match l with
  | none => "<SourceLocation file None, line 0, column 0>"
  | some l =>
    "<SourceLocation file " ++ Text.quote l.file ++ ", line " ++ toString l.line ++ ", column "
      ++ toString (l.column.getD 0) ++ ">"

/-- What the headers gave, and which of them could be parsed. -/
structure Harvest where
  collector : Collector := {}
  parsed : List String := []

/-- Messages of the collector join those of the session. -/
def collectUnit (c : Collection) (u : HeaderUnit) (s : Collector) : Work (Except Collector.Fault Collector) := do
  let (result, after) := (Collector.collect c u).run { s with log := [] }
  modify fun session => { session with log := session.log ++ after.log }
  return result.map fun _ => after

def harvest (t : Toolchain) (c : Collection) (arguments : List String) :
    Harvest → List String → Work (Except Collector.Fault Harvest)
  | h, [] => return .ok h
  | h, path :: rest => do
    match ← Session.parse t path arguments with
    | none =>
      Session.write .error .extraction (Session.cannotParse path).message
      harvest t c arguments h rest
    | some u =>
      u.errors.forM fun d => Session.write .warning .extraction (placeText d.location ++ ": " ++ d.message)
      match ← collectUnit c u h.collector with
      | .error f => return .error f
      | .ok collector => harvest t c arguments ⟨collector, h.parsed ++ [path]⟩ rest

def infoText (path : String) : String := "cinclude \"" ++ path ++ "\""

/-- The declarations of a request, in the order in which they are registered, with headers looked for along a path. -/
def gather (t : Toolchain) (r : Request) (c : Collection) (searchPath : List String) :
    Work (Except Fault (List Declaration)) := do
  let located := r.headers.map (SearchPath.locate t searchPath)
  let arguments := ["-x", "c"] ++ r.extraArguments ++ SearchPath.arguments searchPath
  match ← harvest t c arguments {} located with
  | .error f => return .error (.collector f)
  | .ok h =>
    let probed ←
      if h.parsed.isEmpty || h.collector.computed.isEmpty then pure (.ok [])
      else Probe.resolve t r h.parsed searchPath h.collector.computed
    match probed with
    | .error f => return .error (.probe f)
    | .ok constants =>
      let infos := if r.quiet then [] else h.parsed.map fun p => Declaration.info (infoText p)
      return .ok (infos ++
        synthesize defaultLibrary (h.collector.declarations ++ constants.map Declaration.constant))

/-- The declarations of a request, along the path that the toolchain names. -/
def run (t : Toolchain) (r : Request) : Work (Except Fault (List Declaration)) := do
  match r.collection with
  | .error f => return .error (.filter f)
  | .ok c =>
    match ← SearchPath.discover t with
    | .error u => return .error (.search u)
    | .ok searchPath => gather t r c searchPath

end Extraction

end CBindings
