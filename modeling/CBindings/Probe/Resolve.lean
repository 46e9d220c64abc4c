import CBindings.Probe.Output
import CBindings.Request
import CBindings.SearchPath

/-! Values of macros by compiling and running a program that prints them. Entries that do not compile are
taken out first, so that one of them does not cost the others. -/
namespace CBindings.Probe

/-- Passes that look for entries to take out. -/
def pruneLimit : Nat := 3

/-- Where the program is written and built. -/
def scratch : String := "$TMP"

def isPreprocessorFlag (a : String) : Bool :=
  ["-I", "-D", "-U"].any fun flag => flag.toList.isPrefixOf a.toList

def preprocessorArguments (r : Request) (headers : List String) : List String :=
  r.extraArguments.filter isPreprocessorFlag ++
    headers.map fun h => "-I" ++ Path.directory (Path.absolute h)

/-- The name whose entry a diagnostic points to, if it lies in the program. -/
def pointedAt? (p : Program) (d : Diagnostic) : Option String :=
  match d.location with
  | some l => if Path.base l.file == sourceName then p.nameAt? l.line else none
  | none => none

/-- Names whose entries a diagnostic of the program points to, each once, in alphabetical order. -/
def blamed (p : Program) (u : HeaderUnit) : List String :=
  ((u.errors.filterMap (pointedAt? p)).foldl SearchPath.addNew []).mergeSort fun a b => !(b < a)

def note (r : Request) (message : String) : Work Unit :=
  if r.quiet then return else Session.write .info .probe message

def pruneFor (r : Request) (arguments : List String) : Nat → Program → Work Program
  | 0, p => return p
  | passes + 1, p => do
    if p.names.isEmpty then return p
    match ← Session.check sourceName p.source arguments with
    | none =>
      Session.write .debug .probe ("Skipping probe pre-check: " ++ (Session.cannotParse sourceName).message)
      return p
    | some u =>
      let failing := blamed p u
      if failing.isEmpty then return p
      note r ("Can't probe " ++ Text.join ", " failing)
      pruneFor r arguments passes (p.without failing)

def prune (r : Request) (searchPath : List String) (p : Program) : Work Program :=
  pruneFor r
    (["-x", "c++", standard] ++ preprocessorArguments r p.headers ++ SearchPath.arguments searchPath)
    pruneLimit p

inductive Stage where
  | compilation
  | execution
deriving DecidableEq, Repr

def Stage.text : Stage → String
  | .compilation => "compilation"
  | .execution => "execution"

def runFailure (stage : Stage) (program : String) : RunFault → Except Uncaught Failure
  | .failed _ code errors => .ok (.probe stage.text (program ++ " exited with " ++ toString code) errors)
  | .unable message => .ok (.probe stage.text message "")
  | .uncaught u => .error u

/-- What the program prints, or why it could not be built or run. -/
def execute (t : Toolchain) (r : Request) (p : Program) : Work (Except Uncaught (Except Failure String)) := do
  let source := Path.join scratch sourceName
  let binary := Path.join scratch binaryName
  let compiler := t.setting "CXX" "c++"
  let command := [compiler, standard, "-w", "-o", binary, source] ++ preprocessorArguments r p.headers
  Session.write .debug .probe ("Compiling macro probe: " ++ Text.join " " command)
  match ← Session.run command (some p.source) with
  | .error f => return (runFailure .compilation compiler f).map .error
  | .ok _ =>
    match ← Session.run [binary] none with
    | .error f => return (runFailure .execution "probe" f).map .error
    | .ok (output, _) => return .ok (.ok output)

/-- The constants of the given names; none if the program could not be built or run. -/
def resolve (t : Toolchain) (r : Request) (headers searchPath names : List String) :
    Work (Except Fault (List Constant)) := do
  let names := names.foldl SearchPath.addNew []
  if names.isEmpty then return .ok []
  let p ← prune r searchPath { headers, names }
  if p.names.isEmpty then return .ok []
  match ← execute t r p with
  | .error u => return .error (.run u)
  | .ok (.error failure) =>
    Session.write .error .probe failure.message
    return .ok []
  | .ok (.ok output) =>
    let (result, log) := readOutput t.evaluator output p.names
    modify fun s => { s with log := s.log ++ log }
    return result

end CBindings.Probe
