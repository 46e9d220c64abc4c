import CBindings.CommandLine.Arguments
import CBindings.Declaration.Json
import CBindings.Extraction

/-! What the program does: it prints the declarations of headers, as lines of text or as JSON. -/
namespace CBindings.CommandLine

def versionText : String := "0.1.0"

def usageText : String := "Usage: cli [OPTIONS] [HEADERS]...\n"

def helpText : String :=
  usageText ++ Text.concat [
    "\n  Extract declarations from C headers.\n",
    "\n  Prints the declarations cinclude would register, one per line, or as JSON.\n",
    "\nOptions:\n",
    "  -v, --version            Print version and exit.\n",
    "  -q, --quiet              Suppress informational messages.\n",
    "  --debug / --no-debug     Print debug info to stderr.\n",
    "  --format [text|json]     Output format (default: text).\n",
    "  --list-include-paths     Print the discovered system include paths and exit.\n",
    "  -i, --include <regex>    Keep names matching regex even if excluded.\n",
    "  -e, --exclude <regex>    Leave out names matching regex (enums are always\n",
    "                           kept).\n",
    "  -l, --lib <name>         Library functions are bound to.  [default: libc]\n",
    "  -I, --include-dir <dir>  Add include search path.\n",
    "  -D, --define <macro>     Define preprocessor macro.\n",
    "  -o, --output FILENAME    Write output to file (default: stdout).\n",
    "  -h, --help               Show this message and exit.\n"]

/-- A fault that ends the program without a message of its own. -/
inductive Crash where
  | pattern (f : FilterFault)
  | extraction (f : Extraction.Fault)
  | declaration (f : ShowFault)
deriving DecidableEq, Repr

def Crash.message : Crash → String
  | .pattern f => f.reason
  | .extraction f => f.message
  | .declaration f => f.message

/-- `file` is what was written to a file other than the standard output. -/
structure Outcome where
  code : Nat := 0
  output : String := ""
  errors : String := ""
  file : Option String := none
  crash : Option Crash := none
deriving DecidableEq, Repr

def usageOutcome (f : UsageFault) : Outcome :=
  let reminder := if f.remindsOfUsage then usageText ++ "Try 'cli -h' for help.\n\n" else ""
  { code := 2, errors := reminder ++ "Error: " ++ f.message ++ "\n" }

/-- Directories that files can be written to. -/
def openDirectories : List String := ["", "/", "/tmp"]

/-- Why a file cannot be opened for writing. -/
def writeObstacle? (path : String) : Option String :=
  if path.isEmpty then some "No such file or directory"
  else if openDirectories.contains path then some "Is a directory"
  else if openDirectories.contains (Path.directory path) then none
  else some "No such file or directory"

/-- What is to be printed, up to the value that has no text. -/
abbrev Printed := Document.Written ShowFault

def lines : List Declaration → Printed
  | [] => ⟨"", none⟩
  | d :: rest =>
    match d.text with
    | .ok s => (Document.Written.mk (s ++ "\n") none).append (lines rest)
    | .error f => ⟨"", some f⟩

def jsonText (ds : List Declaration) : Printed :=
  (Document.list (ds.map Declaration.document)).indented.append ⟨"\n", none⟩

/-- Output goes to a file if one is named; it is opened when there is something to write. -/
def deliver (target : Option String) (p : Printed) : Outcome :=
  let done : Outcome := match p.stopped with
    | some f => { code := 1, crash := some (.declaration f) }
    | none => {}
  match target.filter (· != "-") with
  | none => { done with output := p.text }
  | some path =>
    if p.text.isEmpty then done
    else match writeObstacle? path with
      | some reason =>
        { code := 1, errors := "Error: Could not open file " ++ Text.quote path ++ ": " ++ reason ++ "\n" }
      | none => { done with file := some p.text }

def execute (t : Toolchain) (a : Arguments) : Work Outcome := do
  if a.isOn .help then return { output := helpText }
  if a.isOn .version then return { output := versionText ++ "\n" }
  if a.isOn .listPaths then
    return match ← SearchPath.discover t with
      | .error u => { code := 1, crash := some (.extraction (.search u)) }
      | .ok paths => deliver (a.last? .output) ⟨Text.concat (paths.map (· ++ "\n")), none⟩
  if a.headers.isEmpty then return usageOutcome .noHeaders
  match ← Extraction.run t (a.request defaultLibrary) with
  | .error f => return { code := 1, crash := some (.extraction f) }
  | .ok ds =>
    return deliver (a.last? .output) (match a.format with
      | .text => lines ds
      | .json => jsonText ds)

/-- Runs the program with its arguments. -/
def run (t : Toolchain) (args : List String) : Work Outcome :=
  match parse args with
  | .error (.usage f) => return usageOutcome f
  | .error (.pattern f) => return { code := 1, crash := some (.pattern f) }
  | .ok a => execute t a

end CBindings.CommandLine
