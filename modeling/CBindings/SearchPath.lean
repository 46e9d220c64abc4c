import CBindings.Path
import CBindings.Text.Blank
import CBindings.Toolchain

/-! Where headers are looked for. -/
namespace CBindings.SearchPath

def defaults : List String := ["/usr/include"]

def startMark : List Char := "#include <...> search starts here:".toList

def endMark : List Char := "End of search list.".toList

def frameworkMark : List Char := "(framework directory)".toList

def isDirectory (line : List Char) : Bool := !line.isEmpty && !frameworkMark.isSuffixOf line

/-- Lines between the marks; a further start mark in between is passed over. -/
def listed : Bool → List (List Char) → List (List Char)
  | _, [] => []
  | started, line :: rest =>
    if Text.occursIn startMark line then listed true rest
    else if !started then listed false rest
    else
      let path := Text.trim line
      if path == endMark then []
      else if isDirectory path then path :: listed true rest
      else listed true rest

/-- Directories that a compiler lists when it runs verbosely. -/
def ofListing (output : String) : List String := (listed false (Text.lines output.toList)).map String.ofList

/-- The directory of a development kit, if there is one. -/
def ofKit (kit : String) : List String := if kit.isEmpty then [] else [Path.join kit "usr/include"]

def addNew (paths : List String) (path : String) : List String :=
  if paths.contains path then paths else paths ++ [path]

def query (t : Toolchain) : Work (Except RunFault (List String)) := do
  if t.isDarwin then
    return (← Session.run ["xcrun", "--show-sdk-path"] none).map fun (output, _) => ofKit (Text.trimmed output)
  else
    return (← Session.run [t.setting "CC" "cc", "-E", "-v", "-x", "c", "/dev/null"] none).map fun (output, errors) =>
      ofListing (errors ++ "\n" ++ output)

/-- The directories of the toolchain, each once, the default ones first; only these if it cannot be asked. -/
def discover (t : Toolchain) : Work (Except Uncaught (List String)) := do
  match ← query t with
  | .error (.uncaught u) => return .error u
  | .error f =>
    Session.write .warning .searchPath
      ("Can't query system include path (" ++ f.message ++ "), using " ++ Text.quoteList defaults)
    return .ok defaults
  | .ok found =>
    let paths := found.foldl addNew defaults
    Session.write .debug .searchPath ("System include path: " ++ Text.quoteList paths)
    return .ok paths

def arguments (paths : List String) : List String := paths.map ("-I" ++ ·)

def withoutBrackets (header : List Char) : List Char :=
  if header.head? == some '<' && header.getLast? == some '>' then
    Text.trim ((header.drop 1).dropLast)
  else header

/-- The first existing match, or the name itself, so that the parser says what is missing. -/
def locate (t : Toolchain) (paths : List String) (header : String) : String :=
  let name := String.ofList (withoutBrackets header.toList)
  if t.isFile name then name
  else ((paths.map fun d => Path.join d name).find? t.isFile).getD name

end CBindings.SearchPath
