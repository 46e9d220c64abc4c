import CBindings.CommandLine.Similarity
import CBindings.Request

/-! The command line: options with their spellings, and headers. -/
namespace CBindings.CommandLine

inductive Setting where
  | version
  | quiet
  | debug
  | format
  | listPaths
  | keep
  | drop
  | library
  | directory
  | define
  | output
  | help
deriving DecidableEq, Repr

structure Spelling where
  text : String
  setting : Setting
  takesValue : Bool := false
  /-- What a flag says. -/
  on : Bool := true
deriving DecidableEq, Repr

def longSpellings : List Spelling :=
  [⟨"--version", .version, false, true⟩, ⟨"--quiet", .quiet, false, true⟩, ⟨"--debug", .debug, false, true⟩,
   ⟨"--no-debug", .debug, false, false⟩, ⟨"--format", .format, true, true⟩,
   ⟨"--list-include-paths", .listPaths, false, true⟩, ⟨"--include", .keep, true, true⟩,
   ⟨"--exclude", .drop, true, true⟩, ⟨"--lib", .library, true, true⟩, ⟨"--include-dir", .directory, true, true⟩,
   ⟨"--define", .define, true, true⟩, ⟨"--output", .output, true, true⟩, ⟨"--help", .help, false, true⟩]

def shortSpellings : List Spelling :=
  [⟨"-v", .version, false, true⟩, ⟨"-q", .quiet, false, true⟩, ⟨"-i", .keep, true, true⟩, ⟨"-e", .drop, true, true⟩,
   ⟨"-l", .library, true, true⟩, ⟨"-I", .directory, true, true⟩, ⟨"-D", .define, true, true⟩,
   ⟨"-o", .output, true, true⟩, ⟨"-h", .help, false, true⟩]

inductive UsageFault where
  | unknownOption (name : String) (similar : List String)
  | missingValue (option : String)
  | needlessValue (option : String)
  | badFormat (value : String)
  | badPattern (fault : FilterFault)
  | noHeaders
deriving DecidableEq, Repr

namespace UsageFault

def similarText : List String → String
  | [] => ""
  | [one] => " Did you mean " ++ one ++ "?"
  | several => " (Possible options: " ++ Text.join ", " several ++ ")"

def optionNames : FilterOption → String
  | .keep => "'--include' / '-i'"
  | .drop => "'--exclude' / '-e'"

def message : UsageFault → String
  | .unknownOption name similar => "No such option: " ++ name ++ similarText similar
  | .missingValue option => "Option " ++ Text.quote option ++ " requires an argument."
  | .needlessValue option => "Option " ++ Text.quote option ++ " does not take a value."
  | .badFormat value => "Invalid value for '--format': " ++ Text.quote value ++ " is not one of 'text', 'json'."
  | .badPattern f =>
    "Invalid value for " ++ optionNames f.option ++ ": invalid regex " ++ Text.quote f.pattern ++ ": " ++ f.reason
  | .noHeaders => "Missing argument 'HEADERS...'."

/-- Whether the message comes with a reminder of the usage. -/
def remindsOfUsage : UsageFault → Bool
  | .unknownOption _ _ | .badFormat _ | .badPattern _ => true
  | _ => false

end UsageFault

/-- One use of an option; flags have no value. -/
structure Use where
  setting : Setting
  value : String := ""
  on : Bool := true
deriving DecidableEq, Repr

def Spelling.use (s : Spelling) (value : String) : Use := { setting := s.setting, value, on := s.on }

/-- What an argument gives: uses of options, the last of which may wait for its value. -/
structure Options where
  uses : List Use
  waiting : Option Spelling := none

/-- Several options behind one dash. The first that takes a value takes all the rest. -/
def readCluster : List Char → Except UsageFault Options
  | [] => .ok { uses := [] }
  | c :: rest =>
    match shortSpellings.find? (·.text.toList == ['-', c]) with
    | none => .error (.unknownOption (String.ofList ['-', c]) [])
    | some s =>
      if s.takesValue then
        if rest.isEmpty then .ok { uses := [], waiting := some s }
        else .ok { uses := [s.use (String.ofList rest)] }
      else do
        let more ← readCluster rest
        return { more with uses := s.use "" :: more.uses }

/-- A long option, with a value behind an equals sign or without. -/
def readOption (arg : List Char) : Except UsageFault Options :=
  let (name, value) := Text.cutAt '=' arg
  match longSpellings.find? (·.text.toList == name) with
  | some s =>
    if s.takesValue then
      match value with
      | some v => .ok { uses := [s.use (String.ofList v)] }
      | none => .ok { uses := [], waiting := some s }
    else if value.isSome then .error (.needlessValue s.text)
    else .ok { uses := [s.use ""] }
  | none =>
    if ['-', '-'].isPrefixOf arg then
      let name := String.ofList name
      .error (.unknownOption name (Similarity.closest (longSpellings.map (·.text)) name))
    else readCluster (arg.drop 1)

/-- Arguments taken apart: the options in the order of their use, and the headers. -/
structure Arguments where
  uses : List Use := []
  headers : List String := []
deriving DecidableEq, Repr

def isOption (arg : List Char) : Bool := arg.head? == some '-' && 1 < arg.length

/-- Reads arguments one by one; `waiting` is the option whose value comes next. After two dashes there are only
headers. -/
def readArguments : Option Spelling → Arguments → List String → Except UsageFault Arguments
  | some s, _, [] => .error (.missingValue s.text)
  | none, a, [] => .ok a
  | some s, a, value :: rest => readArguments none { a with uses := a.uses ++ [s.use value] } rest
  | none, a, arg :: rest =>
    if arg == "--" then .ok { a with headers := a.headers ++ rest }
    else if isOption arg.toList then do
      let o ← readOption arg.toList
      readArguments o.waiting { a with uses := a.uses ++ o.uses } rest
    else readArguments none { a with headers := a.headers ++ [arg] } rest

inductive Format where
  | text
  | json
deriving DecidableEq, Repr

/-- Letters count without their case. -/
def fold (c : Char) : Char := if c == 'ſ' then 's' else c.toLower

def readFormat (value : String) : Except UsageFault Format :=
  match String.ofList (value.toList.map fold) with
  | "text" => .ok .text
  | "json" => .ok .json
  | _ => .error (.badFormat value)

namespace Arguments

/-- The last value that an option was given. -/
def last? (a : Arguments) (s : Setting) : Option String :=
  ((a.uses.filter (·.setting == s)).getLast?).map (·.value)

def isOn (a : Arguments) (s : Setting) : Bool := ((a.uses.filter (·.setting == s)).getLast?).any (·.on)

def all (a : Arguments) (s : Setting) : List String := (a.uses.filter (·.setting == s)).map (·.value)

end Arguments

/-- A pattern that cannot be read is either a matter of usage, or ends the program. -/
inductive ArgumentFault where
  | usage (f : UsageFault)
  | pattern (f : FilterFault)
deriving DecidableEq, Repr

def checkPattern (option : FilterOption) (text : Option String) : Except ArgumentFault Unit :=
  match FilterTexts.compileOne option text with
  | .ok _ => .ok ()
  | .error f => .error (if f.isGrammatical then .usage (.badPattern f) else .pattern f)

def Arguments.check (a : Arguments) (s : Setting) : Except ArgumentFault Unit :=
  match s with
  | .format =>
    match (a.last? .format).map readFormat with
    | some (.error f) => .error (.usage f)
    | _ => .ok ()
  | .keep => checkPattern .keep (a.last? .keep)
  | .drop => checkPattern .drop (a.last? .drop)
  | _ => .ok ()

/-- Checks the values of options in the order of their first use. -/
def Arguments.checkAll (a : Arguments) : Except ArgumentFault Unit :=
  if a.isOn .help then .ok () else ((a.uses.map (·.setting)).eraseDups).forM a.check

def Arguments.format (a : Arguments) : Format :=
  match (a.last? .format).map readFormat with
  | some (.ok f) => f
  | _ => .text

def Arguments.request (a : Arguments) (defaultLibrary : String) : Request :=
  { headers := a.headers, keep := a.last? .keep, drop := a.last? .drop,
    library := some ((a.last? .library).getD defaultLibrary), quiet := a.isOn .quiet,
    extraArguments := (a.all .define).map ("-D" ++ ·) ++ (a.all .directory).map ("-I" ++ ·) }

def parse (args : List String) : Except ArgumentFault Arguments :=
  match readArguments none {} args with
  | .error f => .error (.usage f)
  | .ok a => do
    a.checkAll
    return a

end CBindings.CommandLine
