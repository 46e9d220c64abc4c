import CBindings.Declaration
import CBindings.Literal.Quoted
import CBindings.Log
import CBindings.Number.Reading
import CBindings.Probe.Program
import CBindings.Text.Alphanumeric
import CBindings.Text.Utf8
import CBindings.Toolchain

/-! Reading what a probe printed. -/
namespace CBindings.Probe

/-- What a bad segment does not only cost itself for: numbers of no characters and texts that the evaluator breaks off
at. And what ends a run of the compiler or the probe. -/
inductive Fault where
  | characterRange
  | characterTooLarge
  | tooManyDigits (count : Nat)
  | evaluation (message : String)
  | run (u : Uncaught)
deriving DecidableEq, Repr

def Fault.message : Fault → String
  | .characterRange => "chr() arg not in range(0x110000)"
  | .characterTooLarge => "Python int too large to convert to C int"
  | .tooManyDigits count =>
    "Exceeds the limit (4300 digits) for integer string conversion: value has " ++ count.repr
      ++ " digits; use sys.set_int_max_str_digits() to increase the limit"
  | .evaluation message => message
  | .run u => u.message

/-- What is wrong with one segment; only this segment is lost. -/
inductive SegmentFault where
  | malformed (segment : String)
  | badString (name text : String)
  | unsupported (name text : String)
deriving DecidableEq, Repr

def SegmentFault.message : SegmentFault → String
  | .malformed segment => "malformed probe segment " ++ Text.quote segment
  | .badString name text => "bad string for " ++ name ++ ": " ++ Text.quote text
  | .unsupported name text => "unsupported value for " ++ name ++ ": " ++ Text.quote text

structure Reading where
  name : String
  value : Value
  kind : ConstantKind
deriving DecidableEq, Repr

def dropBlanks (s : List Char) : List Char := Text.stripStart Text.isBlank s

/-- The name and the value's text of `const NAME = VALUE`. -/
def splitSegment (segment : List Char) : Option (List Char × List Char) :=
  let s := Text.trim segment
  if !"const".toList.isPrefixOf s then none
  else
    let afterConst := s.drop 5
    match dropBlanks afterConst with
    | [] => none
    | c :: rest =>
      if !(afterConst.head?.any Text.isBlank) || !(c.isAlpha || c == '_') then none
      else match dropBlanks (rest.dropWhile Text.isWord) with
        | '=' :: value =>
          let value := dropBlanks value
          if value.isEmpty then none else some (c :: rest.takeWhile Text.isWord, Text.trim value)
        | _ => none

/-- The digits of `chr(DIGITS)`, as values. -/
def characterDigits? (text : List Char) : Option (List Nat) :=
  if "chr(".toList.isPrefixOf text && text.getLast? == some ')' then
    let digits := (text.drop 4).dropLast
    if digits.isEmpty then none else digits.mapM Text.decimalValue?
  else none

def characterOf (digits : List Nat) : Except Fault Value :=
  if Number.decimalLimit < digits.length then .error (.tooManyDigits digits.length)
  else
    let n := digits.foldl (fun n d => n * 10 + d) 0
    if Nat.pow 2 31 ≤ n then .error .characterTooLarge
    else if 0x110000 ≤ n then .error .characterRange
    else .ok (.ofPoints [n])

/-- The value of a printed literal; `none` if it is none. -/
def readPlain (text : List Char) : Option (Value × ConstantKind) :=
  match Number.readInteger 10 text with
  | some n => some (.int n, .integer)
  | none => (Number.readDecimal text).map fun x => (.float x, .float)

/-- A run of literals says what it denotes, the evaluator what anything else does. -/
def evaluateQuoted (e : Evaluator) (text : List Char) : Evaluation :=
  match Literal.evaluate text with
  | some denoted => .value denoted.toValue
  | none => e text

/-- Texts that are printed byte by byte are read as UTF-8. -/
def decoded : Value → Value
  | .bytes b => .text (String.ofList (Text.Utf8.decode b))
  | v => v

def isQuoted (text : List Char) : Bool := ['b', '"'].isPrefixOf text || ['"'].isPrefixOf text

def readSegment (e : Evaluator) (segment : String) : Except Fault (Except SegmentFault Reading) :=
  match splitSegment segment.toList with
  | none => .ok (.error (.malformed segment))
  | some (nameChars, text) =>
    let name := String.ofList nameChars
    match characterDigits? text with
    | some digits => do return .ok ⟨name, ← characterOf digits, .char⟩
    | none =>
      if text == "True".toList then .ok (.ok ⟨name, .bool true, .bool⟩)
      else if text == "False".toList then .ok (.ok ⟨name, .bool false, .bool⟩)
      else if isQuoted text then
        match evaluateQuoted e text with
        | .value v => .ok (.ok ⟨name, decoded v, .string⟩)
        | .refused => .ok (.error (.badString name (String.ofList text)))
        | .fault message => .error (.evaluation message)
      else match readPlain text with
        | some (value, kind) => .ok (.ok ⟨name, value, kind⟩)
        | none => .ok (.error (.unsupported name (String.ofList text)))

def warn (message : String) : LogEntry := ⟨.warning, .probe, message⟩

def Reading.constant (r : Reading) : Constant :=
  { name := r.name, value := r.value, kind := r.kind, isMacro := true, probed := true }

/-- Constants found so far, and messages about what was dropped. -/
structure Findings where
  found : List Constant := []
  log : Log := []

def Findings.has (f : Findings) (name : String) : Bool := f.found.any (·.name == name)

/-- The first readable segment that names a requested macro counts. What was written to the log before a
fault stays in it. -/
def addSegments (e : Evaluator) (names : List String) : Findings → List String → Findings × Option Fault
  | f, [] => (f, none)
  | f, segment :: rest =>
    if (Text.trim segment.toList).isEmpty then addSegments e names f rest
    else match readSegment e segment with
      | .error fault => (f, some fault)
      | .ok (.error fault) =>
        addSegments e names { f with log := f.log ++ [warn ("Dropping probe output: " ++ fault.message)] } rest
      | .ok (.ok r) =>
        if !names.contains r.name || f.has r.name then
          addSegments e names
            { f with log := f.log ++ [warn ("Dropping unexpected probe value for " ++ r.name)] } rest
        else addSegments e names { f with found := f.found ++ [r.constant] } rest

def segments (output : String) : List String := (Text.splitOn delimiter output.toList).map String.ofList

/-- The constants of the requested names, in their order. -/
def readOutput (e : Evaluator) (output : String) (names : List String) : Except Fault (List Constant) × Log :=
  match addSegments e names {} (segments output) with
  | (f, some fault) => (.error fault, f.log)
  | (f, none) =>
    let missing := names.filter (!f.has ·)
    let log := if missing.isEmpty then f.log
      else f.log ++ [⟨.info, .probe, "No probe value for " ++ Text.join ", " missing⟩]
    (.ok (names.filterMap fun n => f.found.find? (·.name == n)), log)

end CBindings.Probe
