import CBindings.Value

/-! Structured documents and their JSON text. -/
namespace CBindings

/-- `refused` stands for a value that has no text; writing stops there. So it does at an integer that is too long to
write, at bytes, and at a `block` that was refused; another block is JSON text already. -/
inductive Document (ε : Type) where
  | null
  | bool (b : Bool)
  | integer (n : Int) (excess : ε)
  | number (text : String)
  | text (s : String)
  | bytes (b : List UInt8) (cause : ε)
  | block (text : JsonLines) (cause : ε)
  | list (items : List (Document ε))
  | object (members : List (String × Document ε))
  | refused (cause : ε)

instance {ε : Type} : Inhabited (Document ε) := ⟨.null⟩

namespace Document

def isNull {ε : Type} : Document ε → Bool
  | .null => true
  | _ => false

def unit (n : Nat) : List Char := '\\' :: 'u' :: Text.hexDigits 4 n

/-- Characters outside printable ASCII are written as UTF-16 units. -/
def escape (c : Char) : List Char :=
  if c == '"' || c == '\\' then ['\\', c]
  else if c == '\n' then ['\\', 'n']
  else if c == '\r' then ['\\', 'r']
  else if c == '\t' then ['\\', 't']
  else if c == '\x08' then ['\\', 'b']
  else if c == '\x0c' then ['\\', 'f']
  else if 32 ≤ c.toNat && c.toNat < 127 then [c]
  else if c.toNat < 0x10000 then unit c.toNat
  else
    let n := c.toNat - 0x10000
    unit (0xD800 + n / 0x400) ++ unit (0xDC00 + n % 0x400)

def quote (s : String) : String := String.ofList ('"' :: s.toList.flatMap escape ++ ['"'])

def quotePoints (codes : List Nat) : String :=
  let body := codes.flatMap fun n =>
    match Text.charOf? n with
    | some c => escape c
    | none => unit n
  String.ofList ('"' :: body ++ ['"'])

/-- Text written so far, and the value that writing stopped at. -/
structure Written (ε : Type) where
  text : String
  stopped : Option ε := none

def Written.append {ε : Type} (a b : Written ε) : Written ε :=
  match a.stopped with
  | some _ => a
  | none => ⟨a.text ++ b.text, b.stopped⟩

/-- What is written before the first item, between two items and after the last. -/
structure Spacing where
  before : String
  between : String
  after : String

def lineStart (step level : Nat) : String := "\n" ++ String.ofList (List.replicate (step * level) ' ')

/-- On one line, or one item to a line with a step of indentation to each level. -/
def spacing (step : Option Nat) (level : Nat) : Spacing :=
  match step with
  | none => ⟨"", ", ", ""⟩
  | some n => ⟨lineStart n (level + 1), "," ++ lineStart n (level + 1), lineStart n level⟩

/-- The lines after the first one of a block. On one line a blank stands behind a comma. -/
def blockRest (step : Option Nat) (level : Nat) (behindComma : Bool) : List (Nat × String) → String
  | [] => ""
  | (depth, line) :: rest =>
    let start := match step with
      | none => if behindComma then " " else ""
      | some n => lineStart n (level + depth)
    start ++ line ++ blockRest step level (line.endsWith ",") rest

def blockText (step : Option Nat) (level : Nat) : List (Nat × String) → String
  | [] => ""
  | (_, line) :: rest => line ++ blockRest step level (line.endsWith ",") rest

mutual
def write {ε : Type} (step : Option Nat) (level : Nat) : Document ε → Written ε
  | .null => ⟨"null", none⟩
  | .bool b => ⟨if b then "true" else "false", none⟩
  | .integer n excess =>
    match decimalText? n with
    | some t => ⟨t, none⟩
    | none => ⟨"", some excess⟩
  | .number t => ⟨t, none⟩
  | .text s => ⟨quote s, none⟩
  | .bytes _ cause => ⟨"", some cause⟩
  | .block (.written lines) _ => ⟨blockText step level lines, none⟩
  | .block (.refused _) cause => ⟨"", some cause⟩
  | .refused cause => ⟨"", some cause⟩
  | .list [] => ⟨"[]", none⟩
  | .list (d :: ds) =>
    let sp := spacing step level
    ((Written.mk ("[" ++ sp.before) none).append (write step (level + 1) d)).append
      ((writeItems step level sp ds).append ⟨sp.after ++ "]", none⟩)
  | .object [] => ⟨"\x7b\x7d", none⟩
  | .object ((k, d) :: ms) =>
    let sp := spacing step level
    ((Written.mk ("\x7b" ++ sp.before ++ quote k ++ ": ") none).append (write step (level + 1) d)).append
      ((writeMembers step level sp ms).append ⟨sp.after ++ "\x7d", none⟩)

def writeItems {ε : Type} (step : Option Nat) (level : Nat) (sp : Spacing) : List (Document ε) → Written ε
  | [] => ⟨"", none⟩
  | d :: ds =>
    ((Written.mk sp.between none).append (write step (level + 1) d)).append (writeItems step level sp ds)

def writeMembers {ε : Type} (step : Option Nat) (level : Nat) (sp : Spacing) :
    List (String × Document ε) → Written ε
  | [] => ⟨"", none⟩
  | (k, d) :: ms =>
    ((Written.mk (sp.between ++ quote k ++ ": ") none).append (write step (level + 1) d)).append
      (writeMembers step level sp ms)
end

/-- The document on one line. -/
def compact {ε : Type} (d : Document ε) : Written ε := d.write none 0

/-- The document with two blanks of indentation to a level. -/
def indented {ε : Type} (d : Document ε) : Written ε := d.write (some 2) 0

end Document

end CBindings
