import CBindings.Literal.Quoted
import CBindings.Text.Case
import CBindings.Text.Utf8

/-! Literal tokens of C: numbers with suffixes, characters, adjacent strings, and what is left of a token
list after its outer parentheses. -/
namespace CBindings.Literal

/-- The one thing that reading a token can fail with; all other tokens that are no literal are `none`. -/
inductive Fault where
  | floatTooLarge
deriving DecidableEq, Repr

def Fault.message : Fault → String
  | .floatTooLarge => "hexadecimal value too large to represent as a float"

abbrev Parsed := Value × ConstantKind

def integerSuffixes : List String := ["ULL", "LLU", "LL", "UL", "LU", "U", "L"]

/-- An integer without its suffix, which may be in capitals or small letters. -/
def dropSuffix (s : List Char) : List Char :=
  let upper := s.flatMap Text.capitals
  match integerSuffixes.find? fun suffix => suffix.toList.isSuffixOf upper with
  | some suffix => s.take (s.length - suffix.length)
  | none => s

def isHexadecimal (s : List Char) : Bool := ['0', 'x'].isPrefixOf (s.map Char.toLower)

def isBinary (s : List Char) : Bool := ['0', 'b'].isPrefixOf (s.map Char.toLower)

/-- A fraction has a point or an exponent mark. -/
def isFraction (s : List Char) : Bool :=
  let small := s.map Char.toLower
  if isHexadecimal s then small.contains 'p' else s.contains '.' || small.contains 'e'

def dropFloatSuffix (s : List Char) : List Char :=
  match s.getLast? with
  | some c => if c.toLower == 'f' || c.toLower == 'l' then s.dropLast else s
  | none => s

def readFraction (s : List Char) : Except Fault (Option Binary64) :=
  let body := dropFloatSuffix s
  if isHexadecimal s then
    match Number.readHexadecimal body with
    | .ok x => .ok (some x)
    | .error .malformed => .ok none
    | .error .tooLarge => .error .floatTooLarge
  else .ok (Number.readDecimal body)

def readWhole (s : List Char) : Option Int :=
  let body := dropSuffix s
  if isHexadecimal s then Number.readInteger 16 body
  else if isBinary s then Number.readInteger 2 body
  else match body with
    | [] => none
    | '0' :: d :: rest =>
      if (d :: rest).all Text.isDigit then Number.readInteger 8 body else none
    | body => if body.all Text.isDigit then Number.readInteger 10 body else none

def readNumber (s : List Char) : Except Fault (Option Parsed) :=
  if isFraction s then return (← readFraction s).map fun x => (.float x, .float)
  else .ok ((readWhole s).map fun n => (.int n, .integer))

def encodingMarks : List String := ["", "u8", "u", "U", "L"]

/-- A quoted token from its first quote on, without its encoding mark. -/
def dropEncoding (quote : Char) (s : List Char) : Option (List Char) :=
  (encodingMarks.find? fun mark =>
    (mark.toList ++ [quote]).isPrefixOf s && s.getLast? == some quote && mark.length + 2 ≤ s.length).map
    fun mark => s.drop mark.length

/-- The text that a quoted literal denotes, as numbers of characters or surrogates. -/
def evaluateText (s : List Char) : Option (List Nat) :=
  match evaluate s with
  | some (.text codes) => some codes
  | _ => none

def escapeBeyondAscii (c : Char) : List Char :=
  if c.toNat < 128 then [c]
  else (Text.Utf8.encodeChar c).flatMap fun b => '\\' :: 'x' :: Text.hexDigits 2 b.toNat

/-- The text of a string literal: its escapes are bytes, read as UTF-8, unless it names a code point. -/
def evaluateString (s : List Char) : Option (List Nat) :=
  if Text.occursIn ['\\', 'u'] s || Text.occursIn ['\\', 'U'] s then evaluateText s
  else match evaluate ('b' :: s.flatMap escapeBeyondAscii) with
    | some (.bytes b) => some ((Text.Utf8.decode b).map Char.toNat)
    | _ => none

def readChar (s : List Char) : Option Parsed := do
  match ← evaluateText (← dropEncoding '\'' s) with
  | [code] => some (.ofPoints [code], .char)
  | _ => none

/-- Adjacent string literals, joined. -/
def readStrings (tokens : List (List Char)) : Option Parsed := do
  let parts ← tokens.mapM fun s => do evaluateString (← dropEncoding '"' s)
  some (.ofPoints parts.flatten, .string)

/-- Whether the parenthesis that the tokens open with is closed before the last of them. -/
def closesEarly : Nat → List String → Bool
  | _, [] => false
  | _, [_] => false
  | depth, t :: rest =>
    let depth := if t == "(" then depth + 1 else if t == ")" then depth - 1 else depth
    depth == 0 || closesEarly depth rest

/-- The tokens without parentheses around all of them. -/
def stripParentheses (tokens : List String) : List String :=
  if _ : 2 < tokens.length ∧ tokens.head? = some "(" ∧ tokens.getLast? = some ")" ∧ !closesEarly 0 tokens then
    stripParentheses (tokens.drop 1).dropLast
  else tokens
termination_by tokens.length
decreasing_by
  simp only [List.length_dropLast, List.length_drop]
  omega

/-- The value that a macro's tokens spell out: one literal, a signed number or adjacent strings, in any
number of parentheses. -/
def ofTokens (tokens : List String) : Except Fault (Option Parsed) :=
  match stripParentheses tokens with
  | [] => .ok none
  | [t] => do
    match ← readNumber t.toList with
    | some p => return some p
    | none =>
      match readChar t.toList with
      | some p => return some p
      | none => return readStrings [t.toList]
  | [sign, t] =>
    if sign == "-" || sign == "+" then do
      return (← readNumber t.toList).map fun (v, k) => (if sign == "-" then v.neg else v, k)
    else .ok (readStrings [sign.toList, t.toList])
  | ts => .ok (readStrings (ts.map String.toList))

end CBindings.Literal
