import CBindings.Number.Binary64
import CBindings.Text.Blank
import CBindings.Text.Digit

/-! Numbers from text: integers in a base, decimal fractions and hexadecimal fractions. Single underscores
may stand between digits, white space around, and decimal digits may come from any script. -/
namespace CBindings.Number

/-- Longest decimal integer that is converted, in digits. -/
def decimalLimit : Nat := 4300

/-- White space and digits of other scripts in ASCII; `none` when another character is beyond it. -/
def inAscii (s : List Char) : Option (List Char) :=
  if s.all (·.toNat < 128) then some s
  else s.mapM fun c =>
    if c.toNat < 127 then some c
    else if Text.isBlank c then some ' '
    else (Text.decimalValue? c).map fun d => Char.ofNat ('0'.toNat + d)

def digitValue? (base : Nat) (c : Char) : Option Nat :=
  let v :=
    if '0' ≤ c ∧ c ≤ '9' then c.toNat - '0'.toNat
    else if 'a' ≤ c ∧ c ≤ 'z' then c.toNat - 'a'.toNat + 10
    else if 'A' ≤ c ∧ c ≤ 'Z' then c.toNat - 'A'.toNat + 10
    else base
  if v < base then some v else none

/- A run of digits: its value, how many they are, and whether an underscore was just passed. -/
structure Run where
  value : Nat := 0
  count : Nat := 0
  broken : Bool := false

/-- The longest run of digits with single underscores between them, and the rest. -/
def digitRun (base : Nat) (run : Run) : List Char → Option (Run × List Char)
  | [] => if run.broken || run.count == 0 then none else some (run, [])
  | c :: rest =>
    match digitValue? base c with
    | some d => digitRun base ⟨run.value * base + d, run.count + 1, false⟩ rest
    | none =>
      if c == '_' && !run.broken && run.count != 0 then digitRun base { run with broken := true } rest
      else if run.broken || run.count == 0 then none
      else some (run, c :: rest)

def splitSign : List Char → Bool × List Char
  | '+' :: rest => (false, rest)
  | '-' :: rest => (true, rest)
  | s => (false, s)

/-- A base mark after a leading zero, with an underscore if one follows. -/
def dropBaseMark (base : Nat) : List Char → List Char
  | '0' :: x :: rest =>
    if (base == 16 && (x == 'x' || x == 'X')) || (base == 8 && (x == 'o' || x == 'O')) ||
        (base == 2 && (x == 'b' || x == 'B')) then
      match rest with
      | '_' :: rest => rest
      | rest => rest
    else '0' :: x :: rest
  | s => s

/-- An integer in base 2, 8, 10 or 16. Decimal ones have at most `decimalLimit` digits. -/
def readInteger (base : Nat) (s : List Char) : Option Int := do
  let s ← inAscii s
  let (negative, s) := splitSign (Text.stripStart Text.isPlainBlank s)
  let (run, rest) ← digitRun base {} (dropBaseMark base s)
  if !(rest.all Text.isPlainBlank) then none
  else if base == 10 && decimalLimit < run.count then none
  else if negative then some (-(run.value : Int)) else some run.value

/-- A text without its underscores, each of which must stand between two digits. -/
def dropUnderscores (previous : Char) : List Char → Option (List Char)
  | [] => if previous == '_' then none else some []
  | c :: rest =>
    if c == '_' then if previous.isDigit then dropUnderscores c rest else none
    else if previous == '_' && !c.isDigit then none
    else (dropUnderscores c rest).map (c :: ·)

def digitsValue (base : Nat) (s : List Char) : Nat :=
  s.foldl (fun n c => n * base + (digitValue? base c).getD 0) 0

def isHexDigit (c : Char) : Bool := (digitValue? 16 c).isSome

/-- Digits, and those after a point if there is one. -/
def splitPoint (digit : Char → Bool) (s : List Char) : List Char × List Char × List Char :=
  match s.dropWhile digit with
  | '.' :: rest => (s.takeWhile digit, rest.takeWhile digit, rest.dropWhile digit)
  | rest => (s.takeWhile digit, [], rest)

/-- A signed exponent and the rest, when digits follow. -/
def readExponent (s : List Char) : Option (Int × List Char) :=
  let (negative, s) := splitSign s
  let digits := s.takeWhile Char.isDigit
  if digits.isEmpty then none
  else
    let n : Int := digitsValue 10 digits
    some (if negative then -n else n, s.dropWhile Char.isDigit)

/-- A decimal fraction, `inf`, `infinity` or `nan`. -/
def readDecimal (s : List Char) : Option Binary64 := do
  let s ← inAscii s
  let s ← dropUnderscores ' ' (Text.strip Text.isPlainBlank s)
  let (negative, s) := splitSign s
  let word := s.map Char.toLower
  if word == ['i', 'n', 'f'] || word == ['i', 'n', 'f', 'i', 'n', 'i', 't', 'y'] then
    some (.infinite negative)
  else if word == ['n', 'a', 'n'] then some .nan
  else
    let (whole, part, rest) := splitPoint Char.isDigit s
    if whole.isEmpty && part.isEmpty then none
    else
      let m := digitsValue 10 (whole ++ part)
      match rest with
      | [] => some (.ofDecimal negative m (-(part.length : Int)))
      | mark :: rest =>
        if mark == 'e' || mark == 'E' then
          let (e, rest) ← readExponent rest
          if rest.isEmpty then some (.ofDecimal negative m (e - part.length)) else none
        else none

inductive HexFault where
  | malformed
  | tooLarge
deriving DecidableEq, Repr

def dropHexMark : List Char → List Char
  | '0' :: 'x' :: rest => rest
  | '0' :: 'X' :: rest => rest
  | s => s

/-- `significand * 2 ^ exponent` as it is written, and what follows it. -/
structure HexParts where
  negative : Bool
  significand : Nat
  exponent : Int
  rest : List Char

def splitHexadecimal (s : List Char) : Option HexParts :=
  let (negative, s) := splitSign (Text.stripStart Text.isPlainBlank s)
  let (whole, part, rest) := splitPoint isHexDigit (dropHexMark s)
  if whole.isEmpty && part.isEmpty then none
  else
    let exponent := match rest with
      | 'p' :: rest => readExponent rest
      | 'P' :: rest => readExponent rest
      | rest => some (0, rest)
    exponent.map fun (e, rest) => ⟨negative, digitsValue 16 (whole ++ part), e - 4 * part.length, rest⟩

/-- A hexadecimal fraction with a binary exponent. A value beyond the format is reported before anything
that follows it is looked at. -/
def readHexadecimal (s : List Char) : Except HexFault Binary64 :=
  match splitHexadecimal s with
  | none => .error .malformed
  | some h =>
    match Binary64.ofBinary h.negative h.significand h.exponent with
    | .infinite _ => .error .tooLarge
    | x => if h.rest.all Text.isPlainBlank then .ok x else .error .malformed

end CBindings.Number
