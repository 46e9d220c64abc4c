import CBindings.Number.Reading
import CBindings.Text.CharacterName
import CBindings.Value

/-! Quoted literals. A text is a run of literals side by side, each with an optional mark for raw text
(`r`) or bytes (`b`), in single or triple quotes; blanks, continuation lines and a closing comment may
stand between and after them. Evaluating joins what the literals denote. -/
namespace CBindings.Literal

/-- One literal of a run: its marks and what stands between its quotes. -/
structure Piece where
  raw : Bool
  bytes : Bool
  body : List Char
deriving DecidableEq, Repr

inductive Mode where
  | outside (marks : List Char)
  | inside (raw bytes : Bool) (quote : Char) (triple : Bool) (body : List Char)
  | comment
  | ended

/-- Marks in the order read backwards. A mark for formatted text is no plain literal. -/
def marksOf (marks : List Char) : Option (Bool × Bool) :=
  match marks.map Char.toLower with
  | [] => some (false, false)
  | ['u'] => some (false, false)
  | ['r'] => some (true, false)
  | ['b'] => some (false, true)
  | ['r', 'b'] => some (true, true)
  | ['b', 'r'] => some (true, true)
  | _ => none

def isGap (c : Char) : Bool := c == ' ' || c == '\t' || c == '\x0c'

def scan : Mode → List Char → Option (List Piece)
  | .outside [], [] => some []
  | .comment, [] => some []
  | .ended, [] => some []
  | .outside (_ :: _), [] => none
  | .inside .., [] => none
  | .comment, c :: rest => scan (if c == '\n' then .ended else .comment) rest
  | .ended, c :: rest =>
    if c == '#' then scan .comment rest
    else if c == '\n' || isGap c then scan .ended rest
    else none
  | .outside marks, c :: rest =>
    if c == '"' || c == '\'' then
      match marksOf marks with
      | none => none
      | some (raw, bytes) =>
        match rest with
        | d :: e :: more =>
          if d == c && e == c then scan (.inside raw bytes c true []) more
          else if d == c then (scan (.outside []) (e :: more)).map (⟨raw, bytes, []⟩ :: ·)
          else scan (.inside raw bytes c false []) (d :: e :: more)
        | [d] => if d == c then some [⟨raw, bytes, []⟩] else none
        | [] => none
    else if !marks.isEmpty then
      if c.isAlpha && marks.length < 2 then scan (.outside (c :: marks)) rest else none
    else if c.isAlpha then scan (.outside [c]) rest
    else if isGap c then scan (.outside []) rest
    else if c == '#' then scan .comment rest
    else if c == '\n' then scan .ended rest
    else if c == '\\' then
      match rest with
      | '\n' :: more => scan (.outside []) more
      | _ => none
    else none
  | .inside raw bytes quote triple body, c :: rest =>
    if c == '\\' then
      match rest with
      | [] => none
      | d :: more => scan (.inside raw bytes quote triple (d :: c :: body)) more
    else if c == '\n' && !triple then none
    else if c == quote then
      if triple then
        match rest with
        | d :: e :: more =>
          if d == quote && e == quote then
            (scan (.outside []) more).map (⟨raw, bytes, body.reverse⟩ :: ·)
          else scan (.inside raw bytes quote triple (c :: body)) (d :: e :: more)
        | _ => none
      else (scan (.outside []) rest).map (⟨raw, bytes, body.reverse⟩ :: ·)
    else scan (.inside raw bytes quote triple (c :: body)) rest

/-- Every line end as a line feed. -/
def unifyLineEnds : List Char → List Char
  | [] => []
  | '\r' :: '\n' :: rest => '\n' :: unifyLineEnds rest
  | '\r' :: rest => '\n' :: unifyLineEnds rest
  | c :: rest => c :: unifyLineEnds rest

def hexValue? (digits : List Char) : Option Nat :=
  if digits.all Number.isHexDigit then some (Number.digitsValue 16 digits) else none

def isOctal (c : Char) : Bool := '0' ≤ c && c ≤ '7'

def octalValue (digits : List Char) : Nat := Number.digitsValue 8 digits

def simpleEscape? : Char → Option Nat
  | '\\' => some 92
  | '\'' => some 39
  | '"' => some 34
  | 'a' => some 7
  | 'b' => some 8
  | 'f' => some 12
  | 'n' => some 10
  | 'r' => some 13
  | 't' => some 9
  | 'v' => some 11
  | _ => none

/-- The numbers that a body denotes: code points, or bytes when `bytes` holds. An unknown escape keeps its
backslash; `\x` takes two digits, an octal escape one to three, `\u` and `\U` only make sense in text,
and so does `\N` with a name in braces, which is collected back to front. -/
def unescape (bytes : Bool) : Option (List Char) → List Char → Option (List Nat)
  | some _, [] => none
  | some name, c :: rest => do
    if c == '\x7d' then
      let named ← Text.characterNamed? name.reverse
      (unescape bytes none rest).map (named.toNat :: ·)
    else unescape bytes (some (c :: name)) rest
  | none, [] => some []
  | none, '\\' :: '\n' :: rest => unescape bytes none rest
  | none, '\\' :: 'x' :: a :: b :: rest => do
    let n ← hexValue? [a, b]
    (unescape bytes none rest).map (n :: ·)
  | none, '\\' :: 'x' :: _ => none
  | none, '\\' :: c :: rest =>
    if isOctal c then
      let cut (n : Nat) : Nat := if bytes then n % 256 else n
      match rest with
      | d :: e :: more =>
        if isOctal d then
          if isOctal e then (unescape bytes none more).map (cut (octalValue [c, d, e]) :: ·)
          else (unescape bytes none (e :: more)).map (octalValue [c, d] :: ·)
        else (unescape bytes none (d :: e :: more)).map (octalValue [c] :: ·)
      | [d] => if isOctal d then some [octalValue [c, d]] else
          (unescape bytes none [d]).map (octalValue [c] :: ·)
      | [] => some [octalValue [c]]
    else match simpleEscape? c with
      | some n => (unescape bytes none rest).map (n :: ·)
      | none =>
        if !bytes && c == 'u' then
          match rest with
          | h₁ :: h₂ :: h₃ :: h₄ :: more => do
            let n ← hexValue? [h₁, h₂, h₃, h₄]
            (unescape bytes none more).map (n :: ·)
          | _ => none
        else if !bytes && c == 'U' then
          match rest with
          | h₁ :: h₂ :: h₃ :: h₄ :: h₅ :: h₆ :: h₇ :: h₈ :: more => do
            let n ← hexValue? [h₁, h₂, h₃, h₄, h₅, h₆, h₇, h₈]
            (unescape bytes none more).map (n :: ·)
          | _ => none
        else if !bytes && c == 'N' then
          match rest with
          | '\x7b' :: more => unescape bytes (some []) more
          | _ => none
        else if bytes && 128 ≤ c.toNat then none
        else (unescape bytes none rest).map (92 :: c.toNat :: ·)
  | none, c :: rest => if bytes && 128 ≤ c.toNat then none else (unescape bytes none rest).map (c.toNat :: ·)

/-- What a run of literals denotes. -/
inductive Evaluated where
  | text (codes : List Nat)
  | bytes (b : List UInt8)
deriving DecidableEq, Repr

def Evaluated.toValue : Evaluated → Value
  | .text codes => .ofPoints codes
  | .bytes b => .bytes b

def Piece.numbers (p : Piece) : Option (List Nat) :=
  if p.raw then
    if p.bytes && !p.body.all (·.toNat < 128) then none else some (p.body.map Char.toNat)
  else unescape p.bytes none p.body

/-- What these numbers denote, as bytes or as a text. Surrogates may stand in a text, but nothing beyond the last
character. -/
def denoted (asBytes : Bool) (numbers : List Nat) : Option Evaluated :=
  if asBytes then some (.bytes (numbers.map Nat.toUInt8))
  else if numbers.all (· < 0x110000) then some (.text numbers)
  else none

/-- The value of a run of literals, all text or all bytes; `none` if it is anything else. -/
def evaluate (s : List Char) : Option Evaluated := do
  if s.contains '\x00' then none
  else
    let pieces ← scan (.outside []) (unifyLineEnds s)
    match pieces with
    | [] => none
    | first :: _ =>
      if !pieces.all (·.bytes == first.bytes) then none
      else denoted first.bytes (← pieces.mapM Piece.numbers).flatten

end CBindings.Literal
