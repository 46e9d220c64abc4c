import CBindings.Text.Printable

/-! Quoted forms of texts and byte strings, as messages show them. -/
namespace CBindings.Text

def hexDigit (n : Nat) : Char := Char.ofNat (if n < 10 then '0'.toNat + n else 'a'.toNat + (n - 10))

/-- The lowest `width` hexadecimal digits of `n`, highest first. -/
def hexDigits : Nat → Nat → List Char
  | 0, _ => []
  | width + 1, n => hexDigits width (n / 16) ++ [hexDigit (n % 16)]

/-- Single quotes, unless the text holds a single quote and no double one. -/
def chooseQuote (s : List Char) : Char :=
  if s.contains '\'' && !s.contains '"' then '"' else '\''

def quoteChar (quote c : Char) : List Char :=
  if c == quote || c == '\\' then ['\\', c]
  else if c == '\n' then ['\\', 'n']
  else if c == '\r' then ['\\', 'r']
  else if c == '\t' then ['\\', 't']
  else if isPrintable c then [c]
  else if c.toNat < 0x100 then '\\' :: 'x' :: hexDigits 2 c.toNat
  else if c.toNat < 0x10000 then '\\' :: 'u' :: hexDigits 4 c.toNat
  else '\\' :: 'U' :: hexDigits 8 c.toNat

def quoteChars (s : List Char) : List Char :=
  let q := chooseQuote s
  q :: s.flatMap (quoteChar q) ++ [q]

def quote (s : String) : String := String.ofList (quoteChars s.toList)

def quoteList (xs : List String) : String := "[" ++ join ", " (xs.map quote) ++ "]"

/-- The character that a number stands for; surrogates stand for none, and so does what is beyond the last one. -/
def charOf? (n : Nat) : Option Char := if n.isValidChar then some (Char.ofNat n) else none

theorem charOf?_toNat (c : Char) : charOf? c.toNat = some c := by
  have valid : c.toNat.isValidChar := c.valid
  rw [charOf?, if_pos valid, Char.ofNat_toNat]

/-- The quoted form of numbers that need not all be characters. -/
def quotePoints (codes : List Nat) : String :=
  let q := chooseQuote (codes.filterMap charOf?)
  let body := codes.flatMap fun n =>
    match charOf? n with
    | some c => quoteChar q c
    | none => '\\' :: 'u' :: hexDigits 4 n
  String.ofList (q :: body ++ [q])

/-- Bytes are shown like text, all beyond printable ASCII in hexadecimal, after a mark `b`. -/
def quoteBytes (bytes : List UInt8) : String :=
  let s := bytes.map fun b => Char.ofNat b.toNat
  let q := chooseQuote s
  let body := s.flatMap fun c =>
    if c.toNat < 127 then quoteChar q c else '\\' :: 'x' :: hexDigits 2 c.toNat
  String.ofList ('b' :: q :: body ++ [q])

end CBindings.Text
