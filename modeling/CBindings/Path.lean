import CBindings.Text.Basic

/-! File names with slashes. The working directory is the root. -/
namespace CBindings.Path

def isAbsolute (p : List Char) : Bool := p.head? == some '/'

def joinChars (a b : List Char) : List Char :=
  if isAbsolute b then b
  else if a.isEmpty || a.getLast? == some '/' then a ++ b
  else a ++ '/' :: b

def join (a b : String) : String := String.ofList (joinChars a.toList b.toList)

/-- Drops empty parts and `.`; `..` takes back the part before it. -/
def normalParts : List (List Char) → List (List Char) → List (List Char)
  | kept, [] => kept.reverse
  | kept, part :: rest =>
    if part.isEmpty || part == ['.'] then normalParts kept rest
    else if part == ['.', '.'] then normalParts (kept.drop 1) rest
    else normalParts (part :: kept) rest

/- Two slashes at the start, not three, are a root of their own. -/
def rootOf (p : List Char) : List Char :=
  match p with
  | '/' :: '/' :: '/' :: _ => ['/']
  | '/' :: '/' :: _ => ['/', '/']
  | _ => ['/']

def absoluteChars (p : List Char) : List Char :=
  rootOf p ++ ['/'].intercalate (normalParts [] (Text.splitOn ['/'] p))

def absolute (p : String) : String := String.ofList (absoluteChars p.toList)

/-- The last part. -/
def base (p : String) : String := String.ofList (Text.afterLast '/' p.toList)

def directoryChars (p : List Char) : List Char :=
  let head := p.take (p.length - (Text.afterLast '/' p).length)
  if head.all (· == '/') then head else Text.stripEnd (· == '/') head

/-- All but the last part. -/
def directory (p : String) : String := String.ofList (directoryChars p.toList)

end CBindings.Path
