import CBindings.Text.Basic

/-! White space and line ends. -/
namespace CBindings.Text

def blankRanges : List (Nat × Nat) :=
  [(9, 13), (28, 32), (133, 133), (160, 160), (5760, 5760), (8192, 8202), (8232, 8233), (8239, 8239),
   (8287, 8287), (12288, 12288)]

/-- White space of any script, and the four separators of ASCII. -/
def isBlank (c : Char) : Bool := inRanges blankRanges c

/-- White space of C source: blank, tab, line feed, vertical tab, form feed, return. -/
def isPlainBlank (c : Char) : Bool := c.toNat == 32 || (9 ≤ c.toNat && c.toNat ≤ 13)

def isLineEnd (c : Char) : Bool :=
  (10 ≤ c.toNat && c.toNat ≤ 13) || (28 ≤ c.toNat && c.toNat ≤ 30) || c.toNat == 133 ||
    c.toNat == 8232 || c.toNat == 8233

/- The flag says that a return was just passed, so that a line feed after it ends no second line. -/
def linesFrom : Bool → List Char → List Char → List (List Char)
  | _, [], [] => []
  | _, line, [] => [line.reverse]
  | afterReturn, line, c :: rest =>
    if afterReturn && c == '\n' then linesFrom false line rest
    else if isLineEnd c then line.reverse :: linesFrom (c == '\r') [] rest
    else linesFrom false (c :: line) rest

/-- The lines of a text without their ends; a last line end opens no further line. -/
def lines (s : List Char) : List (List Char) := linesFrom false [] s

def trim (s : List Char) : List Char := strip isBlank s

def trimmed (s : String) : String := String.ofList (trim s.toList)

end CBindings.Text
