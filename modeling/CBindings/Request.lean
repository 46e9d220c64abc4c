import CBindings.NameFilter

/-! What is asked for: headers, which of their names, and for which library. -/
namespace CBindings

structure Request where
  headers : List String
  keep : Option String := none
  drop : Option String := none
  library : Option String := some "libc"
  quiet : Bool := false
  extraArguments : List String := []
  /-- Macros whose names start so are left out. -/
  reserved : String := "_"
deriving DecidableEq, Repr

/-- An empty `drop` leaves out nothing. -/
def Request.filter (r : Request) : Except FilterFault NameFilter :=
  FilterTexts.compileNonempty { keep := r.keep, drop := r.drop }

end CBindings
