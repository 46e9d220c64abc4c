import CBindings.Text.Blank
import CBindings.Text.Quoted

/-! Failures that are reported with their circumstances. -/
namespace CBindings

inductive Failure where
  | parse (header reason : String)
  | probe (stage reason output : String)
  | filter (option pattern reason : String)
deriving DecidableEq, Repr

namespace Failure

/-- What a failed program said stands below the reason. -/
def message : Failure → String
  | .parse header reason => "Can't parse " ++ header ++ ": " ++ reason
  | .probe stage reason output =>
    let head := "Macro probe " ++ stage ++ " failed: " ++ reason
    if output.isEmpty then head else head ++ "\n" ++ Text.trimmed output
  | .filter option pattern reason => "Invalid " ++ option ++ " pattern " ++ Text.quote pattern ++ ": " ++ reason

def details : Failure → List (String × String)
  | .parse header reason => [("header", header), ("reason", reason)]
  | .probe stage reason _ => [("stage", stage), ("reason", reason)]
  | .filter option pattern reason => [("option", option), ("pattern", pattern), ("reason", reason)]

end Failure

end CBindings
