import CBindings.Text.Digit
import CBindings.Text.Identifier
import CBindings.Text.Quoted

/-! Which arguments a callable takes. -/
namespace CBindings

inductive ArgumentKind where
  | positionalOnly
  | positional
  | rest
  | keyword
  | keywordRest
deriving DecidableEq, Repr

structure Argument where
  name : String
  kind : ArgumentKind
  /-- A type is asked for. -/
  annotated : Bool := false
deriving DecidableEq, Repr

abbrev Signature := List Argument

namespace Signature

def isPositional (a : Argument) : Bool := a.kind == .positionalOnly || a.kind == .positional

/-- Whether `arity` arguments of any type can be passed by position. -/
def accepts (s : Signature) (arity : Int) : Bool :=
  let positional := s.filter isPositional
  let rest := s.filter (·.kind == .rest)
  !rest.any (·.annotated)
    && ((positional.length : Int) == arity || (!rest.isEmpty && decide ((positional.length : Int) ≤ arity)))
    && positional.all (!·.annotated)

end Signature

inductive SignatureFault where
  | invalidName (name : String)
  | implicitName
  | repeatedName (name : String)
deriving DecidableEq, Repr

def SignatureFault.message : SignatureFault → String
  | .invalidName name => Text.quote name ++ " is not a valid parameter name"
  | .implicitName => "implicit arguments must be passed as positional or keyword arguments, not positional-only"
  | .repeatedName name => "duplicate parameter name: " ++ Text.quote name

def checkArgumentName (name : String) : Except SignatureFault Unit :=
  match name.toList with
  | '.' :: rest =>
    if !rest.isEmpty && rest.all Text.isDigit then .error .implicitName else .error (.invalidName name)
  | cs => if Text.isName cs then .ok () else .error (.invalidName name)

def checkDistinct : List String → List String → Except SignatureFault Unit
  | _, [] => .ok ()
  | seen, name :: rest =>
    if seen.contains name then .error (.repeatedName name) else checkDistinct (name :: seen) rest

/-- Arguments by position, in the order of their names, and any number more if `variadic`. -/
def Signature.ofNames (names : List String) (variadic : Bool) : Except SignatureFault Signature := do
  names.forM checkArgumentName
  checkDistinct [] (names ++ if variadic then ["args"] else [])
  return names.map (⟨·, .positionalOnly, false⟩) ++ if variadic then [⟨"args", .rest, false⟩] else []

/-- A signature of positional arguments, written out. -/
def Signature.text (s : Signature) : String :=
  let positional := (s.filter isPositional).map (·.name)
  let rest := (s.filter (·.kind == .rest)).map fun a => "*" ++ a.name
  "(" ++ Text.join ", " (positional ++ (if positional.isEmpty then [] else ["/"]) ++ rest) ++ ")"

end CBindings
