import CBindings.Declaration
import CBindings.Literal.Basic

/-! Macro definitions: which have their value in their tokens, which need the compiler to compute it, and
which have none. Tokens start with the macro's name. -/
namespace CBindings

inductive MacroKind where
  | literal
  | computed
  | skipped
deriving DecidableEq, Repr

namespace MacroDefinition

def isReserved (reserved name : String) : Bool := !reserved.isEmpty && reserved.toList.isPrefixOf name.toList

/-- A macro has no value if it is reserved, empty, takes arguments, or stands for an initialiser or a
member. When it is unknown whether it takes arguments, a parenthesis after the name says so. -/
def hasNoValue (name : String) (tokens : List String) (takesArguments : Option Bool) (reserved : String) :
    Bool :=
  isReserved reserved name ||
    match tokens with
    | _ :: t :: rest => takesArguments.getD (t == "(") || t == "\x7b" || rest.head? == some "."
    | _ => true

def classify (name : String) (tokens : List String) (takesArguments : Option Bool) (reserved : String) :
    Except Literal.Fault MacroKind :=
  if hasNoValue name tokens takesArguments reserved then .ok .skipped
  else do
    match ← Literal.ofTokens (tokens.drop 1) with
    | some _ => return .literal
    | none => return .computed

inductive Fault where
  | literal (f : Literal.Fault)
  | notALiteral (tokens : List String)
deriving DecidableEq, Repr

def Fault.message : Fault → String
  | .literal f => f.message
  | .notALiteral tokens => "not a literal: " ++ Text.join " " tokens

/-- The constant that a macro's tokens spell out. -/
def constant (name : String) (tokens : List String) (location : Option Location) : Except Fault Constant :=
  match Literal.ofTokens (tokens.drop 1) with
  | .error f => .error (.literal f)
  | .ok none => .error (.notALiteral (tokens.drop 1))
  | .ok (some (value, kind)) => .ok { name, value, kind, location }

end MacroDefinition

end CBindings
