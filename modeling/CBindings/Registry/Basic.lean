import CBindings.Log
import CBindings.Native.Class
import CBindings.Registry.Binding

/-! The state of a registration: the namespace, the classes made so far, and the records that were mentioned
before their definition. -/
namespace CBindings

structure Registry where
  names : Namespace := []
  classes : Classes := {}
  /-- Records mentioned and not defined yet, with their place in the table of classes. -/
  pending : List (String × Nat) := []
  /-- Records that were defined in the running registration. -/
  defined : List String := []
  index : ConstantIndex := {}
  quiet : Bool := false
  log : Log := []
deriving Repr

inductive RegistrationFault where
  | voidValue (type : String)
  | voidAlias (name : String)
  | unknownType (name : String)
  | notAType (text : String)
  | declaration (f : ShowFault)
  | native (f : ClassFault)
  | enumeration (f : EnumFault)
  | misses (name : String)
deriving DecidableEq, Repr

namespace RegistrationFault

def message : RegistrationFault → String
  | .voidValue type => "void used as a value type (" ++ type ++ ")"
  | .voidAlias name => name ++ " aliases void"
  | .unknownType name => "unknown type " ++ name
  | .notAType text => "Not a type expression: " ++ Text.quote text
  | .declaration f => f.message
  | .native f => f.message
  | .enumeration f => f.message
  | .misses name => "'int' object has no attribute '" ++ name ++ "'"

/-- The type is missing or has no values; a pointer does without it. -/
def isMissingType : RegistrationFault → Bool
  | .voidValue _ | .voidAlias _ | .unknownType _ => true
  | _ => false

/-- Sizes beyond all memory, functions with too many arguments and enumerators that are no members end a registration;
all else costs only the declaration at hand. -/
def isContained : RegistrationFault → Bool
  | .native .lengthTooLarge | .native .arrayTooLarge | .native (.tooManyArguments _)
  | .enumeration (.noMember _) => false
  | _ => true

end RegistrationFault

/-- What was done before a fault stays done. -/
abbrev Register := ExceptT RegistrationFault (StateM Registry)

namespace Register

def write (level : LogLevel) (message : String) : Register Unit :=
  modify fun r => { r with log := r.log ++ [⟨level, .registration, message⟩] }

def note (message : String) : Register Unit := do
  if (← get).quiet then return else write .info message

def onClasses {α : Type} (work : ClassWork α) : Register α := do
  let (result, classes) := work.run (← get).classes
  modify fun r => { r with classes }
  match result with
  | .ok a => return a
  | .error f => throw (.native f)

def bind (name : String) (b : Binding) : Register Unit :=
  modify fun r => { r with names := r.names.insert name b }

/-- Says so if a name is taken. -/
def isTaken (name : String) : Register Bool := do
  if (← get).names.has name then
    note ("Skipping " ++ name ++ ": already defined")
    return true
  return false

end Register

end CBindings
