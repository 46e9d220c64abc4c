import CBindings.Extraction
import CBindings.Registry.Register
import CBindings.Text.Alphanumeric

/-! Headers to a namespace in one step: extraction, then registration. -/
namespace CBindings

/-- The name of a header in the name of a module: no brackets, directories or extension. -/
def headerModuleName (header : String) : String :=
  let base := Text.afterLast '/' (Text.strip (fun c => c == '<' || c == '>') header.toList)
  String.ofList ((Text.beforeLast '.' base).map fun c => if Text.isAlphanumeric c then c else '_')

def moduleName (headers : List String) : String := "cinclude_" ++ Text.join "_" (headers.map headerModuleName)

/-- Names that every module has. -/
def moduleNames : List String := ["__name__", "__doc__", "__package__", "__loader__", "__spec__"]

/-- The names of a new module; only its own name is known. -/
def Namespace.ofModule (name : String) : Namespace :=
  moduleNames.map fun n => (n, .value (if n == "__name__" then .text name else .none))

inductive LoadFault where
  | extraction (f : Extraction.Fault)
  | registration (f : RegistrationFault)
deriving DecidableEq, Repr

def LoadFault.message : LoadFault → String
  | .extraction f => f.message
  | .registration f => f.message

/-- Registers what a request asks for in a registry that may hold names already. It is as quiet as the request, and the
messages of this registration join those of the session. -/
def loadInto (t : Toolchain) (r : Request) (registry : Registry) : Work (Except LoadFault Registry) := do
  match ← Extraction.run t r with
  | .error f => return .error (.extraction f)
  | .ok ds =>
    let (result, after) := (Register.register ds).run { registry with quiet := r.quiet, log := [] }
    modify fun s => { s with log := s.log ++ after.log }
    return match result with
      | .ok _ => .ok after
      | .error f => .error (.registration f)

/-- Registers what a request asks for among names that are there already. -/
def load (t : Toolchain) (r : Request) (names : Namespace) : Work (Except LoadFault Registry) :=
  loadInto t r { names }

end CBindings
