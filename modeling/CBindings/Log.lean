/-! Messages about the work done, by level and by the part that wrote them. -/
namespace CBindings

inductive LogLevel where
  | debug
  | info
  | warning
  | error
deriving DecidableEq, Repr

inductive LogSource where
  | collection
  | searchPath
  | probe
  | extraction
  | registration
  | parserLibrary
deriving DecidableEq, Repr

structure LogEntry where
  level : LogLevel
  source : LogSource
  message : String
deriving DecidableEq, Repr

abbrev Log := List LogEntry

end CBindings
