import CBindings.CommandLine.Run

/-! The program. Parsed headers and answers of compilers are not within its reach, so every header counts as one
that cannot be parsed. -/
namespace CBindings.CommandLine

/-- Messages that are worth a line, by the options. -/
def isShown (args : List String) (e : LogEntry) : Bool :=
  match parse args with
  | .error _ => false
  | .ok a =>
    if a.isOn .debug then true
    else if a.isOn .quiet then e.level == .warning || e.level == .error
    else e.level != .debug

def levelText : LogLevel → String
  | .debug => "DEBUG"
  | .info => "INFO"
  | .warning => "WARNING"
  | .error => "ERROR"

end CBindings.CommandLine

open CBindings in
def main (args : List String) : IO UInt32 := do
  let (outcome, session) := (CommandLine.run {} args).run {}
  let stderr ← IO.getStderr
  for e in session.log do
    if CommandLine.isShown args e then stderr.putStrLn (CommandLine.levelText e.level ++ ": " ++ e.message)
  match CommandLine.parse args, outcome.file with
  | .ok a, some text => IO.FS.writeFile ((a.last? .output).getD "-") text
  | _, _ => pure ()
  IO.print outcome.output
  stderr.putStr outcome.errors
  if let some c := outcome.crash then stderr.putStrLn c.message
  return outcome.code.toUInt32
