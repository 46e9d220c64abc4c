import CBindings.Failure
import CBindings.HeaderUnit.Basic
import CBindings.Log
import CBindings.Value

/-! The surroundings of an extraction: environment, files, the header parser, and the programs that are run.
What a program answers is not known before it is run, so answers are taken in the order of the runs. -/
namespace CBindings

structure Toolchain where
  environment : List (String × String) := []
  platform : String := "linux"
  files : List String := []
  /-- Headers that can be parsed, by path. -/
  units : List (String × HeaderUnit) := []
  evaluator : Evaluator := .refusing

namespace Toolchain

def setting (t : Toolchain) (name default : String) : String := (t.environment.lookup name).getD default

def isFile (t : Toolchain) (path : String) : Bool := t.files.contains path

def isDarwin (t : Toolchain) : Bool := t.platform == "darwin"

end Toolchain

/-- What ends a run and everything around it: an argument with a NUL in it, an output that is no text, or a source file
that cannot be written. -/
structure Uncaught where
  message : String
deriving DecidableEq, Repr

/-- How a run of a program ended: with a code, not started or not finished at all, or in a way that is not expected. -/
inductive RunOutcome where
  | exited (code : Int) (output errors : String)
  | unable (message : String)
  | uncaught (u : Uncaught)
deriving DecidableEq, Repr

structure ParseCall where
  path : String
  arguments : List String
  skipBodies : Bool
  /-- A file whose text was handed over instead of read. -/
  unsaved : Option String := none
  /-- The text handed over for it. -/
  text : Option String := none
deriving DecidableEq, Repr

structure CommandCall where
  arguments : List String
  /-- Text of the source file that was written for a compiler. -/
  source : Option String := none
deriving DecidableEq, Repr

/-- What happened so far, and how the outside will answer. -/
structure Session where
  checks : List (Option HeaderUnit) := []
  runs : List RunOutcome := []
  parses : List ParseCall := []
  commands : List CommandCall := []
  log : Log := []

inductive RunFault where
  | failed (command : List String) (code : Int) (errors : String)
  | unable (message : String)
  | uncaught (u : Uncaught)
deriving DecidableEq, Repr

def signalNames : List (Nat × String) :=
  [(1, "SIGHUP"), (2, "SIGINT"), (3, "SIGQUIT"), (4, "SIGILL"), (5, "SIGTRAP"), (6, "SIGABRT"), (7, "SIGBUS"),
   (8, "SIGFPE"), (9, "SIGKILL"), (10, "SIGUSR1"), (11, "SIGSEGV"), (12, "SIGUSR2"), (13, "SIGPIPE"),
   (14, "SIGALRM"), (15, "SIGTERM"), (16, "SIGSTKFLT"), (17, "SIGCHLD"), (18, "SIGCONT"), (19, "SIGSTOP"),
   (20, "SIGTSTP"), (21, "SIGTTIN"), (22, "SIGTTOU"), (23, "SIGURG"), (24, "SIGXCPU"), (25, "SIGXFSZ"),
   (26, "SIGVTALRM"), (27, "SIGPROF"), (28, "SIGWINCH"), (29, "SIGIO"), (30, "SIGPWR"), (31, "SIGSYS"),
   (34, "SIGRTMIN"), (64, "SIGRTMAX")]

/-- A negative code is the number of the signal that ended the program. -/
def endText (code : Int) : String :=
  if 0 ≤ code then "returned non-zero exit status " ++ toString code ++ "."
  else match signalNames.lookup code.natAbs with
    | some name => "died with <Signals." ++ name ++ ": " ++ toString code.natAbs ++ ">."
    | none => "died with unknown signal " ++ toString code.natAbs ++ "."

def RunFault.message : RunFault → String
  | .failed command code _ => "Command '" ++ Text.quoteList command ++ "' " ++ endText code
  | .unable message => message
  | .uncaught u => u.message

abbrev Work := StateM Session

namespace Session

def write (level : LogLevel) (source : LogSource) (message : String) : Work Unit :=
  modify fun s => { s with log := s.log ++ [⟨level, source, message⟩] }

/-- Output and errors of a program that ended well. A program beyond those foreseen ends well and silently. -/
def run (command : List String) (source : Option String) : Work (Except RunFault (String × String)) := do
  let s ← get
  modify fun s => { s with runs := s.runs.drop 1, commands := s.commands ++ [⟨command, source⟩] }
  match s.runs.head? with
  | none => return .ok ("", "")
  | some (.unable message) => return .error (.unable message)
  | some (.uncaught u) => return .error (.uncaught u)
  | some (.exited code output errors) =>
    return if code = 0 then .ok (output, errors) else .error (.failed command code errors)

def cannotParse (path : String) : Failure := .parse path "Error parsing translation unit."

/-- The unit of a header, none if it cannot be parsed. -/
def parse (t : Toolchain) (path : String) (arguments : List String) : Work (Option HeaderUnit) := do
  modify fun s => { s with parses := s.parses ++ [⟨path, arguments, true, none, none⟩] }
  return t.units.lookup path

/-- Parses a text under a file name, function bodies included. -/
def check (path text : String) (arguments : List String) : Work (Option HeaderUnit) := do
  let s ← get
  modify fun s =>
    { s with checks := s.checks.drop 1, parses := s.parses ++ [⟨path, arguments, false, some path, some text⟩] }
  return s.checks.head?.getD (some {})

end Session

end CBindings
