import CBindings.Failure
import CBindings.Pattern.Match

/-! Leaving out declarations by name. -/
namespace CBindings

/-- Names that match `drop` are left out, unless they match `keep`. -/
structure NameFilter where
  keep : Option Pattern := none
  drop : Option Pattern := none

/-- Enumerations stay: a name that was made up for one may match by accident. -/
def NameFilter.leavesOut (f : NameFilter) (name : String) (isEnumeration : Bool) : Bool :=
  !isEnumeration && f.drop.any (·.occursIn name) && !f.keep.any (·.occursIn name)

inductive FilterOption where
  | keep
  | drop
deriving DecidableEq, Repr

def FilterOption.text : FilterOption → String
  | .keep => "include"
  | .drop => "exclude"

structure FilterFault where
  option : FilterOption
  pattern : String
  fault : Pattern.Fault
deriving DecidableEq, Repr

namespace FilterFault

def reason (f : FilterFault) : String := f.fault.message f.pattern.toList

/-- Bounds and alphabets are no matter of the pattern's grammar. -/
def isGrammatical (f : FilterFault) : Bool :=
  match f.fault with
  | .repetitionTooLarge | .alphabetsConflict => false
  | _ => true

def failure (f : FilterFault) : Failure := .filter f.option.text f.pattern f.reason

def message (f : FilterFault) : String := if f.isGrammatical then f.failure.message else f.reason

end FilterFault

/-- The two patterns of a filter as they were given. -/
structure FilterTexts where
  keep : Option String := none
  drop : Option String := none
deriving DecidableEq, Repr

namespace FilterTexts

def compileOne (option : FilterOption) (text : Option String) : Except FilterFault (Option Pattern) :=
  match text with
  | none => .ok none
  | some pattern =>
    match Pattern.compile pattern with
    | .ok p => .ok (some p)
    | .error fault => .error ⟨option, pattern, fault⟩

def compile (t : FilterTexts) : Except FilterFault NameFilter := do
  let keep ← compileOne .keep t.keep
  let drop ← compileOne .drop t.drop
  return { keep, drop }

/-- An empty text leaves out nothing. -/
def dropText (t : FilterTexts) : Option String := t.drop.filter (· != "")

/-- A filter for which an empty `drop` stands for none at all. -/
def compileNonempty (t : FilterTexts) : Except FilterFault NameFilter := compile { t with drop := t.dropText }

/-- Patterns read only when a name gets to them: a name that is not dropped never meets `keep`. -/
def leavesOut (t : FilterTexts) (name : String) (isEnumeration : Bool) : Except FilterFault Bool := do
  if isEnumeration then return false
  let drop ← compileOne .drop t.dropText
  if !drop.any (·.occursIn name) then return false
  let keep ← compileOne .keep t.keep
  return !keep.any (·.occursIn name)

end FilterTexts

end CBindings
