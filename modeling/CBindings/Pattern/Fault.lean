import CBindings.Text.Quoted

/-! What can be wrong with the text of a pattern. -/
namespace CBindings.Pattern

inductive Cause where
  | escapeAtEnd
  | badEscape (text : String)
  | incompleteEscape (text : String)
  | octalTooLarge (text : String)
  | braceExpected
  | undefinedCharacter (name : String)
  | missing (what : String)
  | unterminatedName (terminator : Char)
  | openGroup
  | groupOfSameLookBehind
  | noSuchGroup (n : Nat)
  | unterminatedSet
  | badRange (first last : String)
  | boundsReversed
  | nothingToRepeat
  | repeatedRepeat
  | endOfPattern
  | badGroupName (name : String)
  | unknownGroup (name : String)
  | unknownExtension (text : String)
  | unterminatedComment
  | unterminatedGroup
  | groupZero
  | manyBranches
  | lateFlags
  | groupRedefined (name : String) (index earlier : Nat)
  | localeFlag
  | alphabetFlags
  | flagsEndExpected
  | unknownFlag
  | globalFlagOn
  | globalFlagOff
  | flagExpected
  | colonExpected
  | alphabetFlagOff
  | flagOnAndOff
  | unbalanced
deriving DecidableEq, Repr

def Cause.message : Cause → String
  | .escapeAtEnd => "bad escape (end of pattern)"
  | .badEscape text => "bad escape " ++ text
  | .incompleteEscape text => "incomplete escape " ++ text
  | .octalTooLarge text => "octal escape value " ++ text ++ " outside of range 0-0o377"
  | .braceExpected => "missing \x7b"
  | .undefinedCharacter name => "undefined character name " ++ Text.quote name
  | .missing what => "missing " ++ what
  | .unterminatedName terminator => "missing " ++ terminator.toString ++ ", unterminated name"
  | .openGroup => "cannot refer to an open group"
  | .groupOfSameLookBehind => "cannot refer to group defined in the same lookbehind subpattern"
  | .noSuchGroup n => "invalid group reference " ++ n.repr
  | .unterminatedSet => "unterminated character set"
  | .badRange first last => "bad character range " ++ first ++ "-" ++ last
  | .boundsReversed => "min repeat greater than max repeat"
  | .nothingToRepeat => "nothing to repeat"
  | .repeatedRepeat => "multiple repeat"
  | .endOfPattern => "unexpected end of pattern"
  | .badGroupName name => "bad character in group name " ++ Text.quote name
  | .unknownGroup name => "unknown group name " ++ Text.quote name
  | .unknownExtension text => "unknown extension ?" ++ text
  | .unterminatedComment => "missing ), unterminated comment"
  | .unterminatedGroup => "missing ), unterminated subpattern"
  | .groupZero => "bad group number"
  | .manyBranches => "conditional backref with more than two branches"
  | .lateFlags => "global flags not at the start of the expression"
  | .groupRedefined name index earlier =>
    "redefinition of group name " ++ Text.quote name ++ " as group " ++ index.repr ++ "; was group "
      ++ earlier.repr
  | .localeFlag => "bad inline flags: cannot use 'L' flag with a str pattern"
  | .alphabetFlags => "bad inline flags: flags 'a', 'u' and 'L' are incompatible"
  | .flagsEndExpected => "missing -, : or )"
  | .unknownFlag => "unknown flag"
  | .globalFlagOn => "bad inline flags: cannot turn on global flag"
  | .globalFlagOff => "bad inline flags: cannot turn off global flag"
  | .flagExpected => "missing flag"
  | .colonExpected => "missing :"
  | .alphabetFlagOff => "bad inline flags: cannot turn off flags 'a', 'u' and 'L'"
  | .flagOnAndOff => "bad inline flags: flag turned on and off"
  | .unbalanced => "unbalanced parenthesis"

inductive Fault where
  /-- The text is no pattern: why, and where. -/
  | malformed (cause : Cause) (position : Nat)
  | variableLookBehind
  | longLookBehind
  | repeatInTemplate (greedName : String)
  /-- A bound that does not fit a 32-bit word. -/
  | repetitionTooLarge
  /-- Two global flags name different alphabets. -/
  | alphabetsConflict
deriving DecidableEq, Repr

/-- Where in a text of several lines a position is; a text of one line needs no such words. -/
def lineAndColumn (pattern : List Char) (position : Nat) : String :=
  if pattern.contains '\n' then
    let before := pattern.take position
    " (line " ++ (before.count '\n' + 1).repr ++ ", column " ++ ((Text.afterLast '\n' before).length + 1).repr
      ++ ")"
  else ""

def Fault.message (pattern : List Char) : Fault → String
  | .malformed cause position =>
    cause.message ++ " at position " ++ position.repr ++ lineAndColumn pattern position
  | .variableLookBehind => "look-behind requires fixed-width pattern"
  | .longLookBehind => "looks too much behind"
  | .repeatInTemplate greedName => "internal: unsupported template operator " ++ greedName
  | .repetitionTooLarge => "the repetition number is too large"
  | .alphabetsConflict => "ASCII and UNICODE flags are incompatible"

end CBindings.Pattern
