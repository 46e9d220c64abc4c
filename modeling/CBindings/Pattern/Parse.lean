import CBindings.Number.Reading
import CBindings.Pattern.Basic
import CBindings.Pattern.Fault
import CBindings.Text.CharacterName
import CBindings.Text.Identifier

/-! Reading a pattern. The text is taken in tokens, a backslash together with the character after it, and
one token ahead: a backslash at the end is found as soon as the token before it is taken. -/
namespace CBindings.Pattern

inductive Token where
  | plain (c : Char)
  | escaped (c : Char)
deriving DecidableEq, Repr

def Token.chars : Token → List Char
  | .plain c => [c]
  | .escaped c => ['\\', c]

def Token.text (t : Token) : String := String.ofList t.chars

def Token.length (t : Token) : Nat := t.chars.length

structure Reading where
  rest : List Char
  position : Nat := 0
  flags : Flags := {}
  names : List (String × Nat) := []
  /-- Widths of the groups by index; an open group has none yet, and neither has the whole pattern. -/
  groups : List (Option Width) := [none]
  /-- How many groups there were where the outermost open look-behind starts. -/
  lookBehind : Option Nat := none
  /-- Groups that conditions name by number, and where. -/
  conditions : List (Nat × Nat) := []

abbrev Read := StateT Reading (Except Fault)

/-- Fails `back` characters before the next token. -/
def refuse {α : Type} (cause : Cause) (back : Nat) : Read α := do
  throw (.malformed cause ((← get).position - back))

def tokenOf : List Char → Option Token
  | [] => none
  | '\\' :: c :: _ => some (.escaped c)
  | c :: _ => some (.plain c)

def peek : Read (Option Token) := return tokenOf (← get).rest

def startAt (rest : List Char) (position : Nat) : Read Unit := do
  if rest == ['\\'] then throw (.malformed .escapeAtEnd position)
  modify fun s => { s with rest, position }

def next : Read (Option Token) := do
  let s ← get
  match tokenOf s.rest with
  | none => return none
  | some t =>
    startAt (s.rest.drop t.length) (s.position + t.length)
    return some t

def accept (c : Char) : Read Bool := do
  if (← peek) == some (.plain c) then
    discard next
    return true
  return false

/-- At most `n` characters of a class. -/
def takeSome (p : Char → Bool) : Nat → Read (List Char)
  | 0 => return []
  | n + 1 => do
    match ← peek with
    | some (.plain c) =>
      if p c then
        discard next
        return c :: (← takeSome p n)
      else return []
    | _ => return []

def takeAll (p : Char → Bool) : Read (List Char) := do takeSome p (← get).rest.length

def takeName (terminator : Char) (what : String) : Nat → List Char → Read (List Char)
  | 0, name => return name
  | fuel + 1, name => do
    match ← next with
    | none =>
      if name.isEmpty then refuse (.missing what) 0 else refuse (.unterminatedName terminator) name.length
    | some t =>
      if t == .plain terminator then
        if name.isEmpty then refuse (.missing what) 1 else return name
      else takeName terminator what fuel (name ++ t.chars)

def takeUntil (terminator : Char) (what : String) : Read (List Char) := do
  takeName terminator what ((← get).rest.length + 1) []

def isOctal (c : Char) : Bool := '0' ≤ c && c ≤ '7'

/-- A character or a class; an escape may also be an anchor or a reference, outside of sets only. -/
inductive Escape where
  | code (n : Nat)
  | category (c : Category) (negated : Bool)
deriving DecidableEq, Repr

def controlEscape? : Char → Option Nat
  | 'a' => some 7
  | 'b' => some 8
  | 'f' => some 12
  | 'n' => some 10
  | 'r' => some 13
  | 't' => some 9
  | 'v' => some 11
  | '\\' => some 92
  | _ => none

def categoryEscape? : Char → Option (Category × Bool)
  | 'd' => some (.digit, false)
  | 'D' => some (.digit, true)
  | 's' => some (.space, false)
  | 'S' => some (.space, true)
  | 'w' => some (.word, false)
  | 'W' => some (.word, true)
  | _ => none

def anchorEscape? : Char → Option Anchor
  | 'A' => some .textStart
  | 'b' => some .boundary
  | 'B' => some .noBoundary
  | 'Z' => some .textEnd
  | _ => none

def refuseEscape {α : Type} (cause : String → Cause) (digits : List Char) (c : Char) : Read α :=
  refuse (cause (String.ofList ('\\' :: c :: digits))) (digits.length + 2)

def hexEscape (c : Char) (count : Nat) : Read Nat := do
  let digits ← takeSome Number.isHexDigit count
  if digits.length != count then refuseEscape .incompleteEscape digits c
  let n := Number.digitsValue 16 digits
  if n ≥ 0x110000 then refuseEscape .badEscape digits c
  return n

def namedEscape : Read Nat := do
  if !(← accept '\x7b') then refuse .braceExpected 0
  let name ← takeUntil '\x7d' "character name"
  match Text.characterNamed? name with
  | some c => return c.toNat
  | none => refuse (.undefinedCharacter (String.ofList name)) (name.length + 4)

/-- The escapes that are the same in a set and outside. -/
def plainEscape (c : Char) : Read Nat :=
  match c with
  | 'x' => hexEscape c 2
  | 'u' => hexEscape c 4
  | 'U' => hexEscape c 8
  | 'N' => namedEscape
  | _ => if c.isAlphanum then refuseEscape .badEscape [] c else return c.toNat

def setEscape (c : Char) : Read Escape := do
  if let some n := controlEscape? c then return .code n
  if let some (k, negated) := categoryEscape? c then return .category k negated
  if isOctal c then
    let more ← takeSome isOctal 2
    let n := Number.digitsValue 8 (c :: more)
    if n > 255 then refuseEscape .octalTooLarge more c
    return .code n
  return .code (← plainEscape c)

def isClosed (s : Reading) (group : Nat) : Bool := ((s.groups[group]?).join).isSome

def refuseInLookBehind (group : Nat) : Read Unit := do
  let s ← get
  if let some known := s.lookBehind then
    if !isClosed s group then refuse .openGroup 0
    if group ≥ known then refuse .groupOfSameLookBehind 0

/-- A reference to a group, or an octal escape if there are three octal digits. -/
def numberEscape (c : Char) : Read Item := do
  let more ← takeSome Char.isDigit 1
  if isOctal c && more.any isOctal then
    let third ← takeSome isOctal 1
    if !third.isEmpty then
      let n := Number.digitsValue 8 (c :: more ++ third)
      if n > 255 then refuseEscape .octalTooLarge (more ++ third) c
      return .char (.oneOf false [.code n])
  let group := Number.digitsValue 10 (c :: more)
  let s ← get
  if group < s.groups.length then
    if !isClosed s group then refuse .openGroup (more.length + 2)
    refuseInLookBehind group
    return .reference group
  refuse (.noSuchGroup group) (more.length + 1)

def escape (c : Char) : Read Item := do
  if let some a := anchorEscape? c then return .anchor a
  if let some (k, negated) := categoryEscape? c then return .char (.oneOf false [.category k negated])
  if let some n := controlEscape? c then return .char (.oneOf false [.code n])
  if c == '0' then
    let more ← takeSome isOctal 2
    return .char (.oneOf false [.code (Number.digitsValue 8 more)])
  if c.isDigit then numberEscape c
  else return .char (.oneOf false [.code (← plainEscape c)])

def Escape.member : Escape → Member
  | .code n => .code n
  | .category c negated => .category c negated

def setMember : Token → Read Escape
  | .plain c => return .code c.toNat
  | .escaped c => setEscape c

/-- The members of a set up to its closing bracket; `here` is where the set starts. -/
def readMembers (here : Nat) : Nat → List Member → Read (List Member)
  | 0, members => return members
  | fuel + 1, members => do
    let some this ← next | refuse .unterminatedSet ((← get).position - here)
    if this == .plain ']' && !members.isEmpty then return members
    let first ← setMember this
    if !(← accept '-') then return ← readMembers here fuel (members ++ [first.member])
    let some that ← next | refuse .unterminatedSet ((← get).position - here)
    if that == .plain ']' then return members ++ [first.member, .code '-'.toNat]
    let last ← setMember that
    match first, last with
    | .code lo, .code hi =>
      if hi < lo then refuse (.badRange this.text that.text) (this.length + 1 + that.length)
      readMembers here fuel (members ++ [.range lo hi])
    | _, _ => refuse (.badRange this.text that.text) (this.length + 1 + that.length)

def readSet : Read Item := do
  let s ← get
  let negated ← accept '^'
  return .char (.oneOf negated (← readMembers (s.position - 1) (s.rest.length + 1) []))

/-- Bounds must stay below this. -/
def repeatLimit : Nat := 4294967295

def bound? (digits : List Char) : Read (Option Nat) := do
  if digits.isEmpty then return none
  let n := Number.digitsValue 10 digits
  if n ≥ repeatLimit then throw .repetitionTooLarge
  return some n

/-- The bounds in braces, after the opening one; nothing is taken if no bounds are there. -/
def readBounds : Read (Option (Nat × Option Nat)) := do
  let s ← get
  if (← peek) == some (.plain '\x7d') then return none
  let lo ← takeAll Char.isDigit
  let hi ← if ← accept ',' then takeAll Char.isDigit else pure lo
  if !(← accept '\x7d') then
    startAt s.rest s.position
    return none
  let least := (← bound? lo).getD 0
  let most ← bound? hi
  if let some m := most then
    if m < least then refuse .boundsReversed ((← get).position - s.position)
  return some (least, most)

def isAlphabetic (c : Char) : Bool := Text.isAlphanumeric c && !Text.isDigit c

def flagOf? : Char → Option Flags
  | 'i' => some { ignoreCase := true }
  | 'm' => some { multiline := true }
  | 's' => some { dotAll := true }
  | 'x' => some { verbose := true }
  | 'a' => some { ascii := true }
  | 't' => some { template := true }
  | 'u' => some { unicode := true }
  | 'L' => some {}
  | _ => none

/-- The flags turned on, and the character after them; the first letter is taken already. -/
def flagsOn : Nat → Char → Flags → Read (Flags × Char)
  | 0, c, flags => return (flags, c)
  | fuel + 1, c, flags => do
    if c == 'L' then refuse .localeFlag 0
    let flags := flags.union ((flagOf? c).getD {})
    if flags.ascii && flags.unicode then refuse .alphabetFlags 0
    match ← next with
    | none => refuse .flagsEndExpected 0
    | some (.escaped _) => refuse .flagsEndExpected 2
    | some (.plain d) =>
      if d == ')' || d == '-' || d == ':' then return (flags, d)
      if (flagOf? d).isSome then flagsOn fuel d flags
      else refuse (if isAlphabetic d then .unknownFlag else .flagsEndExpected) 1

/-- The flags turned off, up to the colon. -/
def flagsOff : Nat → Bool → Flags → Read Flags
  | 0, _, flags => return flags
  | fuel + 1, any, flags => do
    let expected := if any then Cause.colonExpected else .flagExpected
    match ← next with
    | none => refuse expected 0
    | some (.escaped _) => refuse expected 2
    | some (.plain c) =>
      if any && c == ':' then return flags
      match flagOf? c with
      | none => refuse (if isAlphabetic c then .unknownFlag else expected) 1
      | some f =>
        if f.ascii || f.unicode || c == 'L' then refuse .alphabetFlagOff 0
        flagsOff fuel true (flags.union f)

/-- Flags of a group, or none if they hold for the whole pattern. -/
def readFlags (c : Char) : Read (Option (Flags × Flags)) := do
  let fuel := (← get).rest.length + 1
  let (on, c) ← if c == '-' then pure (({} : Flags), c) else flagsOn fuel c {}
  if c == ')' then
    modify fun s => { s with flags := s.flags.union on }
    return none
  if on.template then refuse .globalFlagOn 1
  let off ← if c == '-' then flagsOff fuel false {} else pure {}
  if off.template then refuse .globalFlagOff 1
  if on.meets off then refuse .flagOnAndOff 1
  return some (on, off)

def openGroup (name : Option String) : Read Nat := do
  let s ← get
  let index := s.groups.length
  if let some n := name then
    if let some earlier := s.names.lookup n then
      refuse (.groupRedefined n index earlier) (n.length + 1)
  set { s with
    groups := s.groups ++ [none]
    names := match name with
      | some n => s.names ++ [(n, index)]
      | none => s.names }
  return index

def closeGroup (index : Nat) (body : List Item) : Read Unit :=
  modify fun s => { s with groups := s.groups.set index (some (sequenceWidth s.groups body)) }

def groupName (terminator : Char) : Read String := do
  let name ← takeUntil terminator "group name"
  if !Text.isName name then refuse (.badGroupName (String.ofList name)) (name.length + 1)
  return String.ofList name

/-- The group that a condition asks for, by name or by number. -/
def condition : Read Nat := do
  let name ← takeUntil ')' "group name"
  let back := name.length + 1
  let text := String.ofList name
  let group ← if Text.isName name then
      match (← get).names.lookup text with
      | some g => pure g
      | none => refuse (.unknownGroup text) back
    else match Number.readInteger 10 name with
      | none => refuse (.badGroupName text) back
      | some n => do
        if n < 0 then refuse (.badGroupName text) back
        if n == 0 then refuse .groupZero back
        if n ≥ 1073741823 then refuse (.noSuchGroup n.toNat) back
        let s ← get
        if (s.conditions.lookup n.toNat).isNone then
          set { s with conditions := s.conditions ++ [(n.toNat, s.position - back)] }
        pure n.toNat
  refuseInLookBehind group
  return group

/-- A comment in parentheses; `start` is where it begins. -/
def skipComment (start : Nat) : Nat → Read Unit
  | 0 => return
  | fuel + 1 => do
    match ← next with
    | none => refuse .unterminatedComment ((← get).position - start)
    | some t => if t == .plain ')' then return else skipComment start fuel

def skipLine : Nat → Read Unit
  | 0 => return
  | fuel + 1 => do
    match ← next with
    | none => return
    | some t => if t == .plain '\n' then return else skipLine fuel

def closeParenthesis (start : Nat) : Read Unit := do
  if !(← accept ')') then refuse .unterminatedGroup ((← get).position - start)

def readGreed : Read Greed := do
  if ← accept '?' then return .lazy
  if ← accept '+' then return .possessive
  return .greedy

/-- Repeats the last item; `here` is where the sign of repetition stands. -/
def repeatLast (here : Nat) (least : Nat) (most : Option Nat) (items : List Item) : Read (List Item) := do
  let back := (← get).position - here
  match items with
  | [] | .anchor _ :: _ => refuse .nothingToRepeat back
  | .loop .. :: _ => refuse .repeatedRepeat back
  | item :: rest =>
    return .loop (← readGreed) least most [item] :: rest

/-- What the characters after an opening parenthesis and a question mark announce. -/
inductive Opening where
  | group (name : Option String)
  | plain (on off : Flags)
  | atomic
  | look (behind negated : Bool)
  | conditional
  | reference (group : Nat)
  | comment
  | globalFlags

def namedReference : Read Nat := do
  let name ← groupName ')'
  let s ← get
  match s.names.lookup name with
  | none => refuse (.unknownGroup name) (name.length + 1)
  | some g =>
    if !isClosed s g then refuse .openGroup (name.length + 1)
    refuseInLookBehind g
    return g

def expectToken : Read Token := do
  match ← next with
  | some t => return t
  | none => refuse .endOfPattern 0

def opening : Read Opening := do
  if !(← accept '?') then return .group none
  let t ← expectToken
  match t with
  | .plain 'P' =>
    if ← accept '<' then return .group (some (← groupName '>'))
    if ← accept '=' then return .reference (← namedReference)
    let t ← expectToken
    refuse (.unknownExtension ("P" ++ t.text)) (t.length + 2)
  | .plain ':' => return .plain {} {}
  | .plain '#' => return .comment
  | .plain '=' => return .look false false
  | .plain '!' => return .look false true
  | .plain '<' =>
    let t ← expectToken
    match t with
    | .plain '=' => return .look true false
    | .plain '!' => return .look true true
    | _ => refuse (.unknownExtension ("<" ++ t.text)) (t.length + 2)
  | .plain '(' => return .conditional
  | .plain '>' => return .atomic
  | .plain c =>
    if (flagOf? c).isSome || c == '-' then
      match ← readFlags c with
      | none => return .globalFlags
      | some (on, off) => return .plain on off
    else refuse (.unknownExtension t.text) 2
  | .escaped _ => refuse (.unknownExtension t.text) 3

def choiceOf : List (List Item) → List Item
  | [branch] => branch
  | branches => [.choice branches]

/- `items` are the items read so far, the last one first. The whole pattern is `top`, and `first` holds in
its first branch, the only place where flags for all of it may stand. -/
mutual
def readBranches : Nat → Bool → Bool → List (List Item) → Read (List Item)
  | 0, _, _, branches => return choiceOf branches
  | fuel + 1, verbose, top, branches => do
    let branch ← readItems fuel verbose (top && branches.isEmpty) []
    let branches := branches ++ [branch]
    if ← accept '|' then
      let flags := (← get).flags
      readBranches fuel (if top then flags.verbose else verbose) top branches
    else return choiceOf branches

def readItems : Nat → Bool → Bool → List Item → Read (List Item)
  | 0, _, _, items => return items.reverse
  | fuel + 1, verbose, first, items => do
    let here := (← get).position
    match ← peek with
    | none | some (.plain '|') | some (.plain ')') => return items.reverse
    | some (.escaped c) =>
      discard next
      readItems fuel verbose first ((← escape c) :: items)
    | some (.plain c) =>
      discard next
      if verbose && Text.isPlainBlank c then readItems fuel verbose first items
      else if verbose && c == '#' then do
        skipLine ((← get).rest.length + 1)
        readItems fuel verbose first items
      else match c with
        | '[' => readItems fuel verbose first ((← readSet) :: items)
        | '?' => readItems fuel verbose first (← repeatLast here 0 (some 1) items)
        | '*' => readItems fuel verbose first (← repeatLast here 0 none items)
        | '+' => readItems fuel verbose first (← repeatLast here 1 none items)
        | '\x7b' =>
          match ← readBounds with
          | none => readItems fuel verbose first (.char (.oneOf false [.code c.toNat]) :: items)
          | some (least, most) => readItems fuel verbose first (← repeatLast here least most items)
        | '.' => readItems fuel verbose first (.char .any :: items)
        | '^' => readItems fuel verbose first (.anchor .lineStart :: items)
        | '$' => readItems fuel verbose first (.anchor .lineEnd :: items)
        | '(' =>
          match ← opening with
          | .globalFlags =>
            if !first || !items.isEmpty then refuse .lateFlags ((← get).position - here)
            readItems fuel (← get).flags.verbose first items
          | .comment =>
            skipComment here ((← get).rest.length + 1)
            readItems fuel verbose first items
          | .reference g => readItems fuel verbose first (.reference g :: items)
          | .look behind negated =>
            let outer := (← get).lookBehind
            if behind && outer.isNone then
              modify fun s => { s with lookBehind := some s.groups.length }
            let body ← readBranches fuel verbose false []
            if behind then modify fun s => { s with lookBehind := outer }
            closeParenthesis here
            readItems fuel verbose first (.look behind negated body :: items)
          | .conditional =>
            let group ← condition
            let yes ← readItems fuel verbose false []
            let no ← if ← accept '|' then do
                let no ← readItems fuel verbose false []
                if (← peek) == some (.plain '|') then refuse .manyBranches 0
                pure (some no)
              else pure none
            closeParenthesis here
            readItems fuel verbose first (.conditional group yes no :: items)
          | .atomic =>
            let body ← readBranches fuel verbose false []
            closeParenthesis here
            readItems fuel verbose first (.atomic body :: items)
          | .plain on off =>
            let body ← readBranches fuel ((verbose || on.verbose) && !off.verbose) false []
            closeParenthesis here
            readItems fuel verbose first (.group none on off body :: items)
          | .group name =>
            let index ← openGroup name
            let body ← readBranches fuel verbose false []
            closeParenthesis here
            closeGroup index body
            readItems fuel verbose first (.group (some index) {} {} body :: items)
        | _ => readItems fuel verbose first (.char (.oneOf false [.code c.toNat]) :: items)
end

/- Every call above takes a token first or is entered at most once per token, so twice the length is fuel
enough. -/
def readPattern : Read (List Item) := do
  let s ← get
  startAt s.rest 0
  let items ← readBranches (2 * s.rest.length + 2) false true []
  let s ← get
  if s.flags.ascii && s.flags.unicode then throw .alphabetsConflict
  if !s.rest.isEmpty then refuse .unbalanced 0
  for (group, position) in s.conditions do
    if group ≥ s.groups.length then throw (.malformed (.noSuchGroup group) position)
  return items

def Greed.name : Greed → String
  | .greedy => "MAX_REPEAT"
  | .lazy => "MIN_REPEAT"
  | .possessive => "POSSESSIVE_REPEAT"

mutual
/-- Looking behind needs to know how far, and a template repeats nothing. -/
def Item.check (template : Bool) (groups : List (Option Width)) : Item → Except Fault Unit
  | .char _ | .anchor _ | .reference _ => .ok ()
  | .choice branches => checkBranches template groups branches
  | .group _ _ _ body => checkItems template groups body
  | .atomic body => checkItems template groups body
  | .loop greed _ _ body =>
    if template then .error (.repeatInTemplate greed.name) else checkItems template groups body
  | .look behind _ body =>
    let w := sequenceWidth groups body
    if behind && w.least ≥ Nat.pow 2 32 then .error .longLookBehind
    else if behind && w.least != w.most then .error .variableLookBehind
    else checkItems template groups body
  | .conditional _ yes no => do
    checkItems template groups yes
    match no with
    | none => .ok ()
    | some no => checkItems template groups no

def checkItems (template : Bool) (groups : List (Option Width)) : List Item → Except Fault Unit
  | [] => .ok ()
  | i :: rest => do
    i.check template groups
    checkItems template groups rest

def checkBranches (template : Bool) (groups : List (Option Width)) : List (List Item) → Except Fault Unit
  | [] => .ok ()
  | b :: rest => do
    checkItems template groups b
    checkBranches template groups rest
end

end CBindings.Pattern
