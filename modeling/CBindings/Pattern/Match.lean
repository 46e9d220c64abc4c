import CBindings.Pattern.Parse

/-! Matching by backtracking. A matcher takes a place in the text and what has to match after it, and gives
the place where all of it ended, alternatives tried in order. -/
namespace CBindings.Pattern

/-- A place in the text, with what the groups matched on the way to it. -/
structure Place where
  /-- The characters before, the nearest first. -/
  before : List Char
  after : List Char
  captures : List (Nat × List Char)
deriving DecidableEq, Repr

namespace Place

def start (text : List Char) : Place := ⟨[], text, []⟩

def position (p : Place) : Nat := p.before.length

def forward (p : Place) : Option (Char × Place) :=
  match p.after with
  | [] => none
  | c :: rest => some (c, { p with before := c :: p.before, after := rest })

def back (p : Place) : Nat → Option Place
  | 0 => some p
  | n + 1 =>
    match p.before with
    | [] => none
    | c :: rest => back { p with before := rest, after := c :: p.after } n

/-- The text passed from `p` to `q`. -/
def upTo (p q : Place) : List Char := p.after.take (q.position - p.position)

def capture (p : Place) (group : Nat) (text : List Char) : Place :=
  { p with captures := (group, text) :: p.captures.filter (·.1 != group) }

end Place

abbrev Continue := Place → Option Place

/-- Matches some items once, and then the rest. -/
abbrev Step := Place → Continue → Option Place

def Anchor.holds (flags : Flags) (p : Place) : Anchor → Bool
  | .textStart => p.before.isEmpty
  | .lineStart => p.before.isEmpty || (flags.multiline && p.before.head? == some '\n')
  | .textEnd => p.after.isEmpty
  | .lineEnd => p.after.isEmpty || p.after == ['\n'] || (flags.multiline && p.after.head? == some '\n')
  | .boundary => atBoundary
  | .noBoundary => !(p.before.isEmpty && p.after.isEmpty) && !atBoundary
where
  atBoundary : Bool :=
    p.before.head?.any (Category.word.holds flags.ascii) != p.after.head?.any (Category.word.holds flags.ascii)

def sameLetter (flags : Flags) (a b : Char) : Bool :=
  if !flags.ignoreCase then a == b
  else if flags.ascii then a.toLower == b.toLower
  else Text.lower a == Text.lower b

/-- Passes over a text that was matched before. -/
def follow (flags : Flags) : List Char → Place → Option Place
  | [], p => some p
  | c :: rest, p =>
    match p.forward with
    | some (d, q) => if sameLetter flags c d then follow flags rest q else none
    | none => none

/- A loop stops when its last round passed nothing. `last` is where that round began, once `least` rounds are
done; so the rounds number at most `least`, one for each character left, and one more. -/
def greedyLoop (step : Step) (least : Nat) (most : Option Nat) (k : Continue) :
    Nat → Nat → Option Nat → Place → Option Place
  | 0, _, _, _ => none
  | fuel + 1, count, last, p =>
    if count < least then step p (greedyLoop step least most k fuel (count + 1) last)
    else
      let more :=
        if most.all (count < ·) && last != some p.position then
          step p (greedyLoop step least most k fuel (count + 1) (some p.position))
        else none
      more <|> k p

def lazyLoop (step : Step) (least : Nat) (most : Option Nat) (k : Continue) :
    Nat → Nat → Option Nat → Place → Option Place
  | 0, _, _, _ => none
  | fuel + 1, count, last, p =>
    if count < least then step p (lazyLoop step least most k fuel (count + 1) last)
    else k p <|>
      if most.all (count < ·) && last != some p.position then
        step p (lazyLoop step least most k fuel (count + 1) (some p.position))
      else none

/-- Each round is settled before the next one, and nothing is given back. -/
def possessiveLoop (step : Step) (least : Nat) (most : Option Nat) (k : Continue) :
    Nat → Nat → Option Nat → Place → Option Place
  | 0, _, _, _ => none
  | fuel + 1, count, last, p =>
    if count < least then
      match step p some with
      | some q => possessiveLoop step least most k fuel (count + 1) last q
      | none => none
    else if most.all (count < ·) && last != some p.position then
      match step p some with
      | some q => possessiveLoop step least most k fuel (count + 1) (some p.position) q
      | none => k p
    else k p

def loop (greed : Greed) (step : Step) (least : Nat) (most : Option Nat) (p : Place) (k : Continue) :
    Option Place :=
  let rounds := least + p.after.length + 2
  match greed with
  | .greedy => greedyLoop step least most k rounds 0 none p
  | .lazy => lazyLoop step least most k rounds 0 none p
  | .possessive => possessiveLoop step least most k rounds 0 none p

mutual
def Item.run (groups : List (Option Width)) (flags : Flags) : Item → Place → Continue → Option Place
  | .char test, p, k =>
    match p.forward with
    | some (c, q) => if test.accepts flags c then k q else none
    | none => none
  | .anchor a, p, k => if a.holds flags p then k p else none
  | .choice branches, p, k => runBranches groups flags branches p k
  | .group none on off body, p, k => runItems groups (flags.within on off) body p k
  | .group (some index) on off body, p, k =>
    runItems groups (flags.within on off) body p fun q => k (q.capture index (p.upTo q))
  | .atomic body, p, k =>
    match runItems groups flags body p some with
    | some q => k q
    | none => none
  | .loop greed least most body, p, k => loop greed (runItems groups flags body) least most p k
  | .look behind negated body, p, k =>
    let from? := if behind then p.back (sequenceWidth groups body).least else some p
    match from?.bind fun q => runItems groups flags body q some with
    | some q => if negated then none else k { p with captures := q.captures }
    | none => if negated then k p else none
  | .reference group, p, k =>
    match (p.captures.lookup group).bind fun text => follow flags text p with
    | some q => k q
    | none => none
  | .conditional group yes no, p, k =>
    if (p.captures.lookup group).isSome then runItems groups flags yes p k
    else match no with
      | some no => runItems groups flags no p k
      | none => k p

def runItems (groups : List (Option Width)) (flags : Flags) : List Item → Place → Continue → Option Place
  | [], p, k => k p
  | i :: rest, p, k => i.run groups flags p fun q => runItems groups flags rest q k

def runBranches (groups : List (Option Width)) (flags : Flags) :
    List (List Item) → Place → Continue → Option Place
  | [], _, _ => none
  | b :: rest, p, k => runItems groups flags b p k <|> runBranches groups flags rest p k
end

def searchFrom (step : Step) : Nat → Place → Bool
  | 0, p => (step p some).isSome
  | n + 1, p =>
    (step p some).isSome ||
      match p.forward with
      | some (_, q) => searchFrom step n q
      | none => false

end CBindings.Pattern

namespace CBindings

/-- A pattern that can be searched for. -/
structure Pattern where
  items : List Pattern.Item
  flags : Pattern.Flags
  groups : List (Option Pattern.Width)

namespace Pattern

def compile (text : String) : Except Fault Pattern := do
  let (items, s) ← readPattern.run { rest := text.toList }
  checkItems s.flags.template s.groups items
  return { items, flags := s.flags, groups := s.groups }

/-- Whether the pattern matches anywhere in a text. -/
def occursIn (p : Pattern) (text : String) : Bool :=
  searchFrom (runItems p.groups p.flags p.items) text.length (.start text.toList)

end Pattern

end CBindings
