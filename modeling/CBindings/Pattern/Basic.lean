import CBindings.Text.Alphanumeric
import CBindings.Text.Blank
import CBindings.Text.Counterpart
import CBindings.Text.Digit

/-! Regular expressions with groups, back references, look-around and three kinds of repetition. -/
namespace CBindings.Pattern

structure Flags where
  ignoreCase : Bool := false
  multiline : Bool := false
  dotAll : Bool := false
  verbose : Bool := false
  ascii : Bool := false
  unicode : Bool := false
  template : Bool := false
deriving DecidableEq, Repr

namespace Flags

def combine (f : Bool → Bool → Bool) (a b : Flags) : Flags where
  ignoreCase := f a.ignoreCase b.ignoreCase
  multiline := f a.multiline b.multiline
  dotAll := f a.dotAll b.dotAll
  verbose := f a.verbose b.verbose
  ascii := f a.ascii b.ascii
  unicode := f a.unicode b.unicode
  template := f a.template b.template

def union (a b : Flags) : Flags := combine (· || ·) a b

def diff (a b : Flags) : Flags := combine (fun x y => x && !y) a b

def meets (a b : Flags) : Bool := combine (· && ·) a b != {}

/-- The flags inside a group; naming an alphabet replaces the one outside. -/
def within (outer on off : Flags) : Flags :=
  let base := if on.ascii || on.unicode then { outer with ascii := false, unicode := false } else outer
  (base.union on).diff off

end Flags

inductive Category where
  | digit
  | space
  | word
deriving DecidableEq, Repr

/-- A member of a character set. Code points need not be characters: a surrogate matches nothing. -/
inductive Member where
  | code (n : Nat)
  | range (first last : Nat)
  | category (c : Category) (negated : Bool)
deriving DecidableEq, Repr

inductive CharTest where
  | any
  | oneOf (negated : Bool) (members : List Member)
deriving DecidableEq, Repr

inductive Anchor where
  | lineStart
  | lineEnd
  | textStart
  | textEnd
  | boundary
  | noBoundary
deriving DecidableEq, Repr

inductive Greed where
  | greedy
  | lazy
  | possessive
deriving DecidableEq, Repr

/-- One item of a pattern; a list of items is their sequence. -/
inductive Item where
  | char (test : CharTest)
  | anchor (a : Anchor)
  | choice (branches : List (List Item))
  | group (index : Option Nat) (on off : Flags) (body : List Item)
  | atomic (body : List Item)
  | loop (greed : Greed) (least : Nat) (most : Option Nat) (body : List Item)
  | look (behind negated : Bool) (body : List Item)
  | reference (group : Nat)
  | conditional (group : Nat) (yes : List Item) (no : Option (List Item))
deriving Repr

def Category.holds (c : Category) (ascii : Bool) (x : Char) : Bool :=
  match c, ascii with
  | .digit, true => x.isDigit
  | .digit, false => Text.isDecimal x
  | .space, true => Text.isPlainBlank x
  | .space, false => Text.isBlank x
  | .word, true => x.isAlphanum || x == '_'
  | .word, false => Text.isWord x

def Member.accepts (ascii : Bool) (n : Nat) : Member → Bool
  | .code m => n == m
  | .range first last => first ≤ n && n ≤ last
  | .category c negated => c.holds ascii (Char.ofNat n) != negated

/-- Where case is ignored, a character is tested with all its counterparts, and only then negated. -/
def CharTest.accepts (flags : Flags) (c : Char) : CharTest → Bool
  | .any => flags.dotAll || c != '\n'
  | .oneOf negated members =>
    let candidates :=
      if !flags.ignoreCase then [c.toNat]
      else if flags.ascii then Text.asciiCounterparts c
      else Text.counterparts c
    (candidates.any fun n => members.any (·.accepts flags.ascii n)) != negated

/-- Least and greatest number of characters matched. -/
structure Width where
  least : Nat
  most : Nat
deriving DecidableEq, Repr

/-- Widths are counted up to here. -/
def widthLimit : Nat := Nat.pow 2 64

namespace Width

def zero : Width := ⟨0, 0⟩

def add (a b : Width) : Width := ⟨a.least + b.least, a.most + b.most⟩

def capped (a : Width) : Width := ⟨min a.least widthLimit, min a.most widthLimit⟩

def union (a b : Width) : Width := ⟨min a.least b.least, max a.most b.most⟩

def times (a : Width) (least : Nat) (most : Option Nat) : Width :=
  ⟨a.least * least, match most with
    | some n => a.most * n
    | none => if a.most = 0 then 0 else widthLimit⟩

end Width

mutual
/-- `groups` holds the widths of the groups that are closed already, by index. -/
def Item.width (groups : List (Option Width)) : Item → Width
  | .char _ => ⟨1, 1⟩
  | .anchor _ => .zero
  | .choice branches => choiceWidth groups branches
  | .group _ _ _ body => sequenceWidth groups body
  | .atomic body => sequenceWidth groups body
  | .loop _ least most body => (sequenceWidth groups body).times least most
  | .look _ _ _ => .zero
  | .reference g => ((groups[g]?).join).getD .zero
  | .conditional _ yes none => ⟨0, (sequenceWidth groups yes).most⟩
  | .conditional _ yes (some no) => (sequenceWidth groups yes).union (sequenceWidth groups no)

def sumWidth (groups : List (Option Width)) : List Item → Width
  | [] => .zero
  | i :: rest => (i.width groups).add (sumWidth groups rest)

def sequenceWidth (groups : List (Option Width)) : List Item → Width
  | [] => .zero
  | i :: rest => ((i.width groups).add (sumWidth groups rest)).capped

def choiceWidth (groups : List (Option Width)) : List (List Item) → Width
  | [] => ⟨widthLimit, 0⟩
  | b :: rest => (sequenceWidth groups b).union (choiceWidth groups rest)
end

end CBindings.Pattern
