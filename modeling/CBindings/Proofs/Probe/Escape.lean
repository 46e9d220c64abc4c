import CBindings.Proofs.Probe.ByName
import CBindings.Proofs.Probe.Segment
import Mathlib.Data.Nat.Digits.Defs

/-! The two ways in which a segment costs more than itself. A segment that cannot be read is passed over, except one
that gives a character by its number where the number has too many digits to be read or is no character's, and one that
starts with a string and goes on with something that the evaluator breaks off at. Reading the output then ends there,
whatever the other segments say. -/
namespace CBindings.Probe

/-- How `const NAME = VALUE` can be written: with blanks around it and around the `=`, at least one behind `const`. -/
structure Wording where
  before : List Char
  gap : List Char
  head : Char
  tail : List Char
  left : List Char
  right : List Char
  value : List Char
  after : List Char
  blank : ∀ c ∈ before ++ gap ++ left ++ right ++ after, Text.isBlank c = true
  apart : gap ≠ []
  starts : (head.isAlpha || head == '_') = true
  continues : ∀ c ∈ tail, Text.isWord c = true
  filled : value ≠ []
  snug : Text.Snug Text.isBlank value

namespace Wording

def name (w : Wording) : List Char := w.head :: w.tail

def behindName (w : Wording) : List Char := w.left ++ '=' :: (w.right ++ w.value)

def core (w : Wording) : List Char := "const".toList ++ (w.gap ++ (w.name ++ w.behindName))

def text (w : Wording) : List Char := w.before ++ (w.core ++ w.after)

end Wording

variable {c : Char} {segment name value : List Char}

section Words

theorem not_word_of_blank (blank : Text.isBlank c = true) : Text.isWord c = false := by
  have listed : (Text.blankRanges.flatMap fun r => List.range' r.1 (r.2 - r.1 + 1)).all
      (fun n => !Text.isWord (Char.ofNat n)) = true := by
    decide +kernel
  simp only [Text.isBlank, Text.inRanges, List.any_eq_true, Bool.and_eq_true, decide_eq_true_eq] at blank
  obtain ⟨r, inside, above, below⟩ := blank
  have member : c.toNat ∈ Text.blankRanges.flatMap fun r => List.range' r.1 (r.2 - r.1 + 1) := by
    rw [List.mem_flatMap]
    exact ⟨r, inside, List.mem_range'_1.mpr ⟨above, by omega⟩⟩
  have checked := List.all_eq_true.mp listed c.toNat member
  rw [Char.ofNat_toNat] at checked
  simpa using checked

theorem not_blank_of_start (starts : (c.isAlpha || c == '_') = true) : Text.isBlank c = false := by
  apply not_blank_of_alphanum
  simp only [Bool.or_eq_true] at starts ⊢
  rcases starts with letter | underscore
  · exact .inl (by simp [Char.isAlphanum, letter])
  · exact .inr underscore

end Words

namespace Wording

theorem core_snug (w : Wording) : Text.Snug Text.isBlank w.core := by
  constructor
  · intro c first
    have same : c = 'c' := (Option.some.inj first).symm
    rw [same]
    decide
  · intro c last
    have ends : w.core = "const".toList ++ (w.gap ++ (w.name ++ (w.left ++ '=' :: w.right))) ++ w.value := by
      simp [core, behindName]
    rw [ends, List.getLast?_append_of_ne_nil _ w.filled] at last
    exact w.snug.last c last

theorem behindName_head (w : Wording) : ∀ c, w.behindName.head? = some c → Text.isWord c = false := by
  intro c first
  cases blanks : w.left with
  | nil =>
    rw [behindName, blanks] at first
    rw [← Option.some.inj first]
    decide
  | cons b rest =>
    rw [behindName, blanks] at first
    rw [← Option.some.inj first]
    exact not_word_of_blank (w.blank b (by simp [blanks]))

theorem splitSegment_text (w : Wording) : splitSegment w.text = some (w.name, w.value) := by
  have trimmed : Text.trim w.text = w.core :=
    Text.strip_around w.core_snug (fun c inside => w.blank c (by simp [inside]))
      (fun c inside => w.blank c (by simp [inside]))
  have marked : "const".toList.isPrefixOf w.core = true := by
    rw [List.isPrefixOf_iff_prefix]
    exact List.prefix_append _ _
  have behindConst : w.core.drop 5 = w.gap ++ (w.head :: (w.tail ++ w.behindName)) := rfl
  have apart : (w.gap ++ (w.head :: (w.tail ++ w.behindName))).head?.any Text.isBlank = true := by
    obtain ⟨b, rest, blanks⟩ := List.exists_cons_of_ne_nil w.apart
    simpa [blanks] using w.blank b (by simp [blanks])
  have behindGap : dropBlanks (w.gap ++ (w.head :: (w.tail ++ w.behindName))) = w.head :: (w.tail ++ w.behindName) := by
    apply Text.dropWhile_run
    · exact fun c inside => w.blank c (by simp [inside])
    · intro c first
      exact Option.some.inj first ▸ not_blank_of_start w.starts
  have behindWord : (w.tail ++ w.behindName).dropWhile Text.isWord = w.behindName :=
    Text.dropWhile_run w.continues w.behindName_head
  have word : (w.tail ++ w.behindName).takeWhile Text.isWord = w.tail :=
    Text.takeWhile_run w.continues w.behindName_head
  have behindLeft : dropBlanks w.behindName = '=' :: (w.right ++ w.value) := by
    apply Text.dropWhile_run
    · exact fun c inside => w.blank c (by simp [inside])
    · intro c first
      rw [← Option.some.inj first]
      decide
  have behindRight : dropBlanks (w.right ++ w.value) = w.value :=
    Text.dropWhile_run (fun c inside => w.blank c (by simp [inside])) w.snug.head
  have whole : Text.trim w.value = w.value := Text.strip_eq_self w.snug
  have filled : w.value.isEmpty = false := by simpa using w.filled
  simp only [splitSegment, trimmed, marked, behindConst, behindGap, apart, w.starts, behindWord, behindLeft,
    behindRight, filled, word, whole, name, Bool.not_true, Bool.or_self, Bool.false_eq_true, if_false]

end Wording

theorem exists_blanks (s : List Char) : ∃ run, s = run ++ dropBlanks s ∧ ∀ c ∈ run, Text.isBlank c = true :=
  ⟨s.takeWhile Text.isBlank, List.takeWhile_append_dropWhile.symm, fun _ => List.mem_takeWhile_imp⟩

theorem splitSegment_steps (found : splitSegment segment = some (name, value)) :
    ∃ behindConst head behindHead behindEquals, Text.trim segment = "const".toList ++ behindConst ∧
      behindConst.head?.any Text.isBlank = true ∧ dropBlanks behindConst = head :: behindHead ∧
      (head.isAlpha || head == '_') = true ∧
      dropBlanks (behindHead.dropWhile Text.isWord) = '=' :: behindEquals ∧ dropBlanks behindEquals ≠ [] ∧
      name = head :: behindHead.takeWhile Text.isWord ∧ value = Text.trim (dropBlanks behindEquals) := by
  unfold splitSegment at found
  dsimp only at found
  split at found
  · cases found
  rename_i marked
  rw [Bool.not_eq_true, Bool.not_eq_false', List.isPrefixOf_iff_prefix] at marked
  obtain ⟨behindConst, marked⟩ := marked
  have same : (Text.trim segment).drop 5 = behindConst := by rw [← marked]; rfl
  rw [same] at found
  split at found
  · cases found
  rename_i head behindHead behindGap
  split at found
  · cases found
  rename_i fits
  simp only [Bool.or_eq_true, Bool.not_eq_true', not_or, Bool.not_eq_false] at fits
  split at found
  · rename_i behindEquals behindLeft
    split at found
    · cases found
    rename_i filled
    obtain ⟨rfl, rfl⟩ := Prod.mk.inj (Option.some.inj found)
    exact ⟨behindConst, head, behindHead, behindEquals, marked.symm, fits.1, behindGap, by simpa using fits.2,
      behindLeft, by simpa using filled, rfl, rfl⟩
  · cases found

/- Each step of the splitting names one more part of the wording. -/
theorem exists_wording (found : splitSegment segment = some (name, value)) :
    ∃ w : Wording, w.text = segment ∧ w.name = name ∧ w.value = value := by
  obtain ⟨before, after, around, blankBefore, blankAfter, snug⟩ := Text.exists_strip Text.isBlank segment
  change segment = before ++ (Text.trim segment ++ after) at around
  change Text.Snug Text.isBlank (Text.trim segment) at snug
  obtain ⟨behindConst, head, behindHead, behindEquals, marked, apart, behindGap, starts, behindLeft, filled, rfl,
    rfl⟩ := splitSegment_steps found
  obtain ⟨gap, cutGap, blankGap⟩ := exists_blanks behindConst
  obtain ⟨left, cutLeft, blankLeft⟩ := exists_blanks (behindHead.dropWhile Text.isWord)
  obtain ⟨right, cutRight, blankRight⟩ := exists_blanks behindEquals
  have cutWord := List.takeWhile_append_dropWhile (p := Text.isWord) (l := behindHead)
  have whole : Text.trim segment = "const".toList ++ (gap ++ (head :: behindHead.takeWhile Text.isWord ++
      (left ++ '=' :: (right ++ dropBlanks behindEquals)))) := by
    rw [marked, cutGap, behindGap, ← cutRight, ← behindLeft, ← cutLeft, List.cons_append, cutWord]
  have valueSnug : Text.Snug Text.isBlank (dropBlanks behindEquals) := by
    constructor
    · intro c first
      exact Text.not_of_head?_dropWhile first
    · intro c last
      apply snug.last c
      rw [whole]
      simp only [← List.append_assoc, ← List.cons_append]
      rw [List.getLast?_append_of_ne_nil _ filled, last]
  have gapFilled : gap ≠ [] := by
    rintro rfl
    rw [cutGap, behindGap] at apart
    have blankHead : Text.isBlank head = true := apart
    rw [not_blank_of_start starts] at blankHead
    cases blankHead
  refine ⟨⟨before, gap, head, behindHead.takeWhile Text.isWord, left, right, dropBlanks behindEquals, after, ?_,
    gapFilled, starts, fun _ => List.mem_takeWhile_imp, filled, valueSnug⟩, ?_, rfl,
    (Text.strip_eq_self valueSnug).symm⟩
  · simp only [List.forall_mem_append]
    exact ⟨⟨⟨⟨blankBefore, blankGap⟩, blankLeft⟩, blankRight⟩, blankAfter⟩
  · rw [around, whole]
    rfl

section Characters

variable {digits : List Char} {ds : List Nat}

theorem mapM_eq_some_iff : digits.mapM Text.decimalValue? = some ds ↔
    List.Forall₂ (fun c d => Text.decimalValue? c = some d) digits ds := by
  induction digits generalizing ds with
  | nil => simp [eq_comm]
  | cons c cs ih =>
    simp only [List.mapM_cons, Option.bind_eq_bind, Option.bind_eq_some_iff, Option.pure_def, Option.some.injEq,
      List.forall₂_cons_left_iff, ih]
    constructor
    · rintro ⟨d, digit, rest, digits, rfl⟩
      exact ⟨d, rest, digit, digits, rfl⟩
    · rintro ⟨d, rest, digit, digits, rfl⟩
      exact ⟨d, digit, rest, digits, rfl⟩

theorem characterDigits?_eq_some_iff : characterDigits? value = some ds ↔ ∃ digits, digits ≠ [] ∧
    value = "chr(".toList ++ (digits ++ [')']) ∧
      List.Forall₂ (fun c d => Text.decimalValue? c = some d) digits ds := by
  constructor
  · intro found
    unfold characterDigits? at found
    dsimp only at found
    split at found
    · rename_i marked
      rw [Bool.and_eq_true, List.isPrefixOf_iff_prefix, beq_iff_eq] at marked
      obtain ⟨⟨behind, rfl⟩, closed⟩ := marked
      have same : ("chr(".toList ++ behind).drop 4 = behind := rfl
      rw [same] at found
      split at found
      · cases found
      · rename_i filled
        rw [List.isEmpty_iff] at filled
        have nonempty : behind ≠ [] := fun empty => filled (by rw [empty]; rfl)
        rw [List.getLast?_append_of_ne_nil _ nonempty] at closed
        exact ⟨behind.dropLast, filled, by rw [List.dropLast_append_getLast? _ closed], mapM_eq_some_iff.mp found⟩
    · cases found
  · rintro ⟨digits, filled, rfl, values⟩
    have marked : "chr(".toList.isPrefixOf ("chr(".toList ++ (digits ++ [')'])) = true :=
      List.isPrefixOf_iff_prefix.mpr (List.prefix_append _ _)
    have closed : ("chr(".toList ++ (digits ++ [')'])).getLast? = some ')' := by
      rw [← List.append_assoc, List.getLast?_concat]
    have between : (("chr(".toList ++ (digits ++ [')'])).drop 4).dropLast = digits := List.dropLast_concat
    have nonempty : digits.isEmpty = false := by simpa using filled
    simp only [characterDigits?, marked, closed, between, nonempty, BEq.rfl, Bool.and_self, if_true, Bool.false_eq_true,
      if_false]
    exact mapM_eq_some_iff.mpr values

theorem foldl_ofDigits (ds : List Nat) (n : Nat) :
    ds.foldl (fun n d => n * 10 + d) n = n * 10 ^ ds.length + Nat.ofDigits 10 ds.reverse := by
  induction ds generalizing n with
  | nil => simp
  | cons d ds ih =>
    rw [List.foldl_cons, ih, Nat.ofDigits_reverse_cons, List.length_cons]
    ring

/-- Why the digits give no character. -/
def Exceeds (ds : List Nat) : Fault → Prop
  | .tooManyDigits count => count = ds.length ∧ Number.decimalLimit < ds.length
  | .characterTooLarge => ds.length ≤ Number.decimalLimit ∧ 2 ^ 31 ≤ Nat.ofDigits 10 ds.reverse
  | .characterRange => ds.length ≤ Number.decimalLimit ∧ 0x110000 ≤ Nat.ofDigits 10 ds.reverse ∧
    Nat.ofDigits 10 ds.reverse < 2 ^ 31
  | .evaluation _ | .run _ => False

theorem characterOf_eq_error_iff (ds : List Nat) (f : Fault) : characterOf ds = .error f ↔ Exceeds ds f := by
  have value := foldl_ofDigits ds 0
  rw [Nat.zero_mul, Nat.zero_add] at value
  have bound : Nat.pow 2 31 = 2 ^ 31 := rfl
  simp only [characterOf, value, bound]
  by_cases long : Number.decimalLimit < ds.length
  · rw [if_pos long]
    cases f <;> simp [Exceeds, long, eq_comm]
  rw [if_neg long]
  by_cases huge : 2 ^ 31 ≤ Nat.ofDigits 10 ds.reverse
  · rw [if_pos huge]
    cases f <;> simp [Exceeds, long] <;> omega
  rw [if_neg huge]
  by_cases beyond : 0x110000 ≤ Nat.ofDigits 10 ds.reverse
  · rw [if_pos beyond]
    cases f <;> simp [Exceeds, long, beyond] <;> omega
  · rw [if_neg beyond]
    cases f <;> simp [Exceeds, long] <;> omega

end Characters

/-- The segment gives its name a character by a number with these decimal digits. -/
def GivesCharacter (segment : String) (ds : List Nat) : Prop :=
  ∃ w : Wording, w.text = segment.toList ∧ ∃ digits, digits ≠ [] ∧ w.value = "chr(".toList ++ (digits ++ [')']) ∧
    List.Forall₂ (fun c d => Text.decimalValue? c = some d) digits ds

/-- The segment gives its name more than a string, and the evaluator breaks off at that. -/
def BreaksOff (e : Evaluator) (segment : String) (message : String) : Prop :=
  ∃ w : Wording, w.text = segment.toList ∧ (['"'] <+: w.value ∨ ['b', '"'] <+: w.value) ∧
    Literal.evaluate w.value = none ∧ e w.value = .fault message

/-- What a segment ends the reading of the output with. -/
inductive Ends (e : Evaluator) (segment : String) : Fault → Prop where
  | character {ds : List Nat} {f : Fault} (given : GivesCharacter segment ds) (exceeds : Exceeds ds f) :
    Ends e segment f
  | evaluation {message : String} (broken : BreaksOff e segment message) : Ends e segment (.evaluation message)

variable {e : Evaluator}

theorem isQuoted_iff : isQuoted value = true ↔ ['"'] <+: value ∨ ['b', '"'] <+: value := by
  rw [isQuoted, Bool.or_eq_true, List.isPrefixOf_iff_prefix, List.isPrefixOf_iff_prefix, or_comm]

theorem characterDigits?_of_isQuoted (quoted : isQuoted value = true) : characterDigits? value = none := by
  have other : ¬ "chr(".toList <+: value := by
    rcases isQuoted_iff.mp quoted with ⟨rest, rfl⟩ | ⟨rest, rfl⟩
    · simp
    · simp
  rw [characterDigits?, if_neg]
  rw [Bool.and_eq_true, List.isPrefixOf_iff_prefix]
  exact fun marked => other marked.1

theorem readSegment_character {segment : String} {ds : List Nat}
    (split : splitSegment segment.toList = some (name, value)) (digits : characterDigits? value = some ds) (f : Fault) :
    readSegment e segment = .error f ↔ characterOf ds = .error f := by
  simp only [readSegment, split, digits]
  cases characterOf ds <;> simp [bind, Except.bind, pure, Except.pure]

theorem evaluateQuoted_eq_fault_iff {message : String} :
    evaluateQuoted e value = .fault message ↔ Literal.evaluate value = none ∧ e value = .fault message := by
  unfold evaluateQuoted
  cases Literal.evaluate value with
  | none => simp
  | some denoted => simp

theorem readSegment_other {segment : String} (split : splitSegment segment.toList = some (name, value))
    (other : characterDigits? value = none) (f : Fault) : readSegment e segment = .error f ↔
      isQuoted value = true ∧ ∃ message, evaluateQuoted e value = .fault message ∧ f = .evaluation message := by
  simp only [readSegment, split, other]
  by_cases quoted : isQuoted value = true
  · have noTrue : ¬ (value == "True".toList) = true := by
      rw [beq_iff_eq]
      rintro rfl
      cases quoted
    have noFalse : ¬ (value == "False".toList) = true := by
      rw [beq_iff_eq]
      rintro rfl
      cases quoted
    rw [if_neg noTrue, if_neg noFalse, if_pos quoted]
    cases evaluateQuoted e value with
    | value v => simp
    | refused => simp
    | fault message => simp [quoted, eq_comm]
  · refine iff_of_false ?_ fun found => quoted found.1
    rw [if_neg quoted]
    split
    · simp
    · split
      · simp
      · split <;> simp

theorem readSegment_eq_error_iff (segment : String) (f : Fault) :
    readSegment e segment = .error f ↔ Ends e segment f := by
  constructor
  · intro raised
    cases split : splitSegment segment.toList with
    | none => simp [readSegment, split] at raised
    | some parts =>
      obtain ⟨name, value⟩ := parts
      obtain ⟨w, written, _, rfl⟩ := exists_wording split
      cases digits : characterDigits? w.value with
      | some ds =>
        have refused := (characterOf_eq_error_iff ds f).mp ((readSegment_character split digits f).mp raised)
        exact .character ⟨w, written, characterDigits?_eq_some_iff.mp digits⟩ refused
      | none =>
        obtain ⟨quoted, message, broken, rfl⟩ := (readSegment_other split digits f).mp raised
        exact .evaluation ⟨w, written, isQuoted_iff.mp quoted, evaluateQuoted_eq_fault_iff.mp broken⟩
  · rintro (⟨⟨w, written, character⟩, exceeds⟩ | ⟨w, written, quoted, broken⟩)
    · have split := w.splitSegment_text
      rw [written] at split
      apply (readSegment_character split (characterDigits?_eq_some_iff.mpr character) f).mpr
      exact (characterOf_eq_error_iff _ f).mpr exceeds
    · have split := w.splitSegment_text
      rw [written] at split
      have quoted := isQuoted_iff.mpr quoted
      apply (readSegment_other split (characterDigits?_of_isQuoted quoted) _).mpr
      exact ⟨quoted, _, evaluateQuoted_eq_fault_iff.mpr broken, rfl⟩

theorem readSegment_returns_iff (segment : String) :
    (∃ r, readSegment e segment = .ok r) ↔ ∀ f, ¬ Ends e segment f := by
  simp only [← readSegment_eq_error_iff]
  cases readSegment e segment with
  | ok r => simp
  | error f => simp

theorem readOutput_eq_error_iff (output : String) (names : List String) (f : Fault) :
    (readOutput e output names).1 = .error f ↔ ∃ before part after, Parts output (before ++ part :: after) ∧
      (∀ earlier ∈ before, ∃ r, readSegment e earlier = .ok r) ∧ readSegment e part = .error f := by
  rw [readOutput_fault_iff, List.findSome?_eq_some_iff]
  simp only [fault?_eq_none_iff, fault?_eq_some_iff, parts_iff]
  constructor
  · rintro ⟨before, part, after, cut, raised, read⟩
    exact ⟨before, part, after, cut, read, raised⟩
  · rintro ⟨before, part, after, cut, read, raised⟩
    exact ⟨before, part, after, cut, raised, read⟩

/-- What reading a segment lets out, whatever the evaluator says to a text that is no string: nothing, unless the
segment gives a character by a number with more digits than can be read or of no character, or the evaluator breaks off.
Reading an output ends at the first such segment, so that even what the segments before it gave is lost. -/
theorem readOutput_escapes_iff (e : Evaluator) (segment output : String) (names : List String) (f : Fault) :
    (readSegment e segment = .error f ↔ Ends e segment f) ∧
    ((readOutput e output names).1 = .error f ↔ ∃ before part after, Parts output (before ++ part :: after) ∧
      (∀ earlier ∈ before, ∀ g, ¬ Ends e earlier g) ∧ Ends e part f) := by
  refine ⟨readSegment_eq_error_iff segment f, ?_⟩
  simp only [readOutput_eq_error_iff, readSegment_returns_iff, readSegment_eq_error_iff]

/-- Behind the last character. The other constant is lost with it. -/
def beyondLastOutput : String := "\n@@cinclude@@const A = 1\n@@cinclude@@const B = chr(1114112)\n"

theorem beyondLastOutput_escapes :
    readSegment .refusing "const B = chr(1114112)" = .error .characterRange ∧
      (readOutput .refusing beyondLastOutput ["A", "B"]).1 = .error .characterRange := by
  decide +kernel

end CBindings.Probe
