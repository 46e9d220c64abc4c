import CBindings.Proofs.Literal.Bytes
import CBindings.Proofs.Probe.Segment
import Mathlib.Algebra.Order.Ring.Int

/-! What a probe prints is read back: each value under its name and with its kind, nothing else, and without a
message. -/
namespace CBindings.Probe

/-- What a pointer to characters points to. -/
structure CString where
  bytes : List UInt8
  nulFree : 0 ∉ bytes

/-- A value that a probe prints, by its type; floating-point types apart. -/
inductive Emitted where
  | string (s : CString)
  | char (byte : UInt8)
  | bool (b : Bool)
  | signed {width : Nat} (v : BitVec width) (narrow : width ≤ 64)
  | unsigned {width : Nat} (v : BitVec width) (narrow : width ≤ 64)

namespace Emitted

def text : Emitted → List Char
  | string s => Literal.bytesText s.bytes
  | char byte => ['c', 'h', 'r', '('] ++ Nat.toDigits 10 byte.toNat ++ [')']
  | bool b => if b then "True".toList else "False".toList
  | signed v _ => (Number.Written.ofInt v.toInt).text
  | unsigned v _ => (Number.Written.ofInt v.toNat).text

def value : Emitted → Value
  | string s => .text (String.ofList (Text.Utf8.decode s.bytes))
  | char byte => .text (Char.ofNat byte.toNat).toString
  | bool b => .bool b
  | signed v _ => .int v.toInt
  | unsigned v _ => .int v.toNat

def kind : Emitted → ConstantKind
  | string _ => .string
  | char _ => .char
  | bool _ => .bool
  | signed _ _ | unsigned _ _ => .integer

end Emitted

/-- The output of a probe for these names and their values. -/
def output (entries : List (Identifier × Emitted)) : String :=
  String.ofList (entries.flatMap (fun e => delimiter ++ entryText e.1 e.2.text) ++ ['\n'])

def reading (e : Identifier × Emitted) : Reading := ⟨e.1.text, e.2.value, e.2.kind⟩

variable {eval : Evaluator} {n : Identifier} {c : Char} {segment : String}

theorem Emitted.text_snug (v : Emitted) : v.text ≠ [] ∧ Text.Snug Text.isBlank v.text := by
  cases v with
  | string s =>
    have ends : (string s).text.getLast? = some '"' := List.getLast?_concat
    exact ⟨List.cons_ne_nil _ _, Text.snug_of_ends rfl ends (by decide) (by decide)⟩
  | char byte =>
    have ends : (char byte).text.getLast? = some ')' := List.getLast?_concat
    exact ⟨List.cons_ne_nil _ _, Text.snug_of_ends rfl ends (by decide) (by decide)⟩
  | bool b =>
    cases b with
    | true => exact ⟨by decide, Text.snug_of_ends rfl rfl (by decide) (by decide)⟩
    | false => exact ⟨by decide, Text.snug_of_ends rfl rfl (by decide) (by decide)⟩
  | signed v _ => exact Probe.text_snug _
  | unsigned v _ => exact Probe.text_snug _

/- How each kind of value is read behind the name. -/
section Values

theorem readSegment_string (s : CString)
    (split : splitSegment segment.toList = some (n.chars, (Emitted.string s).text)) :
    readSegment eval segment = .ok (.ok (reading (n, .string s))) := by
  have noCharacter : characterDigits? (Emitted.string s).text = none := by
    have mark : "chr(".toList = ['c', 'h', 'r', '('] := rfl
    simp [characterDigits?, mark, Emitted.text, Literal.bytesText]
  have noWord : (Emitted.string s).text ≠ ['T', 'r', 'u', 'e'] ∧
      (Emitted.string s).text ≠ ['F', 'a', 'l', 's', 'e'] := by
    simp [Emitted.text, Literal.bytesText]
  have quoted : isQuoted (Emitted.string s).text = true := by
    simp [isQuoted, Emitted.text, Literal.bytesText, List.isPrefixOf]
  have bytes : Literal.evaluate (Emitted.string s).text = some (.bytes s.bytes) := Literal.evaluate_bytesText s.bytes
  have evaluated : evaluateQuoted eval (Emitted.string s).text = .value (.bytes s.bytes) := by
    rw [evaluateQuoted, bytes]
    rfl
  simp [readSegment, split, noCharacter, noWord, quoted, evaluated, decoded, reading, Emitted.value, Emitted.kind,
    Identifier.text]

theorem decimalValue?_digit (digit : c.isDigit = true) : Text.decimalValue? c = some (c.toNat - 48) := by
  have bounds := (Number.isDigit_iff c).mp digit
  have ascii : c.toNat < 128 := by omega
  have range : '0' ≤ c ∧ c ≤ '9' := by
    simpa [Char.le_def, UInt32.le_iff_toNat_le] using bounds
  simp [Text.decimalValue?, ascii, range]

theorem mapM_decimalValue? {ds : List Char} (digits : ∀ c ∈ ds, c.isDigit = true) :
    ds.mapM Text.decimalValue? = some (ds.map fun c => c.toNat - 48) := by
  induction ds with
  | nil => rfl
  | cons c ds ih =>
    have first := decimalValue?_digit (digits c List.mem_cons_self)
    have later := ih fun d inside => digits d (List.mem_cons_of_mem c inside)
    simp [List.mapM_cons, first, later]

theorem foldl_digits {ds : List Char} (digits : ∀ c ∈ ds, c.isDigit = true) :
    (ds.map fun c => c.toNat - 48).foldl (fun n d => n * 10 + d) 0 = Number.digitsValue 10 ds := by
  rw [Number.digitsValue_eq, Number.valueFrom_eq_ofDigitChars digits, Nat.ofDigitChars_eq_foldl, List.foldl_map]
  simp [Nat.mul_comm]

theorem characterDigits?_char (byte : UInt8) :
    characterDigits? (Emitted.char byte).text =
      some ((Nat.toDigits 10 byte.toNat).map fun c => c.toNat - 48) := by
  have mark : "chr(".toList = ['c', 'h', 'r', '('] := rfl
  have marked : ['c', 'h', 'r', '('].isPrefixOf (Emitted.char byte).text = true := by
    simp [Emitted.text, List.isPrefixOf]
  have ends : (Emitted.char byte).text.getLast? = some ')' := List.getLast?_concat
  have between : ((Emitted.char byte).text.drop 4).dropLast = Nat.toDigits 10 byte.toNat := by
    simp [Emitted.text]
  have filled : (Nat.toDigits 10 byte.toNat).isEmpty = false := by simp
  simp [characterDigits?, mark, marked, ends, between, filled, mapM_decimalValue? (Number.isDigit_toDigits byte.toNat)]

theorem characterOf_byte (byte : UInt8) :
    characterOf ((Nat.toDigits 10 byte.toNat).map fun c => c.toNat - 48) =
      .ok (.text (Char.ofNat byte.toNat).toString) := by
  have small := byte.toNat_lt
  have number := foldl_digits (Number.isDigit_toDigits byte.toNat)
  rw [Number.digitsValue_toDigits] at number
  have short : (Nat.toDigits 10 byte.toNat).length ≤ 3 :=
    (Nat.length_toDigits_le_iff (by decide) (by decide)).mpr (by omega)
  have limit : ¬ Number.decimalLimit < (Nat.toDigits 10 byte.toNat).length :=
    Nat.not_lt.mpr (short.trans (by decide))
  have notLarge : ¬ Nat.pow 2 31 ≤ byte.toNat := by
    have power : Nat.pow 2 31 = 2147483648 := rfl
    omega
  have inRange : ¬ 0x110000 ≤ byte.toNat := by omega
  have character : Value.ofPoints [byte.toNat] = .text (Char.ofNat byte.toNat).toString := by
    have valid : byte.toNat.isValidChar := .inl (by omega)
    have points := Value.ofPoints_toNat [Char.ofNat byte.toNat]
    rwa [List.map_singleton, Text.Utf8.toNat_ofNat_of_valid valid] at points
  simp only [characterOf, List.length_map, number, if_neg limit, if_neg notLarge, if_neg inRange, character]

theorem readSegment_char (byte : UInt8)
    (split : splitSegment segment.toList = some (n.chars, (Emitted.char byte).text)) :
    readSegment eval segment = .ok (.ok (reading (n, .char byte))) := by
  simp only [readSegment, split, characterDigits?_char, characterOf_byte]
  rfl

theorem readSegment_bool (b : Bool) (split : splitSegment segment.toList = some (n.chars, (Emitted.bool b).text)) :
    readSegment eval segment = .ok (.ok (reading (n, .bool b))) := by
  have noCharacter : characterDigits? (Emitted.bool b).text = none := by
    cases b with
    | true => decide
    | false => decide
  simp only [readSegment, split, noCharacter]
  cases b with
  | true => rfl
  | false => rfl

theorem readSegment_integer (z : Int) (narrow : z.natAbs < 10 ^ 20)
    (split : splitSegment segment.toList = some (n.chars, (Number.Written.ofInt z).text)) :
    readSegment eval segment = .ok (.ok ⟨n.text, .int z, .integer⟩) := by
  have short : (Nat.toDigits 10 z.natAbs).length ≤ 20 :=
    (Nat.length_toDigits_le_iff (by decide) (by decide)).mpr narrow
  have limit : 20 ≤ Number.decimalLimit := by decide
  have read := readSegment_number (e := eval) (Number.Written.ofInt z) (short.trans limit) split
  have whole : (Number.Written.ofInt z).isWhole = true := rfl
  rw [read, numberReading, if_pos whole, Number.Written.integer_ofInt]

theorem two_pow_lt {width : Nat} (narrow : width ≤ 64) : 2 ^ width < 10 ^ 20 :=
  Nat.lt_of_le_of_lt (Nat.pow_le_pow_right (by decide) narrow) (by decide)

theorem natAbs_toInt_le {width : Nat} (v : BitVec width) : v.toInt.natAbs ≤ 2 ^ width := by
  have low := v.le_two_mul_toInt
  have high := v.two_mul_toInt_lt
  have cast : ((2 ^ width : Nat) : Int) = 2 ^ width := by
    push_cast
    rfl
  omega

end Values

theorem readSegment_emitted (e : Identifier × Emitted) (trimmed : Text.trim segment.toList = entryText e.1 e.2.text) :
    readSegment eval segment = .ok (.ok (reading e)) := by
  obtain ⟨n, v⟩ := e
  have split := splitSegment_entry v.text_snug.1 v.text_snug.2 trimmed
  cases v with
  | string s => exact readSegment_string s split
  | char byte => exact readSegment_char byte split
  | bool b => exact readSegment_bool b split
  | signed v narrow =>
    exact readSegment_integer v.toInt ((natAbs_toInt_le v).trans_lt (two_pow_lt narrow)) split
  | unsigned v narrow => exact readSegment_integer v.toNat (v.isLt.trans (two_pow_lt narrow)) split

/- Segments that read as requested names, each once, are all taken. -/
theorem addSegments_read {names ss : List String} {readings : List Reading}
    (read : List.Forall₂ (fun s r => readSegment eval s = .ok (.ok r)) ss readings)
    (requested : ∀ r ∈ readings, r.name ∈ names) (f : Findings)
    (distinct : (f.found.map (·.name) ++ readings.map (·.name)).Nodup) :
    addSegments eval names f ss = ({ f with found := f.found ++ readings.map Reading.constant }, none) := by
  induction read generalizing f with
  | nil => simp [addSegments]
  | @cons segment r ss readings first _ ih =>
    have filled : (Text.trim segment.toList).isEmpty = false := by
      rw [← Bool.not_eq_true]
      intro blank
      cases first.symm.trans (readSegment_of_blank blank)
    have wanted := requested r List.mem_cons_self
    have new : f.has r.name = false := by
      have apart := (List.nodup_append.mp distinct).2.2
      simp only [Findings.has, List.any_eq_false, beq_iff_eq]
      intro k old same
      exact apart k.name (List.mem_map_of_mem old) r.name (by simp) same
    have later := ih (fun r' inside => requested r' (List.mem_cons_of_mem r inside))
      { f with found := f.found ++ [r.constant] } (by simpa [Reading.constant] using distinct)
    simpa [addSegments, filled, first, wanted, new] using later

theorem find?_name {ks : List Constant} (distinct : (ks.map (·.name)).Nodup) {k : Constant} (inside : k ∈ ks) :
    ks.find? (·.name == k.name) = some k := by
  induction ks with
  | nil => cases inside
  | cons first ks ih =>
    rw [List.map_cons, List.nodup_cons] at distinct
    rcases List.mem_cons.mp inside with rfl | later
    · simp
    · have other : first.name ≠ k.name := fun same => distinct.1 (same ▸ List.mem_map_of_mem later)
      rw [List.find?_cons_of_neg (by simpa using other)]
      exact ih distinct.2 later

/- Once all names are found, the constants come in the order of the names, and nothing is said. -/
theorem readOutput_found {output : String} {ks : List Constant} (distinct : (ks.map (·.name)).Nodup)
    (added : addSegments eval (ks.map (·.name)) {} (segments output) = ({ found := ks }, none)) :
    readOutput eval output (ks.map (·.name)) = (.ok ks, []) := by
  have none : (ks.map (·.name)).filter (fun name => !Findings.has { found := ks } name) = [] := by
    rw [List.filter_eq_nil_iff]
    intro name inside
    obtain ⟨k, member, rfl⟩ := List.mem_map.mp inside
    simpa [Findings.has] using ⟨k, member, rfl⟩
  have all : (ks.map (·.name)).filterMap (fun name => ks.find? (·.name == name)) = ks := by
    rw [List.filterMap_map]
    have each : ∀ k ∈ ks, ((fun name => ks.find? (·.name == name)) ∘ (·.name)) k = some k :=
      fun k inside => find?_name distinct inside
    rw [List.filterMap_congr each, List.filterMap_some]
  simp [readOutput, added, none, all]

theorem Emitted.mem_text (v : Emitted) (inside : c ∈ v.text) : 32 ≤ c.toNat := by
  have number (w : Number.Written) (inside : c ∈ w.text) : 32 ≤ c.toNat := by
    rcases w.mem_text inside with digit | mark
    · have bounds := (Number.isDigit_iff c).mp digit
      omega
    · simp only [List.mem_cons, List.not_mem_nil, or_false] at mark
      rcases mark with rfl | rfl | rfl | rfl <;> decide
  cases v with
  | string s => exact (Literal.mem_bytesText inside).1
  | char byte =>
    simp only [text, List.cons_append, List.nil_append, List.mem_cons, List.mem_append, List.not_mem_nil,
      or_false] at inside
    rcases inside with rfl | rfl | rfl | rfl | digit | rfl
    · decide
    · decide
    · decide
    · decide
    · have bounds := (Number.isDigit_iff c).mp (Number.isDigit_toDigits byte.toNat c digit)
      omega
    · decide
  | bool b =>
    have listed : (bool b).text.all (32 ≤ ·.toNat) = true := by
      cases b with
      | true => decide
      | false => decide
    exact of_decide_eq_true (List.all_eq_true.mp listed c inside)
  | signed v _ => exact number _ inside
  | unsigned v _ => exact number _ inside

theorem entryText_free (e : Identifier × Emitted) : '\n' ∉ entryText e.1 e.2.text := by
  intro inside
  simp only [entryText, List.mem_append] at inside
  rcases inside with mark | name | mark | value
  · exact absurd mark (by decide)
  · exact absurd (alphanum_bounds (e.1.mem_chars name)).1 (by decide)
  · exact absurd mark (by decide)
  · exact absurd (e.2.mem_text value) (by decide)

/- The line end at the very end stays with the last entry. -/
theorem segments_output (eval : Evaluator) (entries : List (Identifier × Emitted)) :
    ∃ first rest, segments (output entries) = first :: rest ∧ (Text.trim first.toList).isEmpty = true ∧
      List.Forall₂ (fun s r => readSegment eval s = .ok (.ok r)) rest (entries.map reading) := by
  have free : ∀ piece ∈ entries.map (fun e => entryText e.1 e.2.text), '\n' ∉ piece := by
    intro piece inside
    obtain ⟨e, -, rfl⟩ := List.mem_map.mp inside
    exact entryText_free e
  have cut := Text.splitFrom_pieces '\n' '@' "@cinclude@@".toList free []
  have whole : (output entries).toList =
      (entries.map fun e => entryText e.1 e.2.text).flatMap ('\n' :: '@' :: "@cinclude@@".toList ++ ·) ++ ['\n'] := by
    rw [output, String.toList_ofList, List.flatMap_map]
    rfl
  have parts : segments (output entries) =
      (Text.splitFrom ('\n' :: '@' :: "@cinclude@@".toList) 0 [] (output entries).toList).map String.ofList := rfl
  rw [← whole, List.reverse_nil] at cut
  rw [parts]
  generalize Text.splitFrom ('\n' :: '@' :: "@cinclude@@".toList) 0 [] (output entries).toList = found at cut
  cases cut with
  | @cons first _ rest _ blank read =>
    refine ⟨String.ofList first, rest.map String.ofList, rfl, ?_, ?_⟩
    · rcases blank with rfl | rfl
      · rfl
      · rfl
    · rw [List.forall₂_map_right_iff, List.forall₂_map_left_iff]
      rw [List.forall₂_map_right_iff] at read
      refine read.imp fun segment e ends => readSegment_emitted e ?_
      have snug := entryText_snug (n := e.1) e.2.text_snug.1 e.2.text_snug.2
      rw [String.toList_ofList]
      rcases ends with rfl | rfl
      · exact Text.strip_eq_self snug
      · exact Text.strip_append snug (List.forall_mem_singleton.mpr (by decide))

/-- For every list of names and values, the names all different, reading what a probe prints for them gives one constant
for each name, in their order, with the value and the kind of its type, and no message. -/
theorem readOutput_output (eval : Evaluator) (entries : List (Identifier × Emitted))
    (distinct : (entries.map (·.1.text)).Nodup) :
    readOutput eval (output entries) (entries.map (·.1.text)) =
      (.ok (entries.map fun e =>
        { name := e.1.text, value := e.2.value, kind := e.2.kind, isMacro := true, probed := true }), []) := by
  obtain ⟨first, rest, split, blank, read⟩ := segments_output eval entries
  have names : (entries.map fun e => (reading e).constant).map (·.name) = entries.map (·.1.text) := by
    simp [reading, Reading.constant]
  have added : addSegments eval (entries.map (·.1.text)) {} (segments (output entries)) =
      ({ found := entries.map fun e => (reading e).constant }, none) := by
    have requested : ∀ r ∈ entries.map reading, r.name ∈ entries.map (·.1.text) := by
      intro r inside
      obtain ⟨e, member, rfl⟩ := List.mem_map.mp inside
      exact List.mem_map.mpr ⟨e, member, rfl⟩
    have own : (entries.map reading).map (·.name) = entries.map (·.1.text) := List.map_map
    have taken := addSegments_read read requested {} (by simpa only [own, List.map_nil, List.nil_append] using distinct)
    rw [split, addSegments, if_pos blank, taken]
    simp
  rw [← names] at added distinct ⊢
  exact readOutput_found distinct added

/-- One value of each kind: a string with a quote, a line end and a byte that starts no character, and integers at both
ends of what fits. -/
def sampleEntries : List (Identifier × Emitted) :=
  [(⟨'T', ['A', 'G'], by decide, by decide⟩, .string ⟨[97, 34, 10, 255], by decide⟩),
   (⟨'_', ['c', '1'], by decide, by decide⟩, .char 200),
   (⟨'O', ['N'], by decide, by decide⟩, .bool true),
   (⟨'L', ['O'], by decide, by decide⟩, .signed (0x8000000000000000 : BitVec 64) (by decide)),
   (⟨'H', ['I'], by decide, by decide⟩, .unsigned (0xFFFFFFFFFFFFFFFF : BitVec 64) (by decide))]

theorem sampleEntries_read :
    (sampleEntries.map (·.1.text)).Nodup ∧
      ∃ ks, readOutput .refusing (output sampleEntries) (sampleEntries.map (·.1.text)) = (.ok ks, []) ∧
        ks.map (fun k => (k.name, k.value, k.kind)) =
          [("TAG", .text "a\"\n\uFFFD", .string), ("_c1", .text "\xc8", .char), ("ON", .bool true, .bool),
           ("LO", .int (-9223372036854775808), .integer), ("HI", .int 18446744073709551615, .integer)] := by
  have distinct : (sampleEntries.map (·.1.text)).Nodup := by decide +kernel
  refine ⟨distinct, _, readOutput_output .refusing sampleEntries distinct, ?_⟩
  decide +kernel

end CBindings.Probe
