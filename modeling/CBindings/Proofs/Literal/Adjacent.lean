import CBindings.Literal.Basic
import CBindings.Proofs.Probe.Printed
import CBindings.Proofs.Text.Joining

/-! Adjacent string literals. Each is read as a text of its own and the texts are joined, while the compiler joins their
bytes. The two agree exactly if no character is cut between two of the literals. What a probe prints for the joined
literals is read as the text of all their bytes, up to the first zero. -/
namespace CBindings

open Text.Utf8 (decode Uncut)

/-- What is read through a pointer to the bytes: they end at the first zero. -/
def Probe.CString.ofBytes (bytes : List UInt8) : Probe.CString where
  bytes := bytes.takeWhile (· ≠ 0)
  nulFree := by
    intro inside
    simpa using List.mem_takeWhile_imp inside

namespace Literal

/-- A string literal without a mark in front and without the escape of a code point, and the bytes that it denotes. -/
structure ByteLiteral where
  text : List Char
  bytes : List UInt8
  quoted : ∃ body, text = '"' :: (body ++ ['"'])
  unnamed : ¬ ['\\', 'u'] <:+: text ∧ ¬ ['\\', 'U'] <:+: text
  evaluated : evaluate ('b' :: text.flatMap escapeBeyondAscii) = some (.bytes bytes)

theorem ByteLiteral.dropEncoding_text (l : ByteLiteral) : dropEncoding '"' l.text = some l.text := by
  obtain ⟨body, same⟩ := l.quoted
  have last : ('"' :: (body ++ ['"'])).getLast? = some '"' := by
    rw [← List.cons_append, List.getLast?_concat]
  simp [same, dropEncoding, encodingMarks, last]

theorem ByteLiteral.evaluateString_text (l : ByteLiteral) :
    evaluateString l.text = some ((decode l.bytes).map Char.toNat) := by
  have unnamed : ¬ (Text.occursIn ['\\', 'u'] l.text || Text.occursIn ['\\', 'U'] l.text) = true := by
    simp only [Bool.or_eq_true, Text.occursIn_iff, not_or]
    exact l.unnamed
  rw [evaluateString, if_neg unnamed, l.evaluated]

theorem readStrings_literals (ls : List ByteLiteral) :
    readStrings (ls.map (·.text)) =
      some (.text (String.ofList ((ls.map (·.bytes)).flatMap decode)), .string) := by
  have parts : (ls.map (·.text)).mapM (fun s => do evaluateString (← dropEncoding '"' s)) =
      some ((ls.map (·.bytes)).map fun bytes => (decode bytes).map Char.toNat) := by
    induction ls with
    | nil => rfl
    | cons l ls ih =>
      rw [List.map_cons, List.mapM_cons, ih]
      simp [l.dropEncoding_text, l.evaluateString_text]
  have joined : ((ls.map (·.bytes)).map fun bytes => (decode bytes).map Char.toNat).flatten =
      ((ls.map (·.bytes)).flatMap decode).map Char.toNat := by
    rw [List.map_flatMap, List.flatMap_def]
  rw [readStrings, parts, Option.bind_eq_bind, Option.bind_some, joined, Value.ofPoints_toNat]

theorem zero_mem_decode_iff (bytes : List UInt8) : '\x00' ∈ decode bytes ↔ 0 ∈ bytes := by
  have kept : '\x00' ∈ (decode bytes).filter (·.toNat < 128) ↔ '\x00' ∈ decode bytes := by
    simp [List.mem_filter]
  rw [← kept, Text.Utf8.filter_ascii_decode, List.mem_map]
  constructor
  · rintro ⟨b, inside, zero⟩
    have number : b.toNat = (0 : UInt8).toNat := by
      rw [← Text.Utf8.toNat_ofByte b, zero]
      rfl
    exact UInt8.toNat_inj.mp number ▸ (List.mem_filter.mp inside).1
  · intro inside
    exact ⟨0, List.mem_filter.mpr ⟨inside, by decide⟩, rfl⟩

/- A zero among the bytes is a character of the text, and the text of a pointer has none. -/
theorem flatMap_decode_eq_pointer_iff (pieces : List (List UInt8)) :
    pieces.flatMap decode = decode (Probe.CString.ofBytes pieces.flatten).bytes ↔
      0 ∉ pieces.flatten ∧ Uncut pieces := by
  by_cases zero : 0 ∈ pieces.flatten
  · have ended := (Probe.CString.ofBytes pieces.flatten).nulFree
    obtain ⟨piece, member, inside⟩ := List.mem_flatten.mp zero
    have apart : '\x00' ∈ pieces.flatMap decode :=
      List.mem_flatMap.mpr ⟨piece, member, (zero_mem_decode_iff piece).mpr inside⟩
    constructor
    · intro same
      rw [same, zero_mem_decode_iff] at apart
      exact absurd apart ended
    · intro free
      exact absurd zero free.1
  · have whole : (Probe.CString.ofBytes pieces.flatten).bytes = pieces.flatten := by
      apply List.takeWhile_eq_self_iff.mpr
      intro b inside
      exact decide_eq_true fun same => zero (same ▸ inside)
    rw [whole, Text.Utf8.flatMap_decode_eq_iff]
    simp [zero]

/-- String literals side by side are read as the texts of their bytes, one after the other. This is the text of all
their bytes exactly if no character is cut between two of them, and it is what a probe for the joined literals answers
exactly if besides none of the bytes is zero. -/
theorem readStrings_joined_iff (e : Evaluator) (n : Probe.Identifier) (ls : List ByteLiteral) :
    readStrings (ls.map (·.text)) =
      some (.text (String.ofList ((ls.map (·.bytes)).flatMap decode)), .string) ∧
    (readStrings (ls.map (·.text)) =
        some (.text (String.ofList (decode (ls.map (·.bytes)).flatten)), .string) ↔ Uncut (ls.map (·.bytes))) ∧
    ∃ r, Probe.readSegment e (String.ofList (Probe.entryText n
        (Probe.Emitted.string (.ofBytes (ls.map (·.bytes)).flatten)).text)) = .ok (.ok r) ∧ r.name = n.text ∧
      (readStrings (ls.map (·.text)) = some (r.value, r.kind) ↔
        0 ∉ (ls.map (·.bytes)).flatten ∧ Uncut (ls.map (·.bytes))) := by
  rw [readStrings_literals]
  generalize ls.map (·.bytes) = pieces
  have equal : ∀ s t : List Char,
      some (Value.text (String.ofList s), ConstantKind.string) = some (.text (String.ofList t), .string) ↔ s = t := by
    simp [String.ofList_inj]
  have printed : Text.trim (String.ofList (Probe.entryText n
      (Probe.Emitted.string (.ofBytes pieces.flatten)).text)).toList =
        Probe.entryText n (Probe.Emitted.string (.ofBytes pieces.flatten)).text := by
    have snug := (Probe.Emitted.string (.ofBytes pieces.flatten)).text_snug
    rw [String.toList_ofList]
    exact Text.strip_eq_self (Probe.entryText_snug snug.1 snug.2)
  refine ⟨rfl, ?_, _, Probe.readSegment_emitted (n, .string (.ofBytes pieces.flatten)) printed, rfl, ?_⟩
  · rw [equal]
    exact Text.Utf8.flatMap_decode_eq_iff pieces
  · refine Iff.trans (equal _ _) ?_
    exact flatMap_decode_eq_pointer_iff pieces

/-- The two bytes of one character, each in a literal of its own. -/
def acuteLiterals : List ByteLiteral :=
  [⟨['"', '\\', 'x', 'c', '3', '"'], [0xC3], ⟨['\\', 'x', 'c', '3'], rfl⟩, by decide, by rfl⟩,
   ⟨['"', '\\', 'x', 'a', '9', '"'], [0xA9], ⟨['\\', 'x', 'a', '9'], rfl⟩, by decide, by rfl⟩]

/-- The two literals are read as two replacement characters instead of the one character of their bytes. -/
theorem readStrings_acute :
    readStrings (acuteLiterals.map (·.text)) = some (.text "\uFFFD\uFFFD", .string) ∧
      decode (acuteLiterals.map (·.bytes)).flatten = ['\xe9'] := by
  refine ⟨?_, rfl⟩
  rfl

end Literal

end CBindings
