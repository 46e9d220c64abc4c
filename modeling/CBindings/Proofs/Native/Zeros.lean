import CBindings.Native.Zero
import CBindings.Proofs.Native.Arrays
import CBindings.Proofs.Native.Tables

/-! Zero values: what each type's zero is, which parts an object has, and for which records the zero can be made. -/
namespace CBindings

open Outcome

/-- The zero of each kind of number, character and pointer. -/
def Simple.zeroValue : Simple → Value
  | .bool => .bool false
  | .char => .bytes [0]
  | .wideChar => .text "\x00"
  | .float | .double | .longDouble => .float .zero
  | .charPointer | .voidPointer => .none
  | .byte | .ubyte | .short | .ushort | .int | .uint | .long | .ulong => .int 0

namespace Memory

@[simp] theorem lowBits_zero (count : Nat) : lowBits 0 count = 0 := by
  simp [lowBits]

@[simp] theorem read_empty (offset size : Nat) : ({} : Memory).read offset size = 0 := by
  simp [read]

@[simp] theorem write_empty (offset size : Nat) : ({} : Memory).write offset size 0 = {} := by
  simp [write, shiftUp]

theorem readSimple_empty (s : Simple) (offset : Nat) (bits : Option (Nat × Nat)) :
    ({} : Memory).readSimple s offset bits = s.zeroValue := by
  have signed (width : Nat) : signedFrom width 0 = 0 := by
    simp [signedFrom, Nat.pow_eq]
  cases s with
  | bool => simp [readSimple, Simple.zeroValue]
  | char => simp [readSimple, Simple.zeroValue]
  | wideChar =>
    simp only [readSimple, read_empty, Simple.zeroValue]
    exact Value.ofPoints_toNat ['\x00']
  | float | double | longDouble =>
    simp only [readSimple, read_empty, Simple.zeroValue]
    decide +kernel
  | charPointer => simp [readSimple, Simple.zeroValue]
  | voidPointer => simp [readSimple, Simple.zeroValue]
  | byte | ubyte | short | ushort | int | uint | long | ulong =>
    rcases bits with _ | ⟨shift, width⟩
    · simp [readSimple, Simple.zeroValue, Simple.isSigned, signed]
    · simp [readSimple, Simple.zeroValue, Simple.isSigned, signed]

end Memory

mutual
theorem NativeType.same_self (t : NativeType) : t.same t = true := by
  cases t with
  | simple s => simp [NativeType.same]
  | pointer target => simpa [NativeType.same] using NativeType.same_self target
  | array element n => simpa [NativeType.same] using NativeType.same_self element
  | function result arguments =>
    cases result with
    | none => simpa [NativeType.same] using sameTypes_self arguments
    | some result => simpa [NativeType.same] using ⟨NativeType.same_self result, sameTypes_self arguments⟩
  | record i => simp [NativeType.same]

theorem sameTypes_self (ts : List NativeType) : sameTypes ts ts = true := by
  cases ts with
  | nil => simp [sameTypes]
  | cons t rest => simpa [sameTypes] using ⟨NativeType.same_self t, sameTypes_self rest⟩
end

/-- The class of a record type. -/
def NativeType.record? : NativeType → Option Nat
  | .record i => some i
  | _ => none

/-- The zero of a type as it is put into a member. -/
def zeroDatum : NativeType → Datum
  | .simple s => .scalar s.zeroValue
  | .array (.simple .char) _ => .scalar (.bytes [])
  | .array (.simple .wideChar) _ => .scalar (.text "")
  | t => .object t {}

namespace Memory

theorem storeSimple_zero (s : Simple) (offset : Nat) (bits : Option (Nat × Nat)) :
    ({} : Memory).storeSimple s offset bits s.zeroValue = .ok {} := by
  have wrapped (width : Nat) : wrapTo width 0 = 0 := by
    simp [wrapTo]
  cases s with
  | bool => simp [storeSimple, Simple.zeroValue, Value.isTrue]
  | char => simp [storeSimple, Simple.zeroValue, Value.byteCode]
  | wideChar => simp [storeSimple, Simple.zeroValue, Value.characterCode, Value.codes?]
  | float =>
    have none : Binary64.zero.toBits32 = 0 := by decide +kernel
    simp [storeSimple, Simple.zeroValue, Value.real, none]
  | double =>
    have none : Binary64.zero.toBits = 0 := by decide +kernel
    simp [storeSimple, Simple.zeroValue, Value.real, none]
  | longDouble =>
    have none : Binary64.zero.toBits80 = 0 := by decide +kernel
    simp [storeSimple, Simple.zeroValue, Value.real, none]
  | charPointer => simp [storeSimple, Simple.zeroValue]
  | voidPointer => simp [storeSimple, Simple.zeroValue]
  | byte | ubyte | short | ushort | int | uint | long | ulong =>
    rcases bits with _ | ⟨shift, width⟩
    · simp [storeSimple, Simple.zeroValue, Value.integer, storeInteger, wrapped]
    · simp [storeSimple, Simple.zeroValue, Value.integer, storeInteger, wrapped]

theorem storeBytes_zero (c : Classes) (offset n : Nat) :
    ({} : Memory).storeBytes c offset n (.scalar (.bytes [])) = .ok {} := by
  by_cases room : 0 < n
  · simp [storeBytes, room, ofBytes]
  · simp [storeBytes, room, ofBytes]

theorem storeText_zero (c : Classes) (offset n : Nat) :
    ({} : Memory).storeText c offset n (.scalar (.text "")) = .ok {} := by
  by_cases room : 0 < n
  · simp [storeText, Value.codes?, room]
  · simp [storeText, Value.codes?, room]

theorem store_object (c : Classes) (t : NativeType) (offset : Nat) (bits : Option (Nat × Nat))
    (object : zeroDatum t = .object t {}) : ({} : Memory).store c t offset bits (zeroDatum t) = .ok {} := by
  rw [object]
  unfold store
  split
  · cases object
  · cases object
  · cases object
  · simp [NativeType.same_self]

theorem store_zeroDatum (c : Classes) (t : NativeType) (offset : Nat) (bits : Option (Nat × Nat)) :
    ({} : Memory).store c t offset bits (zeroDatum t) = .ok {} := by
  cases t with
  | simple s => exact storeSimple_zero s offset bits
  | array element n =>
    cases element with
    | simple s =>
      cases s with
      | char => exact storeBytes_zero c offset n
      | wideChar => exact storeText_zero c offset n
      | _ => exact store_object c _ offset bits rfl
    | _ => exact store_object c _ offset bits rfl
  | _ => exact store_object c _ offset bits rfl

end Memory

/-- What a place of this type shows of memory that is all zero. Records, and arrays of anything but characters, show
what their parts do. -/
def Memory.ReadsZero (m : Memory) (t : NativeType) (offset : Nat) (bits : Option (Nat × Nat)) : Prop :=
  match t with
  | .simple s => m.readSimple s offset bits = s.zeroValue
  | .pointer _ | .function _ _ => m.read offset 8 = 0
  | .array (.simple .char) _ => m.textAt? t offset = some (.bytes [])
  | .array (.simple .wideChar) _ => m.textAt? t offset = some (.text "")
  | .array _ _ | .record _ => True

theorem Memory.readsZero_empty (t : NativeType) (offset : Nat) (bits : Option (Nat × Nat)) :
    ({} : Memory).ReadsZero t offset bits := by
  unfold ReadsZero
  split
  · exact readSimple_empty _ _ _
  · exact read_empty _ _
  · exact read_empty _ _
  · simp [textAt?, Memory.bytes]
  · simp [textAt?, Value.ofPoints]
  · trivial
  · trivial

namespace Classes

/-- An object of type `t` has a part of type `u` that lies so far from its start: the object itself, elements of its
arrays, and members of its records, at any depth. -/
inductive PartAt (c : Classes) (t : NativeType) : NativeType → Int → Option (Nat × Nat) → Prop
  | whole : PartAt c t t 0 none
  | element {e n place bits k} (outer : PartAt c t (.array e n) place bits) (inside : k < n) :
    PartAt c t e (place + ((c.layout (.array e n)).1 / n * k : Nat)) none
  | member {i fields f s place bits} (outer : PartAt c t (.record i) place bits)
    (given : (c.record i).fields = some fields) (inside : f ∈ fields)
    (slot : (c.record i).slots.lookup f.name = some s) : PartAt c t s.type (place + s.offset) s.bits

theorem lies_iff {c : Classes} {size : Nat} {t : NativeType} {offset : Int} :
    c.lies size t offset = true ↔ 0 ≤ offset ∧ offset + (c.layout t).1 ≤ size := by
  simp [lies]

/-- The members of a record can be reached: each has a slot, and none is in the place of what finds them. -/
def legible (c : Classes) : NativeType → Bool
  | .record i =>
    ((c.record i).override? "__getattribute__").isNone &&
      ((c.record i).fields.getD []).all fun f => ((c.record i).slots.lookup f.name).isSome
  | _ => true

/-- Every part of the zero of a type can be read, and lies inside it. Scalars and texts are read as they are. -/
def Displays (c : Classes) (t : NativeType) : Prop :=
  (∃ m, zeroDatum t = .object t m) → ∀ u place bits, c.PartAt t u place bits →
    c.legible u = true ∧ c.lies (c.layout t).1 u place = true

/-- A value is the zero of a type: a scalar, an empty text, or an object all of whose parts can be read, lie inside the
object and are zero. -/
def IsZero (c : Classes) (t : NativeType) (d : Datum) : Prop :=
  match t with
  | .simple s => d = .scalar s.zeroValue
  | .array (.simple .char) _ => d = .scalar (.bytes [])
  | .array (.simple .wideChar) _ => d = .scalar (.text "")
  | t => ∃ m, d = .object t m ∧ ∀ u place bits, c.PartAt t u place bits →
      c.legible u = true ∧ c.lies (c.layout t).1 u place = true ∧ m.ReadsZero u place.toNat bits

theorem IsZero.displays {c : Classes} {t : NativeType} {d : Datum} (isZero : c.IsZero t d) : c.Displays t := by
  rintro ⟨m, object⟩ u place bits part
  unfold IsZero at isZero
  split at isZero
  · cases object
  · cases object
  · cases object
  · obtain ⟨_, _, parts⟩ := isZero
    obtain ⟨legible, lies, -⟩ := parts u place bits part
    exact ⟨legible, lies⟩

theorem isZero_zeroDatum {c : Classes} {t : NativeType} (displays : c.Displays t) : c.IsZero t (zeroDatum t) := by
  unfold IsZero
  split
  · rfl
  · rfl
  · rfl
  · have object : zeroDatum t = .object t {} := by
      unfold zeroDatum
      split
      · simp_all
      · simp_all
      · simp_all
      · rfl
    refine ⟨{}, object, fun u place bits part => ?_⟩
    obtain ⟨legible, lies⟩ := displays ⟨{}, object⟩ u place bits part
    exact ⟨legible, lies, Memory.readsZero_empty u place.toNat bits⟩

/-- A record class holds another one by value, as a member of a member and so on, but not in an array. -/
inductive Embeds (c : Classes) (i : Nat) : Nat → Prop
  | self : Embeds c i i
  | member {j k fields f} (outer : Embeds c i j) (given : (c.record j).fields = some fields) (inside : f ∈ fields)
    (typed : f.type = .record k) : Embeds c i k

/-- The class has a field list of which not all members were placed, or it is a member of itself. -/
def Refused (c : Classes) (i : Nat) : Prop :=
  ∃ fields, (c.record i).fields = some fields ∧
    ((c.record i).length ≠ fields.length ∨ ∃ f ∈ fields, f.type = .record i)

/-- What objects of a class cannot do without when they are made. -/
def makingNames : List String := ["__new__", "__init__", "__setattr__"]

/-- A member of the class stands for what makes its objects. -/
def Unmakeable (c : Classes) (i : Nat) : Prop := ∃ name ∈ makingNames, (c.record i).override? name ≠ none

/-- The tables differ in marks and sizes only. -/
structure Alike (c c' : Classes) : Prop where
  length_eq : c'.records.length = c.records.length
  body_eq : ∀ j, (c'.record j).body = (c.record j).body
  isUnion_eq : ∀ j, (c'.record j).isUnion = (c.record j).isUnion

theorem Alike.refl (c : Classes) : Alike c c := ⟨rfl, fun _ => rfl, fun _ => rfl⟩

theorem Alike.trans {c c' c'' : Classes} (first : Alike c c') (second : Alike c' c'') : Alike c c'' where
  length_eq := second.length_eq.trans first.length_eq
  body_eq j := (second.body_eq j).trans (first.body_eq j)
  isUnion_eq j := (second.isUnion_eq j).trans (first.isUnion_eq j)

theorem Alike.override? {c c' : Classes} (alike : Alike c c') (j : Nat) (name : String) :
    (c'.record j).override? name = (c.record j).override? name := by
  have slots := (RecordClass.fields_slots_of_body (alike.body_eq j)).2
  rw [RecordClass.override?, RecordClass.override?, alike.isUnion_eq, slots]

theorem alike_markFinal (c : Classes) (t : NativeType) : Alike c (c.markFinal t) := by
  have marked (j : Nat) : ∃ final, (c.markFinal t).record j = { c.record j with isFinal := final } := by
    obtain ⟨final, marked, -⟩ := ClassWork.record_markFinal c t j
    exact ⟨final, marked⟩
  refine ⟨(sameCores_markFinal t c).1, fun j => ?_, fun j => ?_⟩
  · obtain ⟨final, same⟩ := marked j
    rw [same]
    rfl
  · obtain ⟨final, same⟩ := marked j
    rw [same]

theorem Embeds.trans {c : Classes} {i j k : Nat} (first : Embeds c i j) (second : Embeds c j k) : Embeds c i k := by
  induction second with
  | self => exact first
  | member _ given inside typed ih => exact .member ih given inside typed

end Classes

namespace ZeroWork

open Classes

variable {c c₀ c' : Classes} {i fuel : Nat}

theorem zeroScalar_eq (s : Simple) : zeroScalar s = s.zeroValue := Memory.readSimple_empty s 0 none

theorem fillMembers_zero (r : RecordClass) (c : Classes) {fields : List (Field NativeType)}
    (typed : ∀ f ∈ fields, ∀ s, r.slots.lookup f.name = some s → s.type = f.type) :
    fillMembers r c {} (fields.zip (fields.map fun f => zeroDatum f.type)) = .ok {} := by
  induction fields with
  | nil => rfl
  | cons f rest ih =>
    have onward := ih fun g inside => typed g (.tail f inside)
    rw [List.map_cons, List.zip_cons_cons, fillMembers]
    split
    · exact onward
    · rename_i s slot
      rw [typed f (.head rest) s slot, Memory.store_zeroDatum]
      change fillMembers r c (if 0 ≤ s.offset then {} else {}) _ = _
      rw [ite_self]
      exact onward

/-- All members of the class are placed, each in a slot of its own type. -/
def Ready (c : Classes) (i : Nat) : Prop :=
  ∀ fields, (c.record i).fields = some fields → (c.record i).length = fields.length ∧
    ∀ f ∈ fields, ∀ s, (c.record i).slots.lookup f.name = some s → s.type = f.type

theorem construct_run (i : Nat) (values : List Datum) (c : Classes) :
    (construct i values).run c =
      if ((c.record i).override? "__new__").isSome then (.error (.attribute (.notCallable "_ctypes.CField")), c)
      else (fill (c.markFinal (.record i)) i values, c.markFinal (.record i)) := by
  unfold construct
  rw [run_bind, run_get]
  dsimp only
  split
  · rfl
  · have marked : (modify (·.markFinal (.record i)) : ZeroWork PUnit).run c = (.ok ⟨⟩, c.markFinal (.record i)) := rfl
    rw [run_bind, marked]
    dsimp only
    rw [run_bind, run_get]
    dsimp only
    cases fill (c.markFinal (.record i)) i values with
    | error f => rfl
    | ok m => rfl

theorem fill_zero (alike : Alike c₀ c) (ready : Ready c₀ i) (makeable : ¬ Unmakeable c₀ i) :
    fill c i (((c₀.record i).fields.getD []).map fun f => zeroDatum f.type) = .ok {} := by
  have free {name : String} (making : name ∈ makingNames) : (c.record i).override? name = none := by
    rw [alike.override?]
    by_contra taken
    exact makeable ⟨name, making, taken⟩
  obtain ⟨fields, -, slots, length, -⟩ := RecordClass.body_eq_iff.mp (alike.body_eq i)
  unfold fill
  dsimp only
  rw [free (by simp [makingNames]), free (by simp [makingNames]), fields, length]
  cases given : (c₀.record i).fields with
  | none =>
    rw [Option.getD_none, List.take_nil]
    rfl
  | some members =>
    obtain ⟨whole, typed⟩ := ready members given
    rw [Option.getD_some, whole, List.take_length]
    dsimp only [Option.or]
    rw [fillMembers_zero _ _ (slots ▸ typed)]
    dsimp only
    rw [Option.isSome_some, if_pos rfl, List.length_map, if_neg (Nat.lt_irrefl _)]

theorem construct_zero (alike : Alike c₀ c) (ready : Ready c₀ i) (makeable : ¬ Unmakeable c₀ i) :
    ∃ c', Alike c₀ c' ∧
      (construct i (((c₀.record i).fields.getD []).map fun f => zeroDatum f.type)).run c = (.ok {}, c') := by
  have alike' := alike.trans (alike_markFinal c (.record i))
  have unmade : ¬ ((c.record i).override? "__new__").isSome := by
    rw [alike.override?, Option.isSome_iff_ne_none]
    exact fun taken => makeable ⟨"__new__", by simp [makingNames], taken⟩
  refine ⟨_, alike', ?_⟩
  rw [construct_run, if_neg unmade, fill_zero alike' ready makeable]

theorem fill_ok {values : List Datum} {m : Memory} (filled : fill c i values = .ok m) :
    (c.record i).override? "__init__" = none ∧ (c.record i).override? "__setattr__" = none ∧
      ((c.record i).fields.isSome → values.length ≤ (c.record i).length) := by
  unfold fill at filled
  dsimp only at filled
  split at filled
  · cases filled
  · rename_i free
    rw [Option.or_eq_none_iff] at free
    refine ⟨free.1, free.2, fun given => ?_⟩
    split at filled
    · cases filled
    · rw [if_pos given] at filled
      split at filled
      · cases filled
      · rename_i room
        exact Nat.le_of_not_lt room

/- There must be a place for each value, and nothing in the place of what makes the object. -/
theorem construct_ok {values : List Datum} {m : Memory} (ended : (construct i values).run c = (.ok m, c')) :
    Alike c c' ∧ ¬ Unmakeable c i ∧ ((c.record i).fields.isSome → values.length ≤ (c.record i).length) := by
  have alike := alike_markFinal c (.record i)
  obtain ⟨fields, -, -, length, -⟩ := RecordClass.body_eq_iff.mp (alike.body_eq i)
  rw [construct_run] at ended
  split at ended
  · cases ended
  · rename_i unmade
    obtain ⟨init, set, room⟩ := fill_ok (congrArg Prod.fst ended)
    rw [alike.override?] at init set
    rw [fields, length] at room
    cases congrArg Prod.snd ended
    refine ⟨alike, ?_, room⟩
    rintro ⟨name, making, taken⟩
    simp only [makingNames, List.mem_cons, List.not_mem_nil, or_false] at making
    rcases making with rfl | rfl | rfl
    · exact unmade (Option.isSome_iff_ne_none.mpr taken)
    · exact taken init
    · exact taken set

/- One zero after another, each with fuel enough. -/
theorem zeros_made {fields : List (Field NativeType)} {n : Nat}
    (each : ∀ f ∈ fields, ∀ fuel ≥ n, ∀ c, Alike c₀ c →
      ∃ c', Alike c₀ c' ∧ (zero fuel f.type).run c = (.ok (zeroDatum f.type), c'))
    (enough : fields.length + n ≤ fuel) (alike : Alike c₀ c) :
    ∃ c', Alike c₀ c' ∧ (zeros fuel fields).run c = (.ok (fields.map fun f => zeroDatum f.type), c') := by
  induction fields generalizing fuel c with
  | nil =>
    rw [zeros]
    exact ⟨c, alike, rfl⟩
  | cons f rest ih =>
    rw [List.length_cons] at enough
    obtain ⟨fuel, rfl⟩ : ∃ less, fuel = less + 1 := ⟨fuel - 1, by omega⟩
    obtain ⟨c₁, alike₁, made⟩ := each f (.head rest) fuel (by omega) c alike
    have enough' : rest.length + n ≤ fuel := by omega
    obtain ⟨c₂, alike₂, others⟩ := ih (fun g inside => each g (.tail f inside)) enough' alike₁
    refine ⟨c₂, alike₂, ?_⟩
    rw [zeros, run_bind, made]
    dsimp only
    rw [run_bind, others]
    rfl

theorem zeros_ok {fields : List (Field NativeType)} {ds : List Datum}
    (ended : (zeros fuel fields).run c = (.ok ds, c')) (alike : Alike c₀ c)
    (left : ∀ less < fuel, ∀ t d c c', Alike c₀ c → (zero less t).run c = (.ok d, c') → Alike c₀ c') :
    Alike c₀ c' ∧ ds.length = fields.length ∧
      ∀ f ∈ fields, ∃ less < fuel, ∃ d c c', Alike c₀ c ∧ (zero less f.type).run c = (.ok d, c') := by
  induction fields generalizing fuel c ds with
  | nil =>
    rw [zeros] at ended
    cases ended
    exact ⟨alike, rfl, by simp⟩
  | cons f rest ih =>
    cases fuel with
    | zero =>
      rw [zeros] at ended
      · cases ended
      · simp
    | succ fuel =>
      rw [zeros] at ended
      obtain ⟨d, c₁, made, onward⟩ := run_bind_ok ended
      obtain ⟨others, c₂, rest_made, remaining⟩ := run_bind_ok onward
      cases remaining
      have alike₁ := left fuel (Nat.lt_succ_self _) f.type d c c₁ alike made
      obtain ⟨alike₂, length, each⟩ := ih rest_made alike₁ fun less below => left less (by omega)
      refine ⟨alike₂, by rw [List.length_cons, List.length_cons, length], fun g inside => ?_⟩
      rcases List.mem_cons.mp inside with rfl | later
      · exact ⟨fuel, by omega, d, c, c₁, alike, made⟩
      · obtain ⟨less, below, rest⟩ := each g later
        exact ⟨less, by omega, rest⟩

theorem zero_record_ok {d : Datum} (ended : (zero fuel (.record i)).run c = (.ok d, c')) (alike : Alike c₀ c)
    (left : ∀ less < fuel, ∀ t d c c', Alike c₀ c → (zero less t).run c = (.ok d, c') → Alike c₀ c') :
    Alike c₀ c' ∧ ¬ Unmakeable c₀ i ∧ ∀ fields, (c₀.record i).fields = some fields →
      fields.length ≤ (c₀.record i).length ∧
      ∀ f ∈ fields, ∃ less < fuel, ∃ d c c', Alike c₀ c ∧ (zero less f.type).run c = (.ok d, c') := by
  cases fuel with
  | zero =>
    rw [zero] at ended
    cases ended
  | succ fuel =>
    rw [zero] at ended
    obtain ⟨c₁, c₂, got, onward⟩ := run_bind_ok ended
    cases got
    obtain ⟨values, c₃, listed, onward⟩ := run_bind_ok onward
    obtain ⟨m, c₄, built, remaining⟩ := run_bind_ok onward
    cases remaining
    obtain ⟨alike₃, length, each⟩ := zeros_ok listed alike fun less below => left less (by omega)
    obtain ⟨alike₄, makeable, room⟩ := construct_ok built
    refine ⟨alike₃.trans alike₄, fun ⟨name, making, taken⟩ => ?_, fun fields given => ?_⟩
    · exact makeable ⟨name, making, alike₃.override? i name ▸ taken⟩
    have before := (RecordClass.body_eq_iff.mp (alike.body_eq i)).1
    obtain ⟨now, -, -, counted, -⟩ := RecordClass.body_eq_iff.mp (alike₃.body_eq i)
    rw [before, given, Option.getD_some] at length each
    rw [now, given, counted, length] at room
    refine ⟨room rfl, fun f inside => ?_⟩
    obtain ⟨less, below, made⟩ := each f inside
    exact ⟨less, by omega, made⟩

/- Anything but a record has its zero at once. -/
theorem zero_other {t : NativeType} (other : ∀ i, t ≠ .record i) (fuel : Nat) (c : Classes) :
    (zero (fuel + 1) t).run c = (.ok (zeroDatum t), c) := by
  cases t with
  | simple s =>
    rw [zero, zeroScalar_eq]
    rfl
  | array element n =>
    cases element with
    | simple s =>
      cases s with
      | _ => rfl
    | _ => rfl
  | record i => exact absurd rfl (other i)
  | _ => rfl

theorem zero_left {t : NativeType} {d : Datum} (ended : (zero fuel t).run c = (.ok d, c')) (alike : Alike c₀ c) :
    Alike c₀ c' := by
  induction fuel using Nat.strongRecOn generalizing t d c c' with
  | ind fuel ih =>
    cases t with
    | record i => exact (zero_record_ok ended alike fun less below _ _ _ _ alike ended => ih less below ended alike).1
    | _ =>
      cases fuel with
      | zero =>
        rw [zero] at ended
        cases ended
      | succ fuel =>
        rw [zero_other (by simp)] at ended
        cases ended
        exact alike

/-- The zero of the type can be made with so much fuel. -/
def Makes (c₀ : Classes) (fuel : Nat) (t : NativeType) : Prop :=
  ∃ c d c', Alike c₀ c ∧ (zero fuel t).run c = (.ok d, c')

theorem Makes.members {fields : List (Field NativeType)} (makes : Makes c₀ fuel (.record i))
    (given : (c₀.record i).fields = some fields) :
    fields.length ≤ (c₀.record i).length ∧ ∀ f ∈ fields, ∃ less < fuel, Makes c₀ less f.type := by
  obtain ⟨c, d, c', alike, ended⟩ := makes
  obtain ⟨-, -, members⟩ := zero_record_ok ended alike fun _ _ _ _ _ _ alike ended => zero_left ended alike
  obtain ⟨room, each⟩ := members fields given
  refine ⟨room, fun f inside => ?_⟩
  obtain ⟨less, below, d, c, c', alike, ended⟩ := each f inside
  exact ⟨less, below, c, d, c', alike, ended⟩

theorem Makes.makeable (makes : Makes c₀ fuel (.record i)) : ¬ Unmakeable c₀ i := by
  obtain ⟨c, d, c', alike, ended⟩ := makes
  exact (zero_record_ok ended alike fun _ _ _ _ _ _ alike ended => zero_left ended alike).2.1

/- The zero of a class that holds itself would have to be made before it is made. -/
theorem Makes.apart {fields : List (Field NativeType)} (makes : Makes c₀ fuel (.record i))
    (given : (c₀.record i).fields = some fields) : ∀ f ∈ fields, f.type ≠ .record i := by
  induction fuel using Nat.strongRecOn with
  | ind fuel ih =>
    intro f inside same
    obtain ⟨less, below, inner⟩ := (makes.members given).2 f inside
    rw [same] at inner
    exact ih less below inner f inside same

theorem Makes.embeds {k : Nat} (makes : Makes c₀ fuel (.record i)) (embeds : Embeds c₀ i k) :
    ∃ fuel, Makes c₀ fuel (.record k) := by
  induction embeds with
  | self => exact ⟨fuel, makes⟩
  | member _ given inside typed ih =>
    obtain ⟨fuel, outer⟩ := ih
    obtain ⟨less, -, inner⟩ := (outer.members given).2 _ inside
    exact ⟨less, typed ▸ inner⟩

theorem Makes.unrefused {k : Nat} (sound : Sound c₀) (makes : Makes c₀ fuel (.record i)) (embeds : Embeds c₀ i k) :
    ¬ Refused c₀ k := by
  rintro ⟨fields, given, cut | ⟨f, inside, same⟩⟩
  · obtain ⟨fuel, inner⟩ := makes.embeds embeds
    have room := (inner.members given).1
    rcases (sound.classes k).counted fields given with whole | ⟨none, -⟩
    · exact cut whole
    · omega
  · obtain ⟨fuel, inner⟩ := makes.embeds embeds
    exact inner.apart given f inside same

/-- The class can be made: all its members are placed, and none of them is in the way. -/
structure Fit (c : Classes) (i : Nat) : Prop where
  wellNamed : c.WellNamed i
  unrefused : ¬ Refused c i
  makeable : ¬ Unmakeable c i

/-- What making the zero of a class costs beyond the zeros of its members. -/
def weight (c : Classes) (i : Nat) : Nat := ((c.record i).fields.getD []).length + 2

theorem ready_of_unrefused (sound : Sound c₀) (wellNamed : c₀.WellNamed i) (unrefused : ¬ Refused c₀ i) :
    Ready c₀ i := by
  intro fields given
  have whole : (c₀.record i).length = fields.length := by
    by_contra cut
    exact unrefused ⟨fields, given, .inl cut⟩
  refine ⟨whole, fun f inside s slot => ?_⟩
  obtain ⟨s', slot', typed⟩ := (sound.classes i).own fields given whole wellNamed f inside
  cases slot.symm.trans slot'
  exact typed

section Made

variable {rank : Nat → Nat} (sound : Sound c₀) (ranked : ∀ i k, c₀.HasPart i (.record k) → k = i ∨ rank k < rank i)

include sound ranked

/- The zeros of the members, from those of the classes below. -/
theorem members_made (fit : ∀ k, Embeds c₀ i k → Fit c₀ k)
    (inner : ∀ k, Embeds c₀ i k → rank k < rank i → ∀ fuel, 1 ≤ fuel →
      burden rank (weight c₀) c₀.records.length k ≤ fuel → ∀ c, Alike c₀ c →
        ∃ c', Alike c₀ c' ∧ (zero fuel (.record k)).run c = (.ok (zeroDatum (.record k)), c'))
    (enough : burden rank (weight c₀) c₀.records.length i ≤ fuel + 1) (alike : Alike c₀ c) :
    ∃ c', Alike c₀ c' ∧ (zeros fuel ((c₀.record i).fields.getD [])).run c =
      (.ok (((c₀.record i).fields.getD []).map fun f => zeroDatum f.type), c') := by
  obtain ⟨wellNamed, unrefused, -⟩ := fit i .self
  cases given : (c₀.record i).fields with
  | none =>
    refine ⟨c, alike, ?_⟩
    rw [Option.getD_none, zeros]
    rfl
  | some fields =>
    have whole := (ready_of_unrefused sound wellNamed unrefused fields given).1
    have inside := ClassWork.lt_of_fields given
    have own : weight c₀ i = fields.length + 2 := by rw [weight, given, Option.getD_some]
    have least : weight c₀ i ≤ burden rank (weight c₀) c₀.records.length i := weight_le_burden (weight c₀) inside
    rw [Option.getD_some]
    refine zeros_made (n := fuel - fields.length) (fun f member less above c alike => ?_) (by omega) alike
    by_cases other : ∃ k, f.type = .record k
    · obtain ⟨k, typed⟩ := other
      have lower : rank k < rank i := by
        refine (ranked i k (.inr ⟨fields, given, whole, f, member, typed⟩)).resolve_left fun same => ?_
        exact unrefused ⟨fields, given, .inr ⟨f, member, same ▸ typed⟩⟩
      have below : burden rank (weight c₀) c₀.records.length k + weight c₀ i ≤
        burden rank (weight c₀) c₀.records.length i := burden_add_le lower inside
      rw [typed]
      exact inner k (.member .self given member typed) lower less (by omega) (by omega) c alike
    · obtain ⟨less, rfl⟩ : ∃ fewer, less = fewer + 1 := ⟨less - 1, by omega⟩
      exact ⟨c, alike, zero_other (fun k same => other ⟨k, same⟩) less c⟩

theorem zero_record_made (fit : ∀ k, Embeds c₀ i k → Fit c₀ k) (some : 1 ≤ fuel)
    (enough : burden rank (weight c₀) c₀.records.length i ≤ fuel) (alike : Alike c₀ c) :
    ∃ c', Alike c₀ c' ∧ (zero fuel (.record i)).run c = (.ok (zeroDatum (.record i)), c') := by
  induction level : rank i using Nat.strongRecOn generalizing i fuel c with
  | ind bound ih =>
    obtain ⟨fuel, rfl⟩ : ∃ less, fuel = less + 1 := ⟨fuel - 1, by omega⟩
    have ready := ready_of_unrefused sound (fit i .self).wellNamed (fit i .self).unrefused
    obtain ⟨c₁, alike₁, listed⟩ := members_made sound ranked fit (fun k embeds lower fuel some enough c alike =>
      ih (rank k) (level ▸ lower) (fun m inner => fit m (embeds.trans inner)) some enough alike rfl) enough alike
    obtain ⟨c₂, alike₂, built⟩ := construct_zero alike₁ ready (fit i .self).makeable
    refine ⟨c₂, alike₂, ?_⟩
    have before := (RecordClass.body_eq_iff.mp (alike.body_eq i)).1
    rw [zero, run_bind, run_get]
    dsimp only
    rw [before, run_bind, listed]
    dsimp only
    rw [run_bind, built]
    rfl

end Made

section Fuel

theorem foldl_eq_sum (w : RecordClass → Nat) (none : RecordClass) (records : List RecordClass) (start : Nat) :
    records.foldl (fun n r => n + w r) start =
      start + ∑ k ∈ Finset.range records.length, w ((records[k]?).getD none) := by
  induction records generalizing start with
  | nil => rfl
  | cons r rest ih =>
    rw [List.foldl_cons, ih, List.length_cons, Finset.sum_range_succ', Nat.add_assoc, Nat.add_comm (w r)]
    rfl

theorem fuelFor_eq (c : Classes) (t : NativeType) :
    fuelFor c t = 2 * c.depthFrom t + ∑ k ∈ Finset.range c.records.length, weight c k :=
  foldl_eq_sum (fun r => (r.fields.getD []).length + 2) { name := "" } c.records (2 * c.depthFrom t)

theorem burden_le_fuelFor (rank : Nat → Nat) (c : Classes) (t : NativeType) (i : Nat) :
    burden rank (weight c) c.records.length i ≤ fuelFor c t := by
  have below := burden_le_sum rank (weight c) c.records.length i
  rw [fuelFor_eq]
  omega

theorem fuelFor_pos (c : Classes) (t : NativeType) : 1 ≤ fuelFor c t := by
  by_cases inside : 0 < c.records.length
  · have least : weight c 0 ≤ burden (fun _ => 0) (weight c) c.records.length 0 := weight_le_burden (weight c) inside
    have below := burden_le_fuelFor (fun _ => 0) c t 0
    have two : 2 ≤ weight c 0 := Nat.le_add_left 2 _
    omega
  · have empty : c.records = [] := List.length_eq_zero_iff.mp (Nat.eq_zero_of_not_pos inside)
    rw [fuelFor_eq, depthFrom, empty, List.foldl_nil]
    omega

end Fuel

/-- The zeros of the members of a record, and of the record itself, are made, and are zero. -/
def HasZeros (c : Classes) (i : Nat) : Prop :=
  (∃ ds, ((zerosOf i).run c).1 = .ok ds ∧
    List.Forall₂ (fun f d => c.IsZero f.type d) ((c.record i).fields.getD []) ds) ∧
  ∃ d, ((zeroOf (.record i)).run c).1 = .ok d ∧ c.IsZero (.record i) d

theorem makes_of_zeroOf {d : Datum} (made : ((zeroOf (.record i)).run c).1 = .ok d) :
    Makes c (fuelFor c (.record i)) (.record i) :=
  ⟨c, d, ((zeroOf (.record i)).run c).2, Alike.refl c, Prod.ext made rfl⟩

theorem hasZeros_iff (sound : Sound c) (wellNamed : ∀ k, Embeds c i k → c.WellNamed k) :
    HasZeros c i ↔ (∀ k, Embeds c i k → ¬ Refused c k ∧ ¬ Unmakeable c k) ∧
      c.Displays (.record i) ∧ ∀ f ∈ (c.record i).fields.getD [], c.Displays f.type := by
  constructor
  · rintro ⟨⟨ds, -, zeros⟩, d, made, isZero⟩
    have each := zeros.imp fun f d isZero => And.intro isZero.displays isZero
    refine ⟨fun k embeds => ?_, isZero.displays, ((List.forall₂_and_left _ _).mp each).1⟩
    obtain ⟨fuel, inner⟩ := (makes_of_zeroOf made).embeds embeds
    exact ⟨(makes_of_zeroOf made).unrefused sound embeds, inner.makeable⟩
  · rintro ⟨made, whole, each⟩
    obtain ⟨rank, ranked⟩ := sound.ranked
    have fit (k : Nat) (embeds : Embeds c i k) : Fit c k :=
      ⟨wellNamed k embeds, (made k embeds).1, (made k embeds).2⟩
    have enough := burden_le_fuelFor rank c (.record i) i
    obtain ⟨c₁, -, made⟩ := zero_record_made sound ranked fit (fuelFor_pos c _) enough (Alike.refl c)
    obtain ⟨c₂, -, listed⟩ := members_made sound ranked fit (fun k embeds _ fuel some enough c alike =>
      zero_record_made sound ranked (fun m inner => fit m (embeds.trans inner)) some enough alike)
      (Nat.le_succ_of_le enough) (Alike.refl c)
    refine ⟨⟨_, congrArg Prod.fst listed, ?_⟩, _, congrArg Prod.fst made, isZero_zeroDatum whole⟩
    refine List.forall₂_map_right_iff.mpr (List.forall₂_same.mpr fun f inside => ?_)
    exact isZero_zeroDatum (each f inside)

/-- The arrays of a type have the size that their elements have now, and its records are among those known. -/
def compact (c : Classes) (known : List Nat) : NativeType → Bool
  | .array e n => (c.layout (.array e n)).1 == (c.layout e).1 * n && compact c known e
  | .record i => known.contains i
  | _ => true

/-- The member has a slot of its type inside the class, and is not the class itself. -/
def housed (c : Classes) (known : List Nat) (j : Nat) (f : Field NativeType) : Bool :=
  compact c known f.type && f.type.record?.all (· != j) &&
    ((c.record j).slots.lookup f.name).any fun s =>
      s.type.same f.type && c.lies (c.record j).size f.type s.offset

/-- A check of some classes: their names are plain and take the place of nothing, and all their members are housed. -/
def zeroable (c : Classes) (known : List Nat) : Bool :=
  known.all fun j => c.plainlyNamed j &&
    ("__getattribute__" :: makingNames).all (fun name => ((c.record j).override? name).isNone) &&
    (c.record j).fields.all fun fields => (c.record j).length == fields.length && fields.all (housed c known j)

section Checked

variable {known : List Nat} {j : Nat}

theorem override?_of_zeroable {name : String} (checked : zeroable c known = true) (inside : j ∈ known)
    (listed : name ∈ "__getattribute__" :: makingNames) : (c.record j).override? name = none := by
  have own := List.all_eq_true.mp checked j inside
  rw [Bool.and_eq_true, Bool.and_eq_true] at own
  exact Option.isNone_iff_eq_none.mp (List.all_eq_true.mp own.1.2 name listed)

theorem fields_of_zeroable {fields : List (Field NativeType)} (checked : zeroable c known = true) (inside : j ∈ known)
    (given : (c.record j).fields = some fields) :
    (c.record j).length = fields.length ∧ ∀ f ∈ fields, housed c known j f = true := by
  have own := (Bool.and_eq_true_iff.mp (List.all_eq_true.mp checked j inside)).2
  rw [given, Option.all_some, Bool.and_eq_true] at own
  exact ⟨beq_iff_eq.mp own.1, List.all_eq_true.mp own.2⟩

theorem housed_of_zeroable {f : Field NativeType} (checked : zeroable c known = true) (inside : j ∈ known)
    (member : f ∈ (c.record j).fields.getD []) : housed c known j f = true := by
  cases given : (c.record j).fields with
  | none =>
    rw [given] at member
    cases member
  | some fields =>
    rw [given] at member
    exact (fields_of_zeroable checked inside given).2 f member

theorem compact_of_housed {f : Field NativeType} (fits : housed c known j f = true) :
    compact c known f.type = true := by
  rw [housed, Bool.and_eq_true, Bool.and_eq_true] at fits
  exact fits.1.1

theorem apart_of_housed {f : Field NativeType} {k : Nat} (fits : housed c known j f = true)
    (typed : f.type = .record k) : k ≠ j := by
  rw [housed, Bool.and_eq_true, Bool.and_eq_true, typed] at fits
  simpa [NativeType.record?] using fits.1.2

theorem slot_of_housed {f : Field NativeType} (fits : housed c known j f = true) :
    ∃ s, (c.record j).slots.lookup f.name = some s ∧ s.type = f.type ∧ 0 ≤ s.offset ∧
      s.offset + (c.layout f.type).1 ≤ (c.record j).size := by
  rw [housed, Bool.and_eq_true] at fits
  obtain ⟨s, slot, fits⟩ := (Option.any_eq_true _ _).mp fits.2
  rw [Bool.and_eq_true, lies_iff] at fits
  exact ⟨s, slot, NativeType.eq_of_same _ _ fits.1, fits.2⟩

/- A part of a compact type is compact and lies inside it: elements side by side, members where their slots are. -/
theorem part_of_zeroable {t u : NativeType} {place : Int} {bits : Option (Nat × Nat)}
    (checked : zeroable c known = true) (whole : compact c known t = true) (part : c.PartAt t u place bits) :
    compact c known u = true ∧ 0 ≤ place ∧ place + (c.layout u).1 ≤ (c.layout t).1 := by
  induction part with
  | whole => exact ⟨whole, Int.le_refl 0, by simp⟩
  | @element e n place bits k _ inside ih =>
    obtain ⟨outer, above, below⟩ := ih
    rw [compact, Bool.and_eq_true, beq_iff_eq] at outer
    have stride : (c.layout (.array e n)).1 / n = (c.layout e).1 := by
      rw [outer.1, Nat.mul_div_cancel _ (Nat.zero_lt_of_lt inside)]
    have room : (c.layout e).1 * k + (c.layout e).1 ≤ (c.layout e).1 * n := by
      rw [← Nat.mul_succ]
      exact Nat.mul_le_mul_left _ inside
    rw [stride]
    rw [outer.1] at below
    exact ⟨outer.2, by omega, by omega⟩
  | @member j fields f s place bits _ given inside slot ih =>
    obtain ⟨outer, above, below⟩ := ih
    have fits := (fields_of_zeroable checked (by simpa [compact] using outer) given).2 f inside
    obtain ⟨s', slot', typed, start, stop⟩ := slot_of_housed fits
    cases slot.symm.trans slot'
    rw [typed]
    have size : (c.layout (.record j)).1 = (c.record j).size := rfl
    rw [size] at below
    exact ⟨compact_of_housed fits, by omega, by omega⟩

theorem displays_of_zeroable {t : NativeType} (checked : zeroable c known = true) (whole : compact c known t = true) :
    c.Displays t := by
  rintro - u place bits part
  obtain ⟨compact, above, below⟩ := part_of_zeroable checked whole part
  refine ⟨?_, lies_iff.mpr ⟨above, below⟩⟩
  cases u with
  | record j =>
    have inside : j ∈ known := by simpa [ZeroWork.compact] using compact
    rw [legible, override?_of_zeroable checked inside (.head _), Option.isNone_none, Bool.true_and, List.all_eq_true]
    intro f member
    obtain ⟨s, slot, -⟩ := slot_of_housed (housed_of_zeroable checked inside member)
    rw [slot, Option.isSome_some]
  | _ => rfl

theorem members_of_zeroable (checked : zeroable c known = true) (inside : j ∈ known) :
    ∀ f ∈ (c.record j).fields.getD [], c.Displays f.type := by
  intro f member
  exact displays_of_zeroable checked (compact_of_housed (housed_of_zeroable checked inside member))

theorem mem_of_zeroable {k : Nat} (checked : zeroable c known = true) (first : i ∈ known) (embeds : Embeds c i k) :
    k ∈ known := by
  induction embeds with
  | self => exact first
  | @member j k fields f _ given member typed ih =>
    have compact := compact_of_housed ((fields_of_zeroable checked ih given).2 f member)
    rw [typed] at compact
    simpa [ZeroWork.compact] using compact

theorem fit_of_zeroable {k : Nat} (checked : zeroable c known = true) (first : i ∈ known) (embeds : Embeds c i k) :
    Fit c k := by
  have inside := mem_of_zeroable checked first embeds
  refine ⟨?_, ?_, ?_⟩
  · have own := List.all_eq_true.mp checked k inside
    rw [Bool.and_eq_true, Bool.and_eq_true] at own
    exact wellNamed_of_plainlyNamed own.1.1
  · rintro ⟨fields, given, cut | ⟨f, member, same⟩⟩
    · exact cut (fields_of_zeroable checked inside given).1
    · exact apart_of_housed ((fields_of_zeroable checked inside given).2 f member) same rfl
  · rintro ⟨name, making, taken⟩
    exact taken (override?_of_zeroable checked inside (.tail _ making))

end Checked

/- No zero can be made of a class that holds one with a field list that was refused. -/
theorem zeroOf_ne_ok {j : Nat} (sound : Sound c)
    (held : ((c.record i).fields.any fun fields => fields.any (·.type.same (.record j))) = true)
    (cut : ((c.record j).fields.any fun fields => (c.record j).length != fields.length) = true) (d : Datum) :
    ((zeroOf (.record i)).run c).1 ≠ .ok d := by
  intro made
  obtain ⟨fields, given, held⟩ := (Option.any_eq_true _ _).mp held
  obtain ⟨f, inside, same⟩ := List.any_eq_true.mp held
  obtain ⟨late, given', cut⟩ := (Option.any_eq_true _ _).mp cut
  have embeds : Embeds c i j := .member .self given inside (NativeType.eq_of_same _ _ same)
  exact (makes_of_zeroOf made).unrefused sound embeds ⟨late, given', .inl (by simpa using cut)⟩

end ZeroWork

end CBindings
