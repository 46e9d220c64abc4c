import CBindings.Proofs.Number.Significant
import CBindings.Proofs.Probe.Segment
import CBindings.Proofs.Registry.Numbers

/-! Floating-point values as a probe prints them. They are printed with digits enough to tell any two apart, but not
with a mark of their type: an integer that has no more than those digits is printed as one, and read as one. -/
namespace CBindings.Probe

inductive FloatType where
  | float
  | double
deriving DecidableEq, Repr

namespace FloatType

def format : FloatType → FloatFormat
  | float => binary32
  | double => binary64

/-- The significant digits that are printed. -/
def digits : FloatType → Nat
  | float => 9
  | double => 17

theorem digits_pos (t : FloatType) : 0 < t.digits := by
  cases t <;> decide

theorem digits_le (t : FloatType) : t.digits ≤ Number.decimalLimit := by
  cases t <;> decide

theorem digits_enough (t : FloatType) : 2 ^ t.format.precision ≤ 2 * 10 ^ (t.digits - 1) := by
  cases t <;> decide

end FloatType

/-- The entry of a floating-point value in a probe's output. -/
def floatingEntry (n : Identifier) (t : FloatType) (x : t.format.Finite) : String :=
  String.ofList (entryText n (x.general t.digits).text)

/-- The value is the integer `z`, and `z` has no more digits than are printed. -/
def PrintedBare {t : FloatType} (x : t.format.Finite) (z : Int) : Prop := x.toRat = z ∧ z.natAbs < 10 ^ t.digits

variable {n : Identifier} {t : FloatType}

theorem readSegment_floatingEntry (e : Evaluator) (x : t.format.Finite) :
    readSegment e (floatingEntry n t x) = .ok (.ok (numberReading n.text (x.general t.digits))) := by
  obtain ⟨filled, snug⟩ := text_snug (x.general t.digits)
  have short := (x.general_length t.digits_pos).trans t.digits_le
  refine readSegment_number _ short (splitSegment_entry filled snug ?_)
  rw [floatingEntry, String.toList_ofList]
  exact Text.strip_eq_self (entryText_snug filled snug)

/-- Every finite floating-point value is read as a number. It keeps its kind unless it is an integer that has no more
digits than are printed; such a value is read, bound and listed in the index as that integer. -/
theorem floatingEntry_registered (e : Evaluator) (n : Identifier) (t : FloatType) (x : t.format.Finite) {r : Registry}
    (free : r.names.has n.text = false) :
    ∃ reading r', readSegment e (floatingEntry n t x) = .ok (.ok reading) ∧ reading.name = n.text ∧
      (reading.kind = .float ↔ ¬∃ z, PrintedBare x z) ∧ (reading.kind = .integer ↔ ∃ z, PrintedBare x z) ∧
      (reading.kind = .float ↔ ∃ y, reading.value = .float y) ∧
      (Register.registerConstant reading.constant).run r = (.ok true, r') ∧
      ∀ z : Int, (reading.value = .int z ↔ PrintedBare x z) ∧
        (r'.names.get? n.text = some (.value (.int z)) ↔ PrintedBare x z) ∧
        (n.text ∈ r'.index.namesOf z ↔ n.text ∈ r.index.namesOf z ∨ PrintedBare x z) := by
  have named := numberReading_name n.text (x.general t.digits)
  have bare (z : Int) : (numberReading n.text (x.general t.digits)).value = .int z ↔ PrintedBare x z :=
    (numberReading_int_iff _ _ z).trans (x.general_integer_iff t.digits_pos t.digits_enough z)
  have kinds := numberReading_cases n.text (x.general t.digits)
  have read := readSegment_floatingEntry (n := n) e x
  generalize numberReading n.text (x.general t.digits) = reading at named bare kinds read
  have unbound : r.names.has reading.constant.name = false := by
    rw [Reading.constant, named]
    exact free
  have kept : (reading.kind = .float ↔ ¬∃ z, PrintedBare x z) ∧ (reading.kind = .integer ↔ ∃ z, PrintedBare x z) ∧
      (reading.kind = .float ↔ ∃ y, reading.value = .float y) := by
    simp only [← bare]
    rcases kinds with ⟨y, value, kind⟩ | ⟨z, value, kind⟩
    · simp [value, kind]
    · simp [value, kind]
  refine ⟨reading, _, read, named, kept.1, kept.2.1, kept.2.2, Register.registerConstant_free unbound, ?_⟩
  intro z
  refine ⟨bare z, ?_, ?_⟩
  · simp [Reading.constant, named, Namespace.get?_insert, bare z]
  · simp only [Reading.constant, named, ConstantIndex.mem_namesOf_add, bare z]

def ratio : Identifier := ⟨'R', ['A', 'T', 'I', 'O'], by decide, by decide⟩

/-- One half. -/
def half : FloatType.double.format.Finite := ⟨false, 2 ^ 52, -53, by decide, by decide, by decide⟩

theorem half_registered :
    ({} : Registry).names.has ratio.text = false ∧ floatingEntry ratio .double half = "const RATIO = 0.5" ∧
      ∃ reading, readSegment .refusing "const RATIO = 0.5" = .ok (.ok reading) ∧ reading.kind = .float := by
  have free : ({} : Registry).names.has ratio.text = false := by decide +kernel
  have printed : floatingEntry ratio .double half = "const RATIO = 0.5" := by decide +kernel
  refine ⟨free, printed, ?_⟩
  obtain ⟨reading, -, read, -, kept, -⟩ := floatingEntry_registered .refusing ratio .double half free
  rw [printed] at read
  refine ⟨reading, read, kept.mpr ?_⟩
  rintro ⟨z, whole, -⟩
  have value : half.toRat = 1 / 2 := by norm_num [FloatFormat.Finite.toRat, half]
  have double : (1 : ℚ) = ((2 * z : Int) : ℚ) := by
    push_cast
    linarith
  have odd : (1 : Int) = 2 * z := by exact_mod_cast double
  omega

/-- Two. -/
def two : FloatType.double.format.Finite := ⟨false, 2 ^ 52, -51, by decide, by decide, by decide⟩

theorem two_read_as_integer :
    floatingEntry ratio .double two = "const RATIO = 2" ∧
      readSegment .refusing "const RATIO = 2" = .ok (.ok ⟨"RATIO", .int 2, .integer⟩) ∧
      ((Register.registerConstant (Reading.constant ⟨"RATIO", .int 2, .integer⟩)).run {}).2.index.namesOf 2 =
        ["RATIO"] := by
  decide +kernel

end CBindings.Probe
