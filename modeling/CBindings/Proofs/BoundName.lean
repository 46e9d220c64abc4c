import CBindings.Declaration
import Mathlib.Logic.Basic

/-! Names that declarations bind, and the kinds of declarations that headers give. -/
namespace CBindings.Declaration

/-- The name that a declaration binds; a constructor belongs to its record, a message binds nothing. -/
def boundName? : Declaration → Option String
  | .constant c => some c.name
  | .record r => some r.name
  | .enumeration e => some e.name
  | .function f => some f.name
  | .alias a => some a.name
  | .variable v => some v.name
  | .constructor _ | .info _ | .stray _ => none

def isInfo : Declaration → Bool
  | .info _ => true
  | _ => false

def isConstructor : Declaration → Bool
  | .constructor _ => true
  | _ => false

def isEnumeration : Declaration → Bool
  | .enumeration _ => true
  | _ => false

def isProbed : Declaration → Bool
  | .constant c => c.probed
  | _ => false

/-- Declarations that are read off a header: all that bind a name, without a look at a compiler. -/
def isCollected (d : Declaration) : Bool := d.boundName?.isSome && !d.isProbed

theorem name?_of_boundName? {d : Declaration} {name : String} (bound : d.boundName? = some name) :
    d.name? = .ok (some name) := by
  cases d <;> simp_all [boundName?, name?]

theorem exists_boundName? {d : Declaration} (collected : d.isCollected = true) :
    ∃ name, d.boundName? = some name := by
  simp only [isCollected, Bool.and_eq_true] at collected
  exact Option.isSome_iff_exists.mp collected.1

/-- The names that declarations bind, in their order. -/
def names (ds : List Declaration) : List String := ds.filterMap boundName?

@[simp] theorem names_append (ds es : List Declaration) : names (ds ++ es) = names ds ++ names es := by
  simp [names]

theorem names_cons_some {d : Declaration} {name : String} (bound : d.boundName? = some name)
    (ds : List Declaration) : names (d :: ds) = name :: names ds :=
  List.filterMap_cons_some bound

theorem names_cons_none {d : Declaration} (unbound : d.boundName? = none) (ds : List Declaration) :
    names (d :: ds) = names ds :=
  List.filterMap_cons_none unbound

theorem mem_names_iff (ds : List Declaration) (name : String) :
    name ∈ names ds ↔ ∃ d ∈ ds, d.boundName? = some name := by
  simp [names]

/-- A record of which nothing but the name is known. -/
def IsOpaque (name : String) (d : Declaration) : Prop := ∃ r, d = .record r ∧ r.name = name ∧ r.fields = none

instance (name : String) : DecidablePred (IsOpaque name)
  | .record r => decidable_of_iff (r.name = name ∧ r.fields.isNone = true) (by simp [IsOpaque])
  | .constant _ | .enumeration _ | .function _ | .alias _ | .variable _ | .constructor _ | .info _ | .stray _ =>
    .isFalse (by simp [IsOpaque])

end CBindings.Declaration
