import CBindings.Proofs.Registry.Enumerators
import CBindings.Proofs.Registry.Trials

/-! Which registrations return. Every fault costs only the declaration at hand, apart from three: an array that no
memory can hold, a pointer to a function with too many arguments, and an enumerator that is no member of its
enumeration. -/
namespace CBindings

mutual
/-- How many types stand one inside the other. -/
def TypeExpr.levels : TypeExpr → Nat
  | .named _ _ none => 1
  | .named _ _ (some t) => t.levels + 1
  | .pointer t => t.levels + 1
  | .array t _ => t.levels + 1
  | .function result parameters _ => max result.levels (levelsOfParameters parameters) + 1
  | .record ⟨_, none, _, _, _⟩ => 1
  | .record ⟨_, some fields, _, _, _⟩ => levelsOfFields fields + 1
  | .stray _ => 1

def levelsOfParameters : List (Parameter TypeExpr) → Nat
  | [] => 0
  | ⟨_, t⟩ :: rest => max t.levels (levelsOfParameters rest)

def levelsOfFields : List (Field TypeExpr) → Nat
  | [] => 0
  | ⟨_, t, _⟩ :: rest => max t.levels (levelsOfFields rest)
end

/-- The same for the types of a declaration. -/
def Declaration.levels : Declaration → Nat
  | .record r => (TypeExpr.record r).levels
  | .function f => (TypeExpr.function f.result f.parameters f.variadic).levels
  | .alias a => a.target.levels
  | .variable v => v.type.levels
  | _ => 0

namespace Register

open Outcome

variable {r r' s : Registry} {t : TypeExpr} {name : String}

/-- Trying the declaration ends the whole registration. -/
def Escapes (r : Registry) : Declaration → Prop
  | .enumeration e => (∃ c, EnumClass.make e.name e.values = .ok c) ∧
      ∃ v ∈ e.values, EnumClass.passesOver e.name v.name = true ∧ r.names.has v.name = false ∧ v.name ≠ e.name
  | .stray _ => True
  -- only pointers to functions count their arguments: a function may have any number of them
  | .function f => ∃ s t s' u, Begins r (.function f) s t ∧ Leads s t s' u ∧ MeetsOverflow s' u
  | d => ∃ s t, Begins r d s t ∧ MeetsOverflow s t

theorem Concludes.escaping {α : Type} {search : Register α} {x : Register Bool}
    (concludes : Concludes name (search.run s) (x.run r)) : Escaping x r ↔ Escaping search s := by
  constructor
  · rintro ⟨f, failed, escapes⟩
    rw [show x.run r = (.error f, (x.run r).2) from Prod.ext failed rfl] at concludes
    rcases concludes.error.2 with searched | missing
    · exact ⟨f, searched, escapes⟩
    · cases missing.symm.trans (isMissingType_of_escapes escapes)
  · rintro ⟨f, failed, escapes⟩
    rw [show search.run s = (.error f, (search.run s).2) from Prod.ext failed rfl] at concludes
    exact ⟨f, congrArg Prod.fst concludes, escapes⟩

theorem escaping_guarded {x : Register Bool}
    (escaping : Escaping (do if ← isTaken name then return false else x) r) : r.names.has name = false := by
  obtain ⟨f, failed, -⟩ := escaping
  exact guarded_failed (Prod.ext failed rfl)

theorem escaping_registerAlias {a : Alias} :
    Escaping (registerAlias a) r ↔ ∃ s t, Begins r (.alias a) s t ∧ MeetsOverflow s t := by
  constructor
  · intro escaping
    have free := escaping_guarded escaping
    rw [(registerAlias_concludes free).escaping, escaping_nativeType] at escaping
    exact ⟨r, a.target, .target free, escaping⟩
  · rintro ⟨s, t, begins, meets⟩
    cases begins with
    | target free => rwa [(registerAlias_concludes free).escaping, escaping_nativeType]

theorem escaping_registerVariable {v : Variable} :
    Escaping (registerVariable v) r ↔ ∃ s t, Begins r (.variable v) s t ∧ MeetsOverflow s t := by
  constructor
  · intro escaping
    have free := escaping_guarded escaping
    rw [(registerVariable_concludes free).escaping, escaping_nativeType] at escaping
    exact ⟨r, v.type, .type free, escaping⟩
  · rintro ⟨s, t, begins, meets⟩
    cases begins with
    | type free => rwa [(registerVariable_concludes free).escaping, escaping_nativeType]

theorem escaping_registerFunction {f : Function} :
    Escaping (registerFunction f) r ↔
      ∃ s t s' u, Begins r (.function f) s t ∧ Leads s t s' u ∧ MeetsOverflow s' u := by
  have decides {s : Registry} (started : functionStart? r f = some s) :
      Escaping (registerFunction f) r ↔
        ∃ s' u, Leads s (.function f.result f.parameters f.variadic) s' u ∧ MeetsOverflow s' u := by
    rw [(registerFunction_concludes started).escaping, escaping_signatureTypes f.variadic]
    simp only [escaping_nativeType]
  constructor
  · intro escaping
    cases started : functionStart? r f with
    | none =>
      rcases registerFunction_passed started with ⟨log, passed⟩ | ⟨missed, failed⟩
      · exact absurd escaping (not_escaping_of_ok passed)
      · exact absurd escaping (not_escaping_of_contained failed rfl)
    | some s =>
      obtain ⟨s', u, leads, meets⟩ := (decides started).mp escaping
      exact ⟨s, _, s', u, .signature started, leads, meets⟩
  · rintro ⟨s, t, s', u, begins, leads, meets⟩
    cases begins with
    | signature started => exact (decides started).mpr ⟨s', u, leads, meets⟩

theorem escaping_takePending {record : Record} : ¬ Escaping (takePending record) r := by
  rcases takePending_cases record r with ⟨i, -, -, taken⟩ | ⟨-, declared⟩
  · exact not_escaping_of_ok taken
  · rintro ⟨f, failed, escapes⟩
    rw [declared] at failed
    exact escaping_declare ⟨f, failed, escapes⟩

theorem escaping_defineMembers {i : Nat} {record : Record} :
    Escaping (defineMembers i record) r ↔ ∃ before member after members s,
      record.fields = some (before ++ member :: after) ∧ (memberTypes before).run r = (.ok members, s) ∧
        MeetsOverflow s member.type := by
  unfold defineMembers
  cases record.fields with
  | none => exact iff_of_false (not_escaping_of_ok rfl) (by simp)
  | some fields =>
    have set : ¬ ∃ members r', (memberTypes fields).run r = (.ok members, r') ∧
        Escaping (onClasses (ClassWork.setFields i members record.anonymous)) r' := by
      rintro ⟨members, r', -, escaping⟩
      exact escaping_setFields escaping
    dsimp only
    rw [escaping_bind, or_iff_left set, memberTypes_eq, escaping_mapM]
    simp only [Option.some.injEq, memberTypes_eq, memberType, escaping_bind_pure, escaping_valueType,
      escaping_nativeType]

theorem escaping_registerRecord {record : Record} :
    Escaping (registerRecord record) r ↔ ∃ s t, Begins r (.record record) s t ∧ MeetsOverflow s t := by
  constructor
  · intro escaping
    have free : r.names.has record.name = false := escaping_guarded escaping
    obtain ⟨f, failed, escapes⟩ := escaping
    rw [registerRecord_free free] at failed
    rcases taken : (takePending record).run r with ⟨result, r₁⟩
    rw [taken] at failed
    cases result with
    | error f' =>
      cases failed
      exact absurd ⟨f, congrArg Prod.fst taken, escapes⟩ escaping_takePending
    | ok i =>
      dsimp only at failed
      rcases ended : (defineMembers i record).run (withRecord r₁ record.name i) with ⟨result', r₂⟩
      rw [ended] at failed
      cases result' with
      | ok _ => cases failed
      | error f' =>
        cases failed
        obtain ⟨before, member, after, members, s, given, earlier, meets⟩ :=
          escaping_defineMembers.mp ⟨f, congrArg Prod.fst ended, escapes⟩
        exact ⟨s, member.type, .member free taken earlier given, meets⟩
  · rintro ⟨s, t, begins, meets⟩
    cases begins with
    | member free taken earlier given =>
      obtain ⟨f, failed, escapes⟩ := escaping_defineMembers.mpr ⟨_, _, _, _, _, given, earlier, meets⟩
      refine ⟨f, ?_, escapes⟩
      rw [registerRecord_free free, taken]
      dsimp only
      rw [show (defineMembers _ record).run _ = (.error f, _) from Prod.ext failed rfl]

theorem escaping_registerOne {d : Declaration} (notStray : d.isStray = false) :
    Escaping (registerOne d) r ↔ Escapes r d := by
  match d with
  | .record record => exact escaping_registerRecord
  | .enumeration e => exact registerEnumeration_escapes_iff e r
  | .function f => exact escaping_registerFunction
  | .alias a => exact escaping_registerAlias
  | .variable v => exact escaping_registerVariable
  | .stray text => cases notStray
  | .constant c =>
    refine iff_of_false (fun escaping => ?_) ?_
    · exact not_escaping_of_ok (registerConstant_free (escaping_guarded escaping)) escaping
    · rintro ⟨s, t, begins, -⟩
      cases begins
  | .constructor typeName =>
    obtain ⟨done, classes, log, finished, -⟩ := registerConstructor_run typeName r
    refine iff_of_false (not_escaping_of_ok finished) ?_
    rintro ⟨s, t, begins, -⟩
    cases begins
  | .info message =>
    refine iff_of_false (not_escaping_of_ok rfl) ?_
    rintro ⟨s, t, begins, -⟩
    cases begins

theorem trial_returns_iff (d : Declaration) (r : Registry) :
    (∃ entry r', (trial d).run r = (.ok entry, r')) ↔ ¬ Escapes r d := by
  rw [trial_ok_iff]
  cases isStray : d.isStray with
  | true =>
    cases d with
    | stray text => simp [Escapes]
    | _ => cases isStray
  | false =>
    rw [← escaping_registerOne isStray]
    simp [Escaping]

def limitConstant : Constant := { name := "LIMIT", value := .int 3 }

/-- The alias of `void` fails, and the second constant finds its name taken. -/
def boundDeclarations : List Declaration :=
  [.constant limitConstant, .info "bounds", .alias { name := "nothing", target := .named "void" [] none },
   .alias { name := "bound", target := .pointer (.named "int" [] none) }, .constant limitConstant]

/-- One byte more than can be counted. -/
def hugeAlias : Alias := { name := "huge", target := .array (.named "char" [] none) (some 9223372036854775808) }

/-- The first enumerator is no member, since its name is special. -/
def levelEnumeration : Enumeration := { name := "level", values := [⟨"__low__", 0⟩, ⟨"HIGH", 1⟩] }

end Register

end CBindings
