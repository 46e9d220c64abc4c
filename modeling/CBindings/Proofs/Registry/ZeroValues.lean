import CBindings.Proofs.Native.Zeros
import CBindings.Proofs.Registry.Soundness

/-! The zero values of registered records: when they can be made, at any later time of the session. -/
namespace CBindings.Register

open Outcome Classes

variable {r s : Registry} {record : Record} {calls : List Call}

theorem Run.settled {steps : List (Registry × Step)} {r' : Registry} {i : Nat}
    {core : String × Bool × Option (List (Field NativeType)) × Bool} (run : Run r steps r')
    (waiting : Waiting (fun _ _ => True) 0 r.classes r.pending) (settled : Settled i core r) : Settled i core r' := by
  refine (run.invariant (I := fun r => Waiting (fun _ _ => True) 0 r.classes r.pending ∧ Settled i core r)
    ⟨waiting, settled⟩ (fun _ both => ?_) (fun _ both => ?_) fun taken _ both => ?_).2.2
  · exact ⟨both.1, both.2.congr rfl rfl⟩
  · exact ⟨both.1, both.2.congr rfl rfl⟩
  · have keeps : Keeps (fun _ _ => True) taken.1 (taken.2.after taken.1) :=
      Step.keeps both.1 fun _ _ _ _ _ _ _ => trivial
    exact ⟨keeps.1, keeps.2 _ _ both.2⟩

/- The class of a record that was registered keeps the members that it got. -/
theorem registered_settled (start : Sound r) (inside : (s, .trial (.record record)) ∈ session r calls)
    (registered : verdict (s, .record record) = some true) :
    ∃ i members, ((Step.trial (.record record)).after s).names.get? record.name = some (.type (.record i)) ∧
      members.map (·.map label) = record.fields.map (·.map label) ∧
      Settled i (record.name, record.isUnion, members, false) (closing r calls) := by
  have sound : Sound s := (session_sound start calls).1 _ inside
  obtain ⟨s', ended⟩ := run_of_verdict registered
  obtain ⟨log, left⟩ := trial_left (.record record) s
  obtain ⟨i, r₁, r₂, taken, defined, rfl⟩ := registerRecord_registered sound.waiting ended
  have blank : Settled i (record.name, record.isUnion, none, false) (withRecord r₁ record.name i) :=
    taken.settled.congr rfl rfl
  obtain ⟨members, settled, labels⟩ := defineMembers_settled blank defined
  have names := (onlyResolves_defineMembers i record).names (withRecord r₁ record.name i)
  rw [defined] at names
  have after : (Step.trial (.record record)).after s =
      { r₂ with defined := r₂.defined ++ [record.name], log := log } := by
    rw [Step.after, left, ended]
  refine ⟨i, members, ?_, labels, ?_⟩
  · rw [after]
    change r₂.names.get? record.name = _
    rw [names, withRecord, Namespace.get?_insert, if_pos rfl]
  · obtain ⟨earlier, later, split⟩ := List.append_of_mem inside
    have onward := Run.split (split ▸ session_run r calls)
    refine onward.settled (trial_sound sound _).waiting ?_
    rw [after]
    exact settled.congr rfl rfl

/-- Bytes that an object has at most, so that there is memory for it. -/
def objectLimit : Nat := 16777216

/-- The classes that a class holds are named as C demands, and neither their number nor the size of their objects asks
too much of stack and memory. -/
structure Moderate (c : Classes) (i : Nat) : Prop where
  named : ∀ k, c.Embeds i k → c.WellNamed k
  few : ∃ held : List Nat, held.length ≤ nestingLimit ∧ ∀ k, c.Embeds i k → k ∈ held
  small : ∀ k, c.Embeds i k → (c.layout (.record k)).1 ≤ objectLimit ∧
    ∀ f ∈ (c.record k).fields.getD [], (c.layout f.type).1 ≤ objectLimit

def pixelRecord : Record :=
  { name := "pixel",
    fields := some [
      { name := "value", type := .named "int" [] none }, { name := "shade", type := .named "double" [] none }] }

def spriteRecord : Record :=
  { name := "sprite",
    fields := some [
      { name := "title", type := .array (.named "char" [] none) (some 8) },
      { name := "corner", type := .named "struct pixel" [] none },
      { name := "rows", type := .array (.array (.named "struct pixel" [] none) (some 2)) (some 3) },
      { name := "next", type := .pointer (.named "struct sprite" [] none) },
      { name := "flags", type := .named "unsigned int" [] none, width := some 3 }] }

def spriteCalls : List Call := [.register [.record pixelRecord], .register [.record spriteRecord]]

def shellRecord : Record :=
  { name := "shell", fields := some [{ name := "core", type := .named "struct core" [] none }] }

def coreRecord : Record := { name := "core", fields := some [{ name := "value", type := .named "int" [] none }] }

def shellCalls : List Call := [.register [.record shellRecord, .record coreRecord]]

end CBindings.Register
