import CBindings.Proofs.Registry.Growth

/-! Looking for native types. Classes are made and records are put on the waiting list, but no name of the
namespace is touched, whether the search succeeds or fails. -/
namespace CBindings.Register

open Outcome

variable {α β : Type} {r r' r'' : Registry}

/-- Only classes, waiting records and messages differ. -/
def Resolved (r r' : Registry) : Prop :=
  ∃ classes pending log, r' = { r with classes := classes, pending := pending, log := log }

def OnlyResolves (x : Register α) : Prop := ∀ r, Resolved r (x.run r).2

theorem Resolved.refl (r : Registry) : Resolved r r := ⟨r.classes, r.pending, r.log, rfl⟩

theorem Resolved.trans (first : Resolved r r') (second : Resolved r' r'') : Resolved r r'' := by
  obtain ⟨_, _, _, rfl⟩ := first
  obtain ⟨classes, pending, log, rfl⟩ := second
  exact ⟨classes, pending, log, rfl⟩

theorem Grown.resolved {P : String → Bool → Prop} (grown : Grown P r r') : Resolved r r' := by
  obtain ⟨-, classes, pending, rfl⟩ := grown
  exact ⟨classes, pending, r.log, rfl⟩

theorem onlyResolves_pure (a : α) : OnlyResolves (pure a) := Resolved.refl

theorem onlyResolves_get : OnlyResolves (get : Register Registry) := Resolved.refl

theorem OnlyResolves.bind {x : Register α} {f : α → Register β} (first : OnlyResolves x)
    (second : ∀ a, OnlyResolves (f a)) : OnlyResolves (x >>= f) :=
  fun r => bind_moves (R := Resolved) (fun _ _ _ => Resolved.trans) (first r) fun a r' _ => second a r'

theorem onlyResolves_mapM {f : α → Register β} (each : ∀ a, OnlyResolves (f a)) (xs : List α) :
    OnlyResolves (xs.mapM f) :=
  fun r => mapM_moves (R := Resolved) Resolved.refl (fun _ _ _ => Resolved.trans) xs r fun _ x _ _ s _ _ => each x s

theorem onlyResolves_onClasses (work : ClassWork α) : OnlyResolves (onClasses work) := by
  intro r
  rw [onClasses_run]
  exact ⟨_, _, _, rfl⟩

theorem onlyResolves_nativeType (t : TypeExpr) : OnlyResolves (nativeType t) :=
  fun r => (nativeType_grows t r).resolved

theorem onlyResolves_valueType (t : TypeExpr) : OnlyResolves (valueType t) := by
  intro r
  rw [valueType_left]
  exact onlyResolves_nativeType t r

theorem onlyResolves_parameterTypes (ps : List (Parameter TypeExpr)) : OnlyResolves (parameterTypes ps) := by
  rw [parameterTypes_eq]
  exact onlyResolves_mapM (fun p => onlyResolves_valueType p.type) ps

theorem onlyResolves_signatureTypes (result : TypeExpr) (parameters : List (Parameter TypeExpr)) :
    OnlyResolves (signatureTypes result parameters) :=
  (onlyResolves_nativeType result).bind fun _ => (onlyResolves_parameterTypes parameters).bind fun _ =>
    onlyResolves_pure _

theorem onlyResolves_memberTypes (fields : List (Field TypeExpr)) : OnlyResolves (memberTypes fields) := by
  rw [memberTypes_eq]
  refine onlyResolves_mapM (fun f r => ?_) fields
  rw [memberType_run]
  exact onlyResolves_nativeType f.type r

end CBindings.Register
