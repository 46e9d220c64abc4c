import Mathlib.Logic.Basic

/-! Computations that may fail: what the end of the whole says about its parts. -/
namespace CBindings.Outcome

variable {ε α β : Type}

/-- So many levels can be worked through, one inside the other, without running out of stack. -/
def nestingLimit : Nat := 100

theorem bind_eq_ok_iff {x : Except ε α} {f : α → Except ε β} {b : β} :
    (x >>= f) = .ok b ↔ ∃ a, x = .ok a ∧ f a = .ok b := by
  cases x with
  | error e => simp [bind, Except.bind]
  | ok a => simp [bind, Except.bind]

theorem bind_eq_error_iff {x : Except ε α} {f : α → Except ε β} {e : ε} (total : ∀ a, ∃ b, f a = .ok b) :
    (x >>= f) = .error e ↔ x = .error e := by
  cases x with
  | error e' => simp [bind, Except.bind]
  | ok a =>
    obtain ⟨b, result⟩ := total a
    simp [bind, Except.bind, result]

theorem bind_ne_error {x : Except ε α} {f : α → Except ε β} {e : ε} (first : x ≠ .error e)
    (second : ∀ a, f a ≠ .error e) : (x >>= f) ≠ .error e := by
  cases x with
  | error e' => simpa [bind, Except.bind] using first
  | ok a => exact second a

/- A check that is made only where it is needed. -/
theorem checked_eq_ok {needed : Bool} {check : Except ε Unit} {rest : Unit → Except ε β} {b : β}
    (ended : (if needed = true then check >>= rest else rest ()) = .ok b) : rest () = .ok b := by
  split at ended
  · obtain ⟨_, -, passed⟩ := bind_eq_ok_iff.mp ended
    exact passed
  · exact ended

theorem checked_ne_error {needed : Bool} {check : Except ε Unit} {rest : Unit → Except ε β} {e : ε}
    (first : check ≠ .error e) (second : rest () ≠ .error e) :
    (if needed = true then check >>= rest else rest ()) ≠ .error e := by
  split
  · exact bind_ne_error first fun _ => second
  · exact second

theorem mapM_ne_error {f : α → Except ε β} {e : ε} (xs : List α) (each : ∀ x ∈ xs, f x ≠ .error e) :
    xs.mapM f ≠ .error e := by
  induction xs with
  | nil => simp [pure, Except.pure]
  | cons x rest ih =>
    rw [List.mapM_cons]
    have tail := ih fun y member => each y (List.mem_cons_of_mem x member)
    exact bind_ne_error (each x List.mem_cons_self) fun b =>
      bind_ne_error tail fun bs => by simp [pure, Except.pure]

theorem foldlM_ne_error {f : β → α → Except ε β} {e : ε} (xs : List α)
    (each : ∀ x ∈ xs, ∀ b, f b x ≠ .error e) (b : β) : xs.foldlM f b ≠ .error e := by
  induction xs generalizing b with
  | nil => simp [pure, Except.pure]
  | cons x rest ih =>
    rw [List.foldlM_cons]
    exact bind_ne_error (each x List.mem_cons_self b) fun b' =>
      ih (fun y member => each y (List.mem_cons_of_mem x member)) b'

/- `P` speaks of the items that were passed and of what they left behind. -/
theorem foldlM_ok_induction {f : β → α → Except ε β} {P : List α → β → Prop}
    (step : ∀ passed x b b', P passed b → f b x = .ok b' → P (passed ++ [x]) b')
    (xs passed : List α) (b result : β) (start : P passed b) (ended : xs.foldlM f b = .ok result) :
    P (passed ++ xs) result := by
  induction xs generalizing passed b with
  | nil =>
    have same : b = result := by simpa [pure, Except.pure] using ended
    simpa [same] using same ▸ start
  | cons x rest ih =>
    rw [List.foldlM_cons, bind_eq_ok_iff] at ended
    obtain ⟨b', one, others⟩ := ended
    have next := ih (passed ++ [x]) b' (step passed x b b' start one) others
    simpa using next

section Stateful

/- Computations over a state that is kept when they fail. -/
variable {σ : Type}

theorem run_bind (x : ExceptT ε (StateM σ) α) (f : α → ExceptT ε (StateM σ) β) (s : σ) :
    (x >>= f).run s =
      match x.run s with
      | (.ok a, s') => (f a).run s'
      | (.error e, s') => (.error e, s') := by
  have start : (x >>= f).run s = ExceptT.bindCont f (x.run s).1 (x.run s).2 := rfl
  rw [start]
  rcases x.run s with ⟨result, s'⟩
  cases result with
  | ok a => rfl
  | error e => rfl

theorem run_bind_ok {x : ExceptT ε (StateM σ) α} {f : α → ExceptT ε (StateM σ) β} {s s' : σ} {b : β}
    (ended : (x >>= f).run s = (.ok b, s')) :
    ∃ a between, x.run s = (.ok a, between) ∧ (f a).run between = (.ok b, s') := by
  rw [run_bind] at ended
  rcases first : x.run s with ⟨result, between⟩
  rw [first] at ended
  cases result with
  | ok a => exact ⟨a, between, rfl, ended⟩
  | error e => cases congrArg Prod.fst ended

theorem run_get (s : σ) : (get : ExceptT ε (StateM σ) σ).run s = (.ok s, s) := rfl

theorem run_map (f : α → β) (x : ExceptT ε (StateM σ) α) (s : σ) :
    (f <$> x).run s = ((x.run s).1.map f, (x.run s).2) := by
  have start : (f <$> x).run s =
      (match (x.run s).1 with
        | .ok a => (pure (.ok (f a)) : StateM σ (Except ε β))
        | .error e => pure (.error e)) (x.run s).2 := rfl
  rw [start]
  cases (x.run s).1 with
  | ok a => rfl
  | error e => rfl

theorem run_tryCatch (x : ExceptT ε (StateM σ) α) (handler : ε → ExceptT ε (StateM σ) α) (s : σ) :
    (tryCatch x handler).run s =
      match x.run s with
      | (.ok a, s') => (.ok a, s')
      | (.error e, s') => (handler e).run s' := by
  have start : (tryCatch x handler).run s =
      (match (x.run s).1 with
        | .ok a => (pure (.ok a) : StateM σ (Except ε α))
        | .error e => (handler e).run) (x.run s).2 := rfl
  rw [start]
  rcases x.run s with ⟨result, s'⟩
  cases result with
  | ok a => rfl
  | error e => rfl

theorem run_mapM_append {f : α → ExceptT ε (StateM σ) β} {xs : List α} {s s' : σ} {bs : List β}
    (first : (xs.mapM f).run s = (.ok bs, s')) (ys : List α) :
    ((xs ++ ys).mapM f).run s = (((ys.mapM f).run s').1.map (bs ++ ·), ((ys.mapM f).run s').2) := by
  rw [List.mapM_append, run_bind, first]
  dsimp only
  rw [run_bind]
  rcases (ys.mapM f).run s' with ⟨result, s''⟩
  cases result with
  | ok cs => rfl
  | error e => rfl

/- What is found for an item is judged in the states before and after it, once the whole row has gone through. -/
theorem mapM_exists_iff {f : α → ExceptT ε (StateM σ) β} {Q : β → Prop} {R : α → Prop} {xs : List α} {bs : List β}
    {s s' : σ} (ended : (xs.mapM f).run s = (.ok bs, s'))
    (each : ∀ before x after bs₁ s₁ b s₂ bs₂, xs = before ++ x :: after → (before.mapM f).run s = (.ok bs₁, s₁) →
      (f x).run s₁ = (.ok b, s₂) → (after.mapM f).run s₂ = (.ok bs₂, s') → (Q b ↔ R x)) :
    (∃ b ∈ bs, Q b) ↔ ∃ x ∈ xs, R x := by
  induction xs generalizing s bs with
  | nil =>
    cases ended
    simp
  | cons x rest ih =>
    rw [List.mapM_cons] at ended
    obtain ⟨b, between, one, onward⟩ := run_bind_ok ended
    obtain ⟨others, last, found, remaining⟩ := run_bind_ok onward
    cases remaining
    have later := ih found fun before y after bs₁ s₁ b' s₂ bs₂ split earlier => by
      refine each (x :: before) y after (b :: bs₁) s₁ b' s₂ bs₂ (by rw [split, List.cons_append]) ?_
      rw [List.mapM_cons, run_bind, one]
      dsimp only
      rw [run_bind, earlier]
      rfl
    have here := each [] x rest [] s b between others rfl rfl one found
    simp only [List.mem_cons, or_and_right, exists_or, exists_eq_left, here, later]

section Moves

variable {R : σ → σ → Prop} (refl : ∀ s, R s s) (trans : ∀ s s' s'', R s s' → R s' s'' → R s s'')

include trans in
theorem bind_moves {x : ExceptT ε (StateM σ) α} {f : α → ExceptT ε (StateM σ) β} {s : σ} (first : R s (x.run s).2)
    (second : ∀ a s', x.run s = (.ok a, s') → R s' ((f a).run s').2) : R s ((x >>= f).run s).2 := by
  rw [run_bind]
  rcases ended : x.run s with ⟨result, s'⟩
  rw [ended] at first
  cases result with
  | error e => exact first
  | ok a => exact trans _ _ _ first (second a s' ended)

include refl in
theorem bind_moves_on {x : ExceptT ε (StateM σ) α} {f : α → ExceptT ε (StateM σ) β} {s : σ}
    (rest : ∀ a s', x.run s = (.ok a, s') → R s' ((f a).run s').2) : R (x.run s).2 ((x >>= f).run s).2 := by
  rw [run_bind]
  rcases ended : x.run s with ⟨result, s'⟩
  cases result with
  | error e => exact refl s'
  | ok a => exact rest a s' ended

include trans in
theorem tryCatch_moves {x : ExceptT ε (StateM σ) α} {handler : ε → ExceptT ε (StateM σ) α} {s : σ}
    (first : R s (x.run s).2) (second : ∀ e s', x.run s = (.error e, s') → R s' ((handler e).run s').2) :
    R s ((tryCatch x handler).run s).2 := by
  rw [run_tryCatch]
  rcases ended : x.run s with ⟨result, s'⟩
  rw [ended] at first
  cases result with
  | ok a => exact first
  | error e => exact trans _ _ _ first (second e s' ended)

include refl trans in
/- What an item does is asked for only in the state that the items before it leave behind. -/
theorem mapM_moves {f : α → ExceptT ε (StateM σ) β} (xs : List α) (s : σ)
    (each : ∀ before x after bs s', xs = before ++ x :: after → (before.mapM f).run s = (.ok bs, s') →
      R s' ((f x).run s').2) : R s ((xs.mapM f).run s).2 := by
  induction xs generalizing s with
  | nil => exact refl s
  | cons x rest ih =>
    rw [List.mapM_cons]
    refine bind_moves trans (each [] x rest [] s rfl rfl) fun b between one => ?_
    refine bind_moves trans ?_ fun bs s' _ => refl s'
    refine ih between fun before y after bs s' split run => ?_
    refine each (x :: before) y after (b :: bs) s' (by rw [split, List.cons_append]) ?_
    rw [List.mapM_cons, run_bind, one]
    dsimp only
    rw [run_bind, run]
    rfl

include refl trans in
theorem mapM_moves_on {f : α → ExceptT ε (StateM σ) β} {before after : List α} {x : α} {bs : List β} {s s' : σ}
    (earlier : (before.mapM f).run s = (.ok bs, s')) (later : ∀ y ∈ after, ∀ s, R s ((f y).run s).2) :
    R ((f x).run s').2 (((before ++ x :: after).mapM f).run s).2 := by
  rw [run_mapM_append earlier, List.mapM_cons]
  refine bind_moves_on refl fun b s'' _ => bind_moves trans ?_ fun _ s _ => refl s
  refine mapM_moves refl trans after s'' fun before' y after' _ s _ _ => later y ?_ s
  simp_all

end Moves

/-- The state moves along `R`, and no faults are thrown but those of `P`. -/
def Within (R : σ → σ → Prop) (P : ε → Prop) (x : ExceptT ε (StateM σ) α) : Prop :=
  ∀ s, R s (x.run s).2 ∧ ∀ e, (x.run s).1 = .error e → P e

section Within

variable {R : σ → σ → Prop} {P : ε → Prop} (refl : ∀ s, R s s)
  (trans : ∀ s s' s'', R s s' → R s' s'' → R s s'')

include refl in
theorem within_pure (a : α) : Within R P (pure a : ExceptT ε (StateM σ) α) :=
  fun s => ⟨refl s, fun _ failed => by cases failed⟩

include refl in
theorem within_get : Within R P (get : ExceptT ε (StateM σ) σ) :=
  fun s => ⟨refl s, fun _ failed => by cases failed⟩

include refl in
theorem within_throw {e : ε} (allowed : P e) : Within R P (throw e : ExceptT ε (StateM σ) α) :=
  fun s => ⟨refl s, fun _ failed => by cases failed; exact allowed⟩

theorem within_modify {f : σ → σ} (moved : ∀ s, R s (f s)) : Within R P (modify f : ExceptT ε (StateM σ) Unit) :=
  fun s => ⟨moved s, fun _ failed => by cases failed⟩

include trans in
theorem Within.bind {x : ExceptT ε (StateM σ) α} {f : α → ExceptT ε (StateM σ) β} (first : Within R P x)
    (second : ∀ a, Within R P (f a)) : Within R P (x >>= f) := by
  intro s
  refine ⟨bind_moves trans (first s).1 fun a s' _ => (second a s').1, fun e failed => ?_⟩
  rw [run_bind] at failed
  rcases ended : x.run s with ⟨result, s'⟩
  rw [ended] at failed
  cases result with
  | ok a => exact (second a s').2 e failed
  | error e' =>
    cases failed
    exact (first s).2 e (congrArg Prod.fst ended)

include refl trans in
theorem within_forIn (xs : List α) (b : β) {body : α → β → ExceptT ε (StateM σ) (ForInStep β)}
    (each : ∀ x b, Within R P (body x b)) : Within R P (forIn xs b body) := by
  induction xs generalizing b with
  | nil => exact within_pure refl b
  | cons x rest ih =>
    rw [List.forIn_cons]
    refine (each x b).bind trans fun step => ?_
    cases step with
    | done b' => exact within_pure refl b'
    | yield b' => exact ih b'

end Within

end Stateful

end CBindings.Outcome
