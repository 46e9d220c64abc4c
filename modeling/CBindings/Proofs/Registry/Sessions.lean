import CBindings.Proofs.Registry.Effects

/-! Sessions: calls made one after another to one registry, and the steps that they take in it. -/
namespace CBindings

/-- The index of the constants is bound. -/
def Registry.indexed (r : Registry) : Registry :=
  { r with names := r.names.insert constantIndexName (.index r.index) }

namespace Register

open Outcome

/-- What is asked of a registry: to register declarations, or to find the native type of a type. -/
inductive Call where
  | register (ds : List Declaration)
  | search (t : TypeExpr)

/-- One step of a call. -/
inductive Step where
  | trial (d : Declaration)
  | search (t : TypeExpr)

def Step.after : Step → Registry → Registry
  | .trial d, r => ((Register.trial d).run r).2
  | .search t, r => ((nativeType t).run r).2

/-- A search that the step makes, with the state in which it begins. -/
def Step.Begins (r : Registry) : Step → Registry → TypeExpr → Prop
  | .trial d, s, t => Register.Begins r d s t
  | .search u, s, t => s = r ∧ t = u

/-- The steps of a call, each with the state in which it is taken. -/
def Call.steps : Call → Registry → List (Registry × Step)
  | .register ds, r => (trials r.begun ds).map fun tried => (tried.1, .trial tried.2)
  | .search t, r => [(r, .search t)]

def Call.after : Call → Registry → Registry
  | .register ds, r => ((Register.register ds).run r).2
  | .search t, r => ((nativeType t).run r).2

def session (r : Registry) : List Call → List (Registry × Step)
  | [] => []
  | call :: rest => call.steps r ++ session (call.after r) rest

/-- The registry at the end of a session. -/
def closing (r : Registry) : List Call → Registry
  | [] => r
  | call :: rest => closing (call.after r) rest

/-- Steps taken one after another. Between them a registration may begin, or may bind the index of its constants. -/
inductive Run : Registry → List (Registry × Step) → Registry → Prop
  | done {r} : Run r [] r
  | step {r step rest r'} (onward : Run (step.after r) rest r') : Run r ((r, step) :: rest) r'
  | begun {r steps r'} (onward : Run r.begun steps r') : Run r steps r'
  | indexed {r steps r'} (onward : Run r.indexed steps r') : Run r steps r'

variable {r r' s : Registry} {steps earlier later : List (Registry × Step)}

theorem Run.trans (first : Run r earlier s) (second : Run s later r') : Run r (earlier ++ later) r' := by
  induction first with
  | done => exact second
  | step _ ih => exact .step (ih second)
  | begun _ ih => exact .begun (ih second)
  | indexed _ ih => exact .indexed (ih second)

theorem trials_run (report : Report) (ds : List Declaration) (r : Registry) :
    Run r ((trials r ds).map fun tried => (tried.1, .trial tried.2)) ((registerAll report ds).run r).2 := by
  induction ds generalizing report r with
  | nil => exact .done
  | cons d rest ih =>
    rw [registerAll_trial, run_bind]
    rcases ended : (trial d).run r with ⟨result, r'⟩
    have left : (Step.trial d).after r = r' := congrArg Prod.snd ended
    cases result with
    | ok entry =>
      rw [trials_cons_ok ended]
      exact .step (left ▸ ih (entered report entry) r')
    | error f =>
      rw [trials_cons_error ended]
      exact .step (left ▸ .done)

theorem call_run (r : Registry) (call : Call) : Run r (call.steps r) (call.after r) := by
  cases call with
  | search t => exact .step .done
  | register ds =>
    have tried := trials_run {} ds r.begun
    dsimp only [Call.after, Call.steps]
    rw [register_run]
    rcases ended : (registerAll {} ds).run r.begun with ⟨result, r'⟩
    rw [ended] at tried
    cases result with
    | ok report =>
      have all := Run.begun (tried.trans (.indexed .done))
      rw [List.append_nil] at all
      exact all
    | error f => exact .begun tried

theorem session_run (r : Registry) (calls : List Call) : Run r (session r calls) (closing r calls) := by
  induction calls generalizing r with
  | nil => exact .done
  | cons call rest ih => exact (call_run r call).trans (ih (call.after r))

/- What holds at the start and is kept by every step that is taken holds all the time. -/
theorem Run.invariant {I : Registry → Prop} (run : Run r steps r') (start : I r) (begun : ∀ r, I r → I r.begun)
    (indexed : ∀ r, I r → I r.indexed) (step : ∀ taken ∈ steps, I taken.1 → I (taken.2.after taken.1)) :
    (∀ taken ∈ steps, I taken.1) ∧ I r' := by
  induction run with
  | done => exact ⟨by simp, start⟩
  | @step r this rest _ _ ih =>
    have next := step _ (.head rest) start
    obtain ⟨others, last⟩ := ih next fun taken inside => step taken (.tail _ inside)
    exact ⟨List.forall_mem_cons.mpr ⟨start, others⟩, last⟩
  | begun _ ih => exact ih (begun _ start) step
  | indexed _ ih => exact ih (indexed _ start) step

theorem Run.split {taken : Registry × Step} (run : Run r (earlier ++ taken :: later) r') :
    Run (taken.2.after taken.1) later r' := by
  generalize whole : earlier ++ taken :: later = steps at run
  induction run generalizing earlier with
  | done => simp at whole
  | step onward ih =>
    cases earlier with
    | nil =>
      cases whole
      exact onward
    | cons first rest =>
      injection whole with _ whole
      exact ih whole
  | begun _ ih => exact ih whole
  | indexed _ ih => exact ih whole

section Classes

variable {P : String → Bool → Prop}

/-- The searches of the steps ask only for tags that `P` allows. -/
def Allows (P : String → Bool → Prop) (steps : List (Registry × Step)) : Prop :=
  ∀ taken ∈ steps, ∀ s t, taken.2.Begins taken.1 s t → ∀ s' tag isUnion, Asks s t s' tag isUnion → P tag isUnion

theorem Step.keeps {step : Step} (waiting : Waiting P 0 r.classes r.pending)
    (allowed : ∀ s t, step.Begins r s t → ∀ s' tag isUnion, Asks s t s' tag isUnion → P tag isUnion) :
    Keeps P r (step.after r) := by
  cases step with
  | search t => exact (nativeType_grown t r (allowed r t ⟨rfl, rfl⟩)).toGained.keeps waiting
  | trial d =>
    obtain ⟨log, left⟩ := trial_left d r
    rw [Step.after, left]
    exact (registerOne_keeps waiting allowed).congr rfl rfl

theorem Run.waiting (run : Run r steps r') (start : Waiting P 0 r.classes r.pending) (allowed : Allows P steps) :
    (∀ taken ∈ steps, Waiting P 0 taken.1.classes taken.1.pending) ∧ Waiting P 0 r'.classes r'.pending := by
  refine run.invariant (I := fun r => Waiting P 0 r.classes r.pending) start (fun _ => id) (fun _ => id) ?_
  intro taken inside waiting
  exact (Step.keeps waiting (allowed taken inside)).1

end Classes

end Register

end CBindings
