/-
**Runs of a deterministic machine.**

A machine is a total step function `step : σ → α → σ`; an action that is not enabled leaves the
state as it is. `run` folds the steps, `Always` says that a predicate holds in every state a run
passes through, `Guarded` that every action of a run is taken in a state that meets a guard.

* `invariant_run`: an invariant of every step is an invariant of every run.
* `always_of_guarded`: an invariant of every *guarded* step holds throughout every guarded run.
* `always_iff_guarded`: where a step keeps a law exactly if it meets a guard, the law holds
  throughout a run exactly if the run is guarded.
* `guarded_congr`: two guards that agree wherever the invariant holds admit the same runs;
  in `guarded_congr_of_kept` only the steps of the first keep it, and `guarded_iff_forall` is for a
  guard that looks only at the action.
* `guarded_iff_split`, `always_iff`: both notions, read off the list of actions.
* `simulation_run`: a relation kept by corresponding steps is kept by corresponding runs; `run_map` is
  for a map of the states.
* `emitted` is what the steps of a run give off; `run_emitted` is for a part of the state that runs on
  it, `invariant_emitted` for an invariant that looks at it, and `invariant_history` for one that looks
  at the run itself.
* `length_add_work_le`, `exists_rest`: steps that make a measure smaller come to an end.
-/

import Mathlib.Data.List.Basic

namespace Runs

section Machine

variable {σ α : Type*} (step : σ → α → σ)

/-- The state after a list of actions. -/
def run (start : σ) (actions : List α) : σ := actions.foldl step start

/-- `P` holds at the start and after every action. -/
def Always (P : σ → Prop) : σ → List α → Prop
  | state, [] => P state
  | state, action :: rest => P state ∧ Always P (step state action) rest

/-- Every action is taken in a state that meets the guard. -/
def Guarded (guard : σ → α → Prop) : σ → List α → Prop
  | _, [] => True
  | state, action :: rest => guard state action ∧ Guarded guard (step state action) rest

@[simp]
theorem run_nil (start : σ) : run step start [] = start := rfl

@[simp]
theorem run_cons (start : σ) (action : α) (rest : List α) :
    run step start (action :: rest) = run step (step start action) rest := rfl

theorem run_append (start : σ) (first second : List α) :
    run step start (first ++ second) = run step (run step start first) second :=
  List.foldl_append

instance decidableAlways (P : σ → Prop) [DecidablePred P] :
    ∀ (state : σ) (actions : List α), Decidable (Always step P state actions)
  | state, [] => inferInstanceAs (Decidable (P state))
  | state, action :: rest =>
    have := decidableAlways P (step state action) rest
    inferInstanceAs (Decidable (P state ∧ Always step P (step state action) rest))

instance decidableGuarded (guard : σ → α → Prop) [∀ state action, Decidable (guard state action)] :
    ∀ (state : σ) (actions : List α), Decidable (Guarded step guard state actions)
  | _, [] => inferInstanceAs (Decidable True)
  | state, action :: rest =>
    have := decidableGuarded guard (step state action) rest
    inferInstanceAs (Decidable (guard state action ∧ Guarded step guard (step state action) rest))

variable {step}

/-! ### Invariants -/

/-- **An invariant of every step is an invariant of every run.** -/
theorem invariant_run {Inv : σ → Prop} (preserved : ∀ state action, Inv state → Inv (step state action))
    {start : σ} (initial : Inv start) (actions : List α) : Inv (run step start actions) := by
  induction actions generalizing start with
  | nil => exact initial
  | cons action rest ih => exact ih (preserved start action initial)

/-- An invariant of the steps a run really takes. -/
theorem invariant_run_of_mem {Inv : σ → Prop} {allowed : α → Prop}
    (preserved : ∀ state action, allowed action → Inv state → Inv (step state action))
    {start : σ} (initial : Inv start) (actions : List α)
    (admitted : ∀ action ∈ actions, allowed action) : Inv (run step start actions) := by
  induction actions generalizing start with
  | nil => exact initial
  | cons action rest ih =>
    refine ih (preserved start action (admitted action List.mem_cons_self) initial) ?_
    exact fun other member => admitted other (List.mem_cons_of_mem _ member)

/-- **An invariant of every guarded step holds throughout every guarded run.** -/
theorem always_of_guarded {Inv : σ → Prop} {guard : σ → α → Prop}
    (preserved : ∀ state action, Inv state → guard state action → Inv (step state action))
    {start : σ} (initial : Inv start) {actions : List α}
    (guarded : Guarded step guard start actions) : Always step Inv start actions := by
  induction actions generalizing start with
  | nil => exact initial
  | cons action rest ih => exact ⟨initial, ih (preserved start action initial guarded.1) guarded.2⟩

/-- An invariant of every guarded step of the actions a run really takes. -/
theorem always_of_guarded_of_mem {Inv : σ → Prop} {guard : σ → α → Prop} {allowed : α → Prop}
    (preserved : ∀ state action, allowed action → Inv state → guard state action →
      Inv (step state action))
    {start : σ} (initial : Inv start) {actions : List α} (admitted : ∀ action ∈ actions, allowed action)
    (guarded : Guarded step guard start actions) : Always step Inv start actions := by
  induction actions generalizing start with
  | nil => exact initial
  | cons action rest ih =>
    have allowedHere := admitted action List.mem_cons_self
    refine ⟨initial, ih (preserved start action allowedHere initial guarded.1) ?_ guarded.2⟩
    exact fun other member => admitted other (List.mem_cons_of_mem _ member)

theorem Always.mono {P Q : σ → Prop} (weaken : ∀ state, P state → Q state) {start : σ}
    {actions : List α} (always : Always step P start actions) : Always step Q start actions := by
  induction actions generalizing start with
  | nil => exact weaken start always
  | cons action rest ih => exact ⟨weaken start always.1, ih always.2⟩

theorem Guarded.mono {first second : σ → α → Prop}
    (weaken : ∀ state action, first state action → second state action) {start : σ} {actions : List α}
    (guarded : Guarded step first start actions) : Guarded step second start actions := by
  induction actions generalizing start with
  | nil => exact trivial
  | cons action rest ih => exact ⟨weaken start action guarded.1, ih guarded.2⟩

/-- `Always`, read off the prefixes of the run. -/
theorem always_iff {P : σ → Prop} {start : σ} {actions : List α} :
    Always step P start actions ↔ ∀ before, before <+: actions → P (run step start before) := by
  induction actions generalizing start with
  | nil => simp [Always]
  | cons action rest ih =>
    constructor
    · rintro ⟨here, later⟩ before isPrefix
      cases before with
      | nil => exact here
      | cons first others =>
        obtain ⟨rfl, shorter⟩ := List.cons_prefix_cons.mp isPrefix
        exact ih.mp later others shorter
    · intro each
      refine ⟨each [] List.nil_prefix, ih.mpr fun before isPrefix => ?_⟩
      exact each (action :: before) (List.cons_prefix_cons.mpr ⟨rfl, isPrefix⟩)

theorem Always.start {P : σ → Prop} {start : σ} {actions : List α}
    (always : Always step P start actions) : P start := by
  cases actions with
  | nil => exact always
  | cons action rest => exact always.1

/-- **A law holds throughout a run exactly if the run is guarded**, where each single step keeps
the law exactly if it meets the guard. -/
theorem always_iff_guarded {Inv P : σ → Prop} {guard : σ → α → Prop}
    (preserved : ∀ state action, Inv state → Inv (step state action))
    (exact : ∀ state action, Inv state → P state → (P (step state action) ↔ guard state action))
    {start : σ} (initial : Inv start) (holds : P start) (actions : List α) :
    Always step P start actions ↔ Guarded step guard start actions := by
  induction actions generalizing start with
  | nil => exact iff_of_true holds trivial
  | cons action rest ih =>
    have later := ih (preserved start action initial)
    constructor
    · rintro ⟨-, always⟩
      exact ⟨(exact start action initial holds).mp always.start, (later always.start).mp always⟩
    · rintro ⟨meets, guarded⟩
      exact ⟨holds, (later ((exact start action initial holds).mpr meets)).mpr guarded⟩

/-- Two guards admit the same runs if they agree wherever an invariant holds that the steps of the
first one keep. -/
theorem guarded_congr_of_kept {Inv : σ → Prop} {first second : σ → α → Prop} {allowed : α → Prop}
    (kept : ∀ state action, allowed action → Inv state → first state action → Inv (step state action))
    (agree : ∀ state action, Inv state → allowed action → (first state action ↔ second state action))
    {start : σ} (initial : Inv start) {actions : List α}
    (admitted : ∀ action ∈ actions, allowed action) :
    Guarded step first start actions ↔ Guarded step second start actions := by
  induction actions generalizing start with
  | nil => exact Iff.rfl
  | cons action rest ih =>
    have allowedHere := admitted action List.mem_cons_self
    refine (and_congr_right fun meets => ?_).trans
      (and_congr_left fun _ => agree start action initial allowedHere)
    exact ih (kept start action allowedHere initial meets)
      fun other member => admitted other (List.mem_cons_of_mem _ member)

/-- Two guards that agree wherever the invariant holds admit the same runs. -/
theorem guarded_congr {Inv : σ → Prop} {first second : σ → α → Prop} {allowed : α → Prop}
    (preserved : ∀ state action, allowed action → Inv state → Inv (step state action))
    (agree : ∀ state action, Inv state → allowed action → (first state action ↔ second state action))
    {start : σ} (initial : Inv start) {actions : List α}
    (admitted : ∀ action ∈ actions, allowed action) :
    Guarded step first start actions ↔ Guarded step second start actions :=
  guarded_congr_of_kept (fun state action allowedHere holds _ => preserved state action allowedHere holds)
    agree initial admitted

/-- A guard that looks only at the action. -/
theorem guarded_iff_forall {guard : α → Prop} {start : σ} {actions : List α} :
    Guarded step (fun _ action => guard action) start actions ↔ ∀ action ∈ actions, guard action := by
  induction actions generalizing start with
  | nil => exact iff_of_true trivial nofun
  | cons action rest ih =>
    rw [List.forall_mem_cons]
    exact and_congr Iff.rfl ih

/-- `Guarded`, read off the actions of the run and what comes before each. -/
theorem guarded_iff_split {guard : σ → α → Prop} {start : σ} {actions : List α} :
    Guarded step guard start actions ↔
      ∀ before action after, actions = before ++ action :: after →
        guard (run step start before) action := by
  induction actions generalizing start with
  | nil => exact iff_of_true trivial fun before action after split => by simp at split
  | cons first rest ih =>
    constructor
    · rintro ⟨here, guarded⟩ before action after split
      cases before with
      | nil =>
        obtain ⟨rfl, -⟩ := List.cons.inj split
        exact here
      | cons other others =>
        obtain ⟨rfl, later⟩ := List.cons.inj split
        exact ih.mp guarded others action after later
    · intro each
      refine ⟨each [] first rest rfl, ih.mpr fun before action after split => ?_⟩
      exact each (first :: before) action after (congrArg (first :: ·) split)

end Machine

/-! ### Simulation -/

/-- Two machines whose steps commute with a map of the states run in step. -/
theorem run_map {σ τ α : Type*} {step : σ → α → σ} {abstractStep : τ → α → τ} {view : σ → τ}
    (commutes : ∀ state action, view (step state action) = abstractStep (view state) action)
    (start : σ) (actions : List α) :
    view (run step start actions) = run abstractStep (view start) actions := by
  induction actions generalizing start with
  | nil => rfl
  | cons action rest ih => rw [run_cons, run_cons, ih, commutes]

/-- **A relation kept by corresponding steps is kept by corresponding runs.** -/
theorem simulation_run {σ τ α : Type*} {step : σ → α → σ} {abstractStep : τ → α → τ}
    {related : σ → τ → Prop} {allowed : α → Prop}
    (kept : ∀ state model action, allowed action → related state model →
      related (step state action) (abstractStep model action))
    {start : σ} {model : τ} (initial : related start model) (actions : List α)
    (admitted : ∀ action ∈ actions, allowed action) :
    related (run step start actions) (run abstractStep model actions) := by
  induction actions generalizing start model with
  | nil => exact initial
  | cons action rest ih =>
    refine ih (kept start model action (admitted action List.mem_cons_self) initial) ?_
    exact fun other member => admitted other (List.mem_cons_of_mem _ member)

/-! ### What the steps give off -/

section Emitted

variable {σ α β : Type*} (step : σ → α → σ) (emit : σ → α → List β)

/-- What the steps of a run give off, in order. -/
def emitted : σ → List α → List β
  | _, [] => []
  | state, action :: rest => emit state action ++ emitted (step state action) rest

variable {step emit}

/-- **A part of the state runs on what it is given.** -/
theorem run_emitted {τ : Type*} {part : σ → τ} {partStep : τ → β → τ}
    (commutes : ∀ state action, part (step state action) =
      run partStep (part state) (emit state action)) (start : σ) (actions : List α) :
    part (run step start actions) = run partStep (part start) (emitted step emit start actions) := by
  induction actions generalizing start with
  | nil => rfl
  | cons action rest ih => rw [run_cons, ih, commutes, emitted, run_append]

/-- An invariant of the state and of what has been given off so far, for the actions a run really
takes. -/
theorem invariant_emitted_of_mem {Inv : List β → σ → Prop} {allowed : α → Prop}
    (preserved : ∀ given state action, allowed action → Inv given state →
      Inv (given ++ emit state action) (step state action))
    {given : List β} {start : σ} (initial : Inv given start) (actions : List α)
    (admitted : ∀ action ∈ actions, allowed action) :
    Inv (given ++ emitted step emit start actions) (run step start actions) := by
  induction actions generalizing given start with
  | nil => rwa [emitted, List.append_nil]
  | cons action rest ih =>
    rw [emitted, ← List.append_assoc]
    refine ih (preserved given start action (admitted action List.mem_cons_self) initial) ?_
    exact fun other member => admitted other (List.mem_cons_of_mem _ member)

/-- **An invariant of the state and of what has been given off so far.** -/
theorem invariant_emitted {Inv : List β → σ → Prop}
    (preserved : ∀ given state action, Inv given state → Inv (given ++ emit state action) (step state action))
    {given : List β} {start : σ} (initial : Inv given start) (actions : List α) :
    Inv (given ++ emitted step emit start actions) (run step start actions) :=
  invariant_emitted_of_mem (fun given state action (_ : True) => preserved given state action)
    initial actions fun _ _ => trivial

/-- What has been given off was given off by some action. -/
theorem exists_of_mem_emitted {start : σ} {actions : List α} {given : β}
    (member : given ∈ emitted step emit start actions) :
    ∃ state, ∃ action ∈ actions, given ∈ emit state action := by
  induction actions generalizing start with
  | nil => cases member
  | cons action rest ih =>
    rcases List.mem_append.mp member with here | later
    · exact ⟨start, action, List.mem_cons_self, here⟩
    · obtain ⟨state, other, inside, gave⟩ := ih later
      exact ⟨state, other, List.mem_cons_of_mem _ inside, gave⟩

/-- Steps that give off their own action give off the run. -/
theorem emitted_self (start : σ) (actions : List α) :
    emitted step (fun _ action => [action]) start actions = actions := by
  induction actions generalizing start with
  | nil => rfl
  | cons action rest ih => exact congrArg (action :: ·) (ih (step start action))

/-- **An invariant of the state and of the run so far.** -/
theorem invariant_history {Inv : List α → σ → Prop}
    (preserved : ∀ before state action, Inv before state → Inv (before ++ [action]) (step state action))
    {start : σ} (initial : Inv [] start) (actions : List α) : Inv actions (run step start actions) := by
  have kept := invariant_emitted preserved initial actions
  rwa [List.nil_append, emitted_self] at kept

end Emitted

/-! ### Coming to rest -/

section Rest

variable {σ α : Type*} {step : σ → α → σ} {Inv : σ → Prop} {enabled : σ → α → Prop} {work : σ → ℕ}

/-- **Steps that work something off**: what a run of them has done is no longer to do. -/
theorem length_add_work_le
    (kept : ∀ state action, Inv state → enabled state action → Inv (step state action))
    (less : ∀ state action, Inv state → enabled state action → work (step state action) < work state)
    {start : σ} (initial : Inv start) {actions : List α} (guarded : Guarded step enabled start actions) :
    actions.length + work (run step start actions) ≤ work start := by
  induction actions generalizing start with
  | nil => simp
  | cons action rest ih =>
    have later := ih (kept start action initial guarded.1) guarded.2
    have done := less start action initial guarded.1
    rw [List.length_cons, run_cons]
    omega

/-- **Such a run can be carried on until nothing is left to do.** -/
theorem exists_rest
    (kept : ∀ state action, Inv state → enabled state action → Inv (step state action))
    (less : ∀ state action, Inv state → enabled state action → work (step state action) < work state)
    {start : σ} (initial : Inv start) : ∃ actions, Guarded step enabled start actions ∧
      ∀ action, ¬ enabled (run step start actions) action := by
  induction left : work start using Nat.strongRecOn generalizing start with
  | ind amount ih =>
    by_cases rests : ∀ action, ¬ enabled start action
    · exact ⟨[], trivial, rests⟩
    · obtain ⟨action, can⟩ := not_forall_not.mp rests
      have done : work (step start action) < amount := left ▸ less start action initial can
      obtain ⟨actions, guarded, last⟩ := ih _ done (kept start action initial can) rfl
      exact ⟨action :: actions, ⟨can, guarded⟩, last⟩

end Rest

end Runs
