import Mathlib.Init

/-!
# Labelled transitions under a guard

A system takes an action if the environment allows it in the current state and
the action has a successor.  Reachability is stated for an arbitrary guard, so
one invariant rule serves runs in which the environment is free and runs in
which every step meets a condition.
-/

namespace LegendOfStealth.Library

universe u v

/-- Option-valued steps, one for each action. -/
abbrev Step (α : Type u) (σ : Type v) :=
  α → σ → Option σ

/-- The states reached from a start state by steps that the guard allows. -/
inductive Reachable {α : Type u} {σ : Type v} (step : Step α σ) (allowed : σ → α → Prop)
    (start : σ) : σ → Prop
  | start : Reachable step allowed start start
  | next {state successor : σ} {action : α} :
      Reachable step allowed start state →
      allowed state action →
      step action state = some successor →
      Reachable step allowed start successor

namespace Reachable

variable {α : Type u} {σ : Type v} {step : Step α σ} {allowed weaker : σ → α → Prop}
  {start state : σ}

/-- A property of the start state that every allowed step from a reachable state
preserves holds of every reachable state. -/
theorem invariant {property : σ → Prop} (initially : property start)
    (preserved : ∀ {state successor action}, Reachable step allowed start state →
      property state → allowed state action → step action state = some successor →
        property successor)
    (reachable : Reachable step allowed start state) : property state := by
  induction reachable with
  | start => exact initially
  | next reached permitted stepped ih => exact preserved reached ih permitted stepped

theorem mono (weaken : ∀ state action, allowed state action → weaker state action)
    (reachable : Reachable step allowed start state) : Reachable step weaker start state := by
  induction reachable with
  | start => exact .start
  | next _ permitted stepped ih => exact .next ih (weaken _ _ permitted) stepped

end Reachable

/-- The state after a list of actions. -/
def runActions {α : Type u} {σ : Type v} (step : Step α σ) : List α → σ → Option σ
  | [], state => some state
  | action :: rest, state => (step action state).bind (runActions step rest)

/-- Actions that are allowed in every state lead from a reachable state to a
reachable state. -/
theorem Reachable.run {α : Type u} {σ : Type v} {step : Step α σ} {allowed : σ → α → Prop}
    {start state final : σ} {actions : List α}
    (permitted : ∀ action ∈ actions, ∀ state, allowed state action)
    (reached : Reachable step allowed start state)
    (ran : runActions step actions state = some final) : Reachable step allowed start final := by
  induction actions generalizing state with
  | nil =>
      cases ran
      exact reached
  | cons action rest ih =>
      rcases Option.bind_eq_some_iff.mp ran with ⟨middle, stepped, later⟩
      exact ih (fun action member => permitted action (List.mem_cons_of_mem _ member))
        (.next reached (permitted action List.mem_cons_self state) stepped) later

/-! ## All along a run -/

section Along

variable {α : Type u} {σ : Type v}

/-- A property holds in every state of a run, its first and its last included. -/
def Always (step : Step α σ) (property : σ → Prop) : List α → σ → Prop
  | [], state => property state
  | action :: rest, state =>
      property state ∧ ∀ next, step action state = some next → Always step property rest next

/-- Every step of a run meets a condition. -/
def Meets (step : Step α σ) (allowed : σ → α → Prop) : List α → σ → Prop
  | [], _ => True
  | action :: rest, state =>
      ∀ next, step action state = some next → allowed state action ∧ Meets step allowed rest next

variable {step : Step α σ} {property : σ → Prop} {allowed : σ → α → Prop}

theorem Always.head {actions : List α} {state : σ} (always : Always step property actions state) :
    property state := by
  cases actions with
  | nil => exact always
  | cons action rest => exact always.1

theorem Always.last {actions : List α} {state final : σ}
    (always : Always step property actions state)
    (ran : runActions step actions state = some final) : property final := by
  induction actions generalizing state with
  | nil =>
      cases ran
      exact always
  | cons action rest ih =>
      rcases Option.bind_eq_some_iff.mp ran with ⟨next, stepped, later⟩
      exact ih (always.2 next stepped) later

/-- What every step preserves holds all along a run. -/
theorem always_of_preserved
    (preserved : ∀ {state action next}, property state → step action state = some next →
      property next)
    (actions : List α) {state : σ} (initially : property state) :
    Always step property actions state := by
  induction actions generalizing state with
  | nil => exact initially
  | cons action rest ih =>
      exact ⟨initially, fun next stepped => ih (preserved initially stepped)⟩

theorem Always.mono {weaker : σ → Prop} (weaken : ∀ state, property state → weaker state)
    {actions : List α} {state : σ} (always : Always step property actions state) :
    Always step weaker actions state := by
  induction actions generalizing state with
  | nil => exact weaken state always
  | cons action rest ih =>
      exact ⟨weaken state always.1, fun next stepped => ih (always.2 next stepped)⟩

theorem runActions_append (first second : List α) (state : σ) :
    runActions step (first ++ second) state =
      (runActions step first state).bind (runActions step second) := by
  induction first generalizing state with
  | nil => rfl
  | cons action rest ih =>
      rw [List.cons_append, runActions, runActions, Option.bind_assoc]
      exact congrArg (step action state).bind (funext ih)

theorem Meets.append {first second : List α} {state : σ}
    (before : Meets step allowed first state)
    (later : ∀ final, runActions step first state = some final →
      Meets step allowed second final) :
    Meets step allowed (first ++ second) state := by
  induction first generalizing state with
  | nil => exact later state rfl
  | cons action rest ih =>
      intro next stepped
      obtain ⟨permitted, meets⟩ := before next stepped
      refine ⟨permitted, ih meets fun final ran => later final ?_⟩
      rw [runActions, stepped]
      exact ran

/-- Actions that are allowed in every state. -/
theorem meets_of_forall {actions : List α}
    (permitted : ∀ action ∈ actions, ∀ state, allowed state action) (state : σ) :
    Meets step allowed actions state := by
  induction actions generalizing state with
  | nil => trivial
  | cons action rest ih =>
      intro next _
      obtain ⟨first, others⟩ := List.forall_mem_cons.mp permitted
      exact ⟨first state, ih others next⟩

/-- What every step that meets a condition preserves holds all along a run of such steps. -/
theorem Meets.always {actions : List α} {state : σ} (meets : Meets step allowed actions state)
    (preserved : ∀ {state action next}, property state → allowed state action →
      step action state = some next → property next)
    (initially : property state) : Always step property actions state := by
  induction actions generalizing state with
  | nil => exact initially
  | cons action rest ih =>
      refine ⟨initially, ?_⟩
      intro next stepped
      obtain ⟨permitted, later⟩ := meets next stepped
      exact ih later (preserved initially permitted stepped)

/-- If a step keeps a property exactly when it meets a condition, then the property
holds all along a run exactly when every step meets the condition. -/
theorem always_iff_meets (invariant : σ → Prop)
    (exactly : ∀ {state action next}, invariant state → property state →
      step action state = some next → invariant next ∧ (property next ↔ allowed state action))
    {actions : List α} {state : σ} (invariantly : invariant state) (initially : property state) :
    Always step property actions state ↔ Meets step allowed actions state := by
  induction actions generalizing state with
  | nil => exact iff_of_true initially trivial
  | cons action rest ih =>
      rw [Always, Meets, and_iff_right initially]
      apply forall₂_congr
      intro next stepped
      rcases exactly invariantly initially stepped with ⟨still, kept⟩
      by_cases holds : property next
      · rw [ih still holds, and_iff_right (kept.mp holds)]
      · exact iff_of_false (fun always => holds always.head) fun meets => holds (kept.mpr meets.1)

end Along

end LegendOfStealth.Library
