import Mathlib.Init

/-!
# Folds that can fail

`List.foldlM` in `Except` processes a list until the first failure.  `Along`
says that a property holds of every element in the state in which the fold
processes it, `Chain` that the elements lead from one state to another, each by a
step of a relation.
-/

namespace LegendOfStealth.Library

universe u v w

/-- The computation succeeds. -/
def Succeeds {ε : Type u} {α : Type v} (result : Except ε α) : Prop :=
  ∃ value, result = .ok value

theorem bind_eq_ok_iff {ε : Type u} {α β : Type v} {first : Except ε α}
    {next : α → Except ε β} {value : β} :
    (first >>= next) = .ok value ↔ ∃ middle, first = .ok middle ∧ next middle = .ok value := by
  cases first with
  | error failure => simp [bind, Except.bind]
  | ok middle => simp [bind, Except.bind]

section Fold

variable {ε : Type u} {σ : Type v} {α : Type w} (step : σ → α → Except ε σ)

theorem foldlM_cons_eq_ok_iff {x : α} {rest : List α} {state final : σ} :
    (x :: rest).foldlM step state = .ok final ↔
      ∃ middle, step state x = .ok middle ∧ rest.foldlM step middle = .ok final := by
  rw [List.foldlM_cons]
  exact bind_eq_ok_iff

/-- The property holds of every element, in the state it is processed in. -/
def Along (property : σ → α → Prop) : List α → σ → Prop
  | [], _ => True
  | x :: rest, state =>
      property state x ∧ ∀ next, step state x = .ok next → Along property rest next

variable {step} {property weaker : σ → α → Prop}

theorem Along.mono (weaken : ∀ state x, property state x → weaker state x) {xs : List α}
    {state : σ} (along : Along step property xs state) : Along step weaker xs state := by
  induction xs generalizing state with
  | nil => trivial
  | cons x rest ih =>
      exact ⟨weaken _ _ along.1, fun next stepped => ih (along.2 next stepped)⟩

theorem along_of_forall {onElements : α → Prop} {xs : List α} (all : ∀ x ∈ xs, onElements x)
    (state : σ) : Along step (fun _ x => onElements x) xs state := by
  induction xs generalizing state with
  | nil => trivial
  | cons x rest ih =>
      exact ⟨all x List.mem_cons_self,
        fun next _ => ih (fun y member => all y (List.mem_cons_of_mem x member)) next⟩

/-- A fold succeeds exactly when every step that it reaches succeeds. -/
theorem succeeds_foldlM_iff {xs : List α} {state : σ} :
    Succeeds (xs.foldlM step state) ↔
      Along step (fun state x => Succeeds (step state x)) xs state := by
  induction xs generalizing state with
  | nil => exact ⟨fun _ => trivial, fun _ => ⟨state, rfl⟩⟩
  | cons x rest ih =>
      constructor
      · rintro ⟨final, folded⟩
        rcases (foldlM_cons_eq_ok_iff step).mp folded with ⟨middle, stepped, later⟩
        refine ⟨⟨middle, stepped⟩, ?_⟩
        intro next stepped'
        cases stepped.symm.trans stepped'
        exact ih.mp ⟨final, later⟩
      · rintro ⟨⟨middle, stepped⟩, along⟩
        rcases ih.mpr (along middle stepped) with ⟨final, later⟩
        exact ⟨final, (foldlM_cons_eq_ok_iff step).mpr ⟨middle, stepped, later⟩⟩

/-- What every step preserves, the fold preserves. -/
theorem foldlM_invariant {invariant : σ → Prop}
    (preserved : ∀ {state x next}, invariant state → property state x →
      step state x = .ok next → invariant next)
    {xs : List α} {state final : σ} (initially : invariant state)
    (along : Along step property xs state) (folded : xs.foldlM step state = .ok final) :
    invariant final := by
  induction xs generalizing state with
  | nil =>
      cases folded
      exact initially
  | cons x rest ih =>
      rcases (foldlM_cons_eq_ok_iff step).mp folded with ⟨middle, stepped, later⟩
      exact ih (preserved initially along.1 stepped) (along.2 middle stepped) later

/-- The elements, one after the other, lead from a state to a state. -/
inductive Chain (relation : σ → α → σ → Prop) : List α → σ → σ → Prop
  | nil {state : σ} : Chain relation [] state state
  | cons {x : α} {rest : List α} {before middle after : σ} :
      relation before x middle → Chain relation rest middle after →
        Chain relation (x :: rest) before after

theorem Chain.mono {relation weaker : σ → α → σ → Prop}
    (weaken : ∀ {before x after}, relation before x after → weaker before x after) {xs : List α}
    {state final : σ} (chain : Chain relation xs state final) : Chain weaker xs state final := by
  induction chain with
  | nil => exact .nil
  | cons first _ ih => exact .cons (weaken first) ih

/-- A fold that succeeds is the chain of its steps. -/
theorem chain_of_foldlM {xs : List α} {state final : σ} (folded : xs.foldlM step state = .ok final) :
    Chain (fun before x after => step before x = .ok after) xs state final := by
  induction xs generalizing state with
  | nil =>
      cases folded
      exact .nil
  | cons x rest ih =>
      rcases (foldlM_cons_eq_ok_iff step).mp folded with ⟨middle, stepped, later⟩
      exact .cons stepped (ih later)

end Fold

/-! ## Folds in `Option` -/

section Total

variable {σ : Type v} {α : Type w} {step : σ → α → Option σ} (done : List α → σ → Prop)

theorem exists_foldlM_from {xs : List α} {before : List α} {state : σ} (started : done before state)
    (steps : ∀ x ∈ xs, ∀ before state, done before state →
      ∃ next, step state x = some next ∧ done (before ++ [x]) next) :
    ∃ final, xs.foldlM step state = some final ∧ done (before ++ xs) final := by
  induction xs generalizing before state with
  | nil => exact ⟨state, rfl, by rwa [List.append_nil]⟩
  | cons x rest ih =>
      rcases steps x List.mem_cons_self before state started with ⟨next, stepped, later⟩
      rcases ih later fun y member => steps y (List.mem_cons_of_mem x member) with
        ⟨final, folded, finished⟩
      refine ⟨final, ?_, ?_⟩
      · rw [List.foldlM_cons, stepped]
        exact folded
      · rwa [List.append_assoc] at finished

/-- A fold in `Option` succeeds if every step does, and what the steps establish about
the elements that are done holds of all of them at the end. -/
theorem exists_foldlM {xs : List α} {state : σ} (started : done [] state)
    (steps : ∀ x ∈ xs, ∀ before state, done before state →
      ∃ next, step state x = some next ∧ done (before ++ [x]) next) :
    ∃ final, xs.foldlM step state = some final ∧ done xs final :=
  exists_foldlM_from done started steps

theorem done_of_foldlM_from {xs : List α} {before : List α} {state final : σ}
    (started : done before state)
    (steps : ∀ x ∈ xs, ∀ before state next, done before state → step state x = some next →
      done (before ++ [x]) next)
    (folded : xs.foldlM step state = some final) : done (before ++ xs) final := by
  induction xs generalizing before state with
  | nil =>
      cases folded
      rwa [List.append_nil]
  | cons x rest ih =>
      rw [List.foldlM_cons] at folded
      rcases Option.bind_eq_some_iff.mp folded with ⟨next, stepped, later⟩
      have turn := steps x List.mem_cons_self before state next started stepped
      have finished := ih turn (fun y member => steps y (List.mem_cons_of_mem x member)) later
      rwa [List.append_assoc] at finished

/-- If a fold in `Option` succeeds, then what its steps establish about the elements that
are done holds of all of them at the end. -/
theorem done_of_foldlM {xs : List α} {state final : σ} (started : done [] state)
    (steps : ∀ x ∈ xs, ∀ before state next, done before state → step state x = some next →
      done (before ++ [x]) next)
    (folded : xs.foldlM step state = some final) : done xs final :=
  done_of_foldlM_from done started steps folded

theorem foldlM_append {β : Type v} {append : List β → α → Option (List β)} {image : α → List β}
    {xs : List α} (appends : ∀ x ∈ xs, ∀ done, append done x = some (done ++ image x))
    (done : List β) : xs.foldlM append done = some (done ++ xs.flatMap image) := by
  induction xs generalizing done with
  | nil => rw [List.foldlM_nil, List.flatMap_nil, List.append_nil]; rfl
  | cons x rest ih =>
      rw [List.foldlM_cons, appends x List.mem_cons_self, List.flatMap_cons, ← List.append_assoc]
      exact ih (fun y member => appends y (List.mem_cons_of_mem x member)) _

end Total

end LegendOfStealth.Library
