import Mathlib.Data.List.Basic

/-!
# Computations that read an indexed store

A traced read is a computation that may consult a store one index at a time.
Running it yields its result together with the indices consulted, oldest first.
The trace is complete by construction: two stores that agree on it give the
same run, so nothing outside the trace can have influenced the result.
-/

namespace LegendOfStealth.Library

universe u v w

/-- A computation that reads a store `ι → β` and records the indices read. -/
structure TracedRead (ι : Type u) (β : Type v) (α : Type w) where
  run : (ι → β) → α × List ι
  complete : ∀ first second : ι → β,
    (∀ i ∈ (run first).2, first i = second i) → run first = run second

namespace TracedRead

variable {ι : Type u} {β : Type v} {α γ : Type w}

/-- The result of a run, without its trace. -/
def value (m : TracedRead ι β α) (store : ι → β) : α :=
  (m.run store).1

/-- The indices a run consults, oldest first. -/
def reads (m : TracedRead ι β α) (store : ι → β) : List ι :=
  (m.run store).2

/-- Stores that agree on every index read give the same result. -/
theorem value_congr (m : TracedRead ι β α) {first second : ι → β}
    (agree : ∀ i ∈ m.reads first, first i = second i) :
    m.value first = m.value second :=
  congrArg Prod.fst (m.complete first second agree)

/-- Stores that agree on every index read are read at the same indices. -/
theorem reads_congr (m : TracedRead ι β α) {first second : ι → β}
    (agree : ∀ i ∈ m.reads first, first i = second i) :
    m.reads first = m.reads second :=
  congrArg Prod.snd (m.complete first second agree)

/-- Consult the store at one index. -/
def read (i : ι) : TracedRead ι β β where
  run store := (store i, [i])
  complete first second agree := by
    have same : first i = second i := agree i (by simp)
    simp [same]

/-- Return a result without consulting the store. -/
protected def pure (a : α) : TracedRead ι β α where
  run _ := (a, [])
  complete _ _ _ := rfl

/-- Continue with the result of a first computation on the same store. -/
protected def bind (m : TracedRead ι β α) (next : α → TracedRead ι β γ) :
    TracedRead ι β γ where
  run store :=
    ((next (m.value store)).value store,
      m.reads store ++ (next (m.value store)).reads store)
  complete first second agree := by
    have agreeHere : ∀ i ∈ m.reads first, first i = second i := fun i member =>
      agree i (List.mem_append_left _ member)
    have agreeLater : ∀ i ∈ (next (m.value first)).reads first, first i = second i :=
      fun i member => agree i (List.mem_append_right _ member)
    rw [← m.value_congr agreeHere, ← m.reads_congr agreeHere,
      (next (m.value first)).value_congr agreeLater,
      (next (m.value first)).reads_congr agreeLater]

instance : Monad (TracedRead ι β) where
  pure := TracedRead.pure
  bind := TracedRead.bind

@[simp]
theorem value_read (i : ι) (store : ι → β) : (read i).value store = store i :=
  rfl

@[simp]
theorem reads_read (i : ι) (store : ι → β) : (read i).reads store = [i] :=
  rfl

@[simp]
theorem value_pure (a : α) (store : ι → β) :
    (pure a : TracedRead ι β α).value store = a :=
  rfl

@[simp]
theorem reads_pure (a : α) (store : ι → β) :
    (pure a : TracedRead ι β α).reads store = [] :=
  rfl

@[simp]
theorem value_bind (m : TracedRead ι β α) (next : α → TracedRead ι β γ) (store : ι → β) :
    (m >>= next).value store = (next (m.value store)).value store :=
  rfl

@[simp]
theorem reads_bind (m : TracedRead ι β α) (next : α → TracedRead ι β γ) (store : ι → β) :
    (m >>= next).reads store = m.reads store ++ (next (m.value store)).reads store :=
  rfl

end TracedRead

/-- The store holds a list of values from a position on. -/
def Holds {β : Type v} (store : Nat → β) (position : Nat) : List β → Prop
  | [] => True
  | b :: rest => store position = b ∧ Holds store (position + 1) rest

@[simp]
theorem holds_nil {β : Type v} (store : Nat → β) (position : Nat) :
    Holds store position [] :=
  trivial

@[simp]
theorem holds_cons_iff {β : Type v} (store : Nat → β) (position : Nat) (b : β)
    (rest : List β) :
    Holds store position (b :: rest) ↔ store position = b ∧ Holds store (position + 1) rest :=
  Iff.rfl

/-- A store holds a concatenation exactly when it holds both parts one after
the other. -/
theorem holds_append_iff {β : Type v} (store : Nat → β) (position : Nat)
    (first second : List β) :
    Holds store position (first ++ second) ↔
      Holds store position first ∧ Holds store (position + first.length) second := by
  induction first generalizing position with
  | nil => simp
  | cons b rest ih =>
      simp [ih, and_assoc, Nat.add_assoc, Nat.add_comm 1]

/-- A list of values followed by whatever a memory holds behind it. -/
def storeOf {β : Type v} (values : List β) (behind : Nat → β) : Nat → β :=
  fun i => values.getD i (behind i)

theorem storeOf_of_lt {β : Type v} (values : List β) (behind : Nat → β) {i : Nat}
    (bound : i < values.length) : storeOf values behind i = values[i] := by
  simp [storeOf, bound]

/-- The store built from a list holds that list from the start. -/
theorem holds_storeOf {β : Type v} (values : List β) (behind : Nat → β) :
    Holds (storeOf values behind) 0 values := by
  suffices shifted : ∀ before : List β,
      Holds (storeOf (before ++ values) behind) before.length values by
    simpa using shifted []
  induction values with
  | nil => simp
  | cons b rest ih =>
      intro before
      have tail := ih (before ++ [b])
      rw [holds_cons_iff]
      exact ⟨by simp [storeOf], by simpa using tail⟩

end LegendOfStealth.Library
