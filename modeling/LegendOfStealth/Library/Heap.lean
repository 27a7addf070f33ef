import Mathlib.Data.List.Basic

/-!
# Allocation and release

Resources are named by the order in which they are allocated.  A heap records how
often each name is released and which names are used when they are no longer live.

Ownership is stated beside the heap: a name is charged once for every release and once
for every owner who has yet to release it.  An operation that gives back what it
allocates, or hands it to an owner, charges the names it allocates once and no other
name.  Such operations compose.
-/

namespace LegendOfStealth.Library

/-- What has been allocated, released, and used when it was not live. -/
structure Heap where
  allocated : Nat
  releases : List Nat
  stale : List Nat
  deriving DecidableEq, Repr

namespace Heap

/-- The heap before the first allocation. -/
def empty : Heap :=
  ⟨0, [], []⟩

/-- The name has been allocated and not yet released. -/
def Live (heap : Heap) (name : Nat) : Prop :=
  name < heap.allocated ∧ name ∉ heap.releases

instance (heap : Heap) (name : Nat) : Decidable (heap.Live name) :=
  inferInstanceAs (Decidable (_ ∧ _))

/-- Allocate the name `heap.allocated`. -/
def allocate (heap : Heap) : Heap :=
  { heap with allocated := heap.allocated + 1 }

/-- Read or write. -/
def access (name : Nat) (heap : Heap) : Heap :=
  if heap.Live name then heap else { heap with stale := heap.stale ++ [name] }

/-- Give a name back, live or not. -/
def release (name : Nat) (heap : Heap) : Heap :=
  { heap with releases := heap.releases ++ [name] }

/-- Everything allocated is released exactly once and never used afterwards. -/
def Clean (heap : Heap) : Prop :=
  ∀ name < heap.allocated, heap.releases.count name = 1 ∧ name ∉ heap.stale

instance (heap : Heap) : Decidable heap.Clean :=
  inferInstanceAs (Decidable (∀ name < heap.allocated, _))

@[simp]
theorem releases_allocate (heap : Heap) : heap.allocate.releases = heap.releases :=
  rfl

@[simp]
theorem allocated_access (name : Nat) (heap : Heap) :
    (heap.access name).allocated = heap.allocated := by
  rw [access]
  split <;> rfl

@[simp]
theorem releases_access (name : Nat) (heap : Heap) :
    (heap.access name).releases = heap.releases := by
  rw [access]
  split <;> rfl

@[simp]
theorem allocated_release (name : Nat) (heap : Heap) :
    (heap.release name).allocated = heap.allocated :=
  rfl

@[simp]
theorem releases_release (name : Nat) (heap : Heap) :
    (heap.release name).releases = heap.releases ++ [name] :=
  rfl

/-- What is live can be released without being released twice. -/
theorem nodup_releases_release {name : Nat} {heap : Heap} (once : heap.releases.Nodup)
    (live : heap.Live name) : (heap.release name).releases.Nodup := by
  rw [releases_release, (List.perm_append_singleton name heap.releases).nodup_iff]
  exact List.nodup_cons.mpr ⟨live.2, once⟩

theorem access_of_live {name : Nat} {heap : Heap} (live : heap.Live name) :
    heap.access name = heap :=
  if_pos live

/-- How often a name is released or waits to be released by an owner. -/
def charges (heap : Heap) (owned : List Nat) (name : Nat) : Nat :=
  heap.releases.count name + owned.count name

/-- Nothing is charged before it is allocated. -/
def Bounded (heap : Heap) (owned : List Nat) : Prop :=
  ∀ name, heap.allocated ≤ name → heap.charges owned name = 0

/-- Nothing is charged twice: what is owned is live, and has one owner. -/
def Sole (heap : Heap) (owned : List Nat) : Prop :=
  ∀ name, heap.charges owned name ≤ 1

/-- Everything allocated is charged. -/
def Covered (heap : Heap) (owned : List Nat) : Prop :=
  ∀ name < heap.allocated, 1 ≤ heap.charges owned name

theorem bounded_empty : empty.Bounded [] :=
  fun _ _ => rfl

theorem sole_empty : empty.Sole [] :=
  fun _ => Nat.zero_le 1

theorem covered_empty : empty.Covered [] :=
  fun _ beyond => absurd beyond (Nat.not_lt_zero _)

section Owned

variable {heap : Heap} {owned : List Nat} {name : Nat}

theorem Sole.live (sole : heap.Sole owned) (bounded : heap.Bounded owned) (own : name ∈ owned) :
    heap.Live name := by
  have counted : 0 < owned.count name := List.count_pos_iff.mpr own
  constructor
  · by_contra beyond
    have none := bounded name (Nat.le_of_not_lt beyond)
    rw [charges] at none
    omega
  · intro released
    have twice := sole name
    have once : 0 < heap.releases.count name := List.count_pos_iff.mpr released
    rw [charges] at twice
    omega

/-- With no owner left, a heap is clean if every name is charged once and used only
while it is live. -/
theorem clean_iff (bounded : heap.Bounded []) (honest : heap.Sole [] → heap.stale = []) :
    heap.Clean ↔ heap.Sole [] ∧ heap.Covered [] := by
  simp only [Bounded, Sole, Covered, Clean, charges, List.count_nil, Nat.add_zero] at *
  constructor
  · intro clean
    refine ⟨fun name => ?_, fun name below => Nat.le_of_eq (clean name below).1.symm⟩
    by_cases below : name < heap.allocated
    · exact Nat.le_of_eq (clean name below).1
    · rw [bounded name (Nat.le_of_not_lt below)]
      exact Nat.zero_le 1
  · rintro ⟨sole, covered⟩ name below
    refine ⟨Nat.le_antisymm (sole name) (covered name below), ?_⟩
    rw [honest sole]
    exact List.not_mem_nil

end Owned

/-! ## Operations that keep the charges -/

/-- The operation charges every name that it allocates once and no other name, and uses
only live names if what is owned has one owner. -/
structure Keeps (heap : Heap) (owned : List Nat) (after : Heap) (afterOwned : List Nat) :
    Prop where
  grows : heap.allocated ≤ after.allocated
  charged : ∀ name, after.charges afterOwned name =
    heap.charges owned name + if heap.allocated ≤ name ∧ name < after.allocated then 1 else 0
  used : heap.Bounded owned → heap.Sole owned → after.stale = heap.stale

namespace Keeps

variable {heap middle after : Heap} {owned middleOwned afterOwned : List Nat}

theorem bounded (keeps : Keeps heap owned after afterOwned) (bounded : heap.Bounded owned) :
    after.Bounded afterOwned := by
  intro name beyond
  rw [keeps.charged, bounded name (Nat.le_trans keeps.grows beyond),
    if_neg (fun between => Nat.not_lt.mpr beyond between.2)]

theorem sole_iff (keeps : Keeps heap owned after afterOwned) (bounded : heap.Bounded owned) :
    after.Sole afterOwned ↔ heap.Sole owned := by
  apply forall_congr'
  intro name
  rw [keeps.charged]
  split
  · rename_i fresh
    rw [bounded name fresh.1]
    exact iff_of_true (Nat.le_refl 1) (Nat.zero_le 1)
  · exact Iff.rfl

/-- If names are used only while they are live as long as nothing is charged twice, this
stays so. -/
theorem honest (keeps : Keeps heap owned after afterOwned) (bounded : heap.Bounded owned)
    (honest : heap.Sole owned → heap.stale = []) (sole : heap.Sole owned) : after.stale = [] :=
  (keeps.used bounded sole).trans (honest sole)

theorem covered_iff (keeps : Keeps heap owned after afterOwned) :
    after.Covered afterOwned ↔ heap.Covered owned := by
  constructor
  · intro covered name below
    have charged := covered name (Nat.lt_of_lt_of_le below keeps.grows)
    rw [keeps.charged, if_neg (fun between => Nat.not_le.mpr below between.1)] at charged
    exact charged
  · intro covered name below
    rw [keeps.charged]
    by_cases old : name < heap.allocated
    · exact Nat.le_add_right_of_le (covered name old)
    · rw [if_pos ⟨Nat.le_of_not_lt old, below⟩]
      exact Nat.le_add_left 1 _

theorem refl (heap : Heap) (owned : List Nat) : Keeps heap owned heap owned where
  grows := Nat.le_refl _
  charged name := by
    rw [if_neg (fun between => Nat.not_lt.mpr between.1 between.2), Nat.add_zero]
  used _ _ := rfl

theorem trans (first : Keeps heap owned middle middleOwned)
    (second : Keeps middle middleOwned after afterOwned) : Keeps heap owned after afterOwned where
  grows := Nat.le_trans first.grows second.grows
  charged name := by
    have start := first.grows
    have finish := second.grows
    rw [second.charged, first.charged]
    split <;> split <;> split <;> omega
  used bounded sole :=
    (second.used (first.bounded bounded) ((first.sole_iff bounded).mpr sole)).trans
      (first.used bounded sole)

theorem frame (keeps : Keeps heap owned after afterOwned) (rest : List Nat) :
    Keeps heap (owned ++ rest) after (afterOwned ++ rest) where
  grows := keeps.grows
  charged name := by
    have charged := keeps.charged name
    simp only [charges, List.count_append] at charged ⊢
    omega
  used bounded sole := by
    apply keeps.used
    · intro name beyond
      have none := bounded name beyond
      simp only [charges, List.count_append] at none ⊢
      omega
    · intro name
      have once := sole name
      simp only [charges, List.count_append] at once ⊢
      omega

theorem reorder (keeps : Keeps heap owned after afterOwned) {before later : List Nat}
    (first : before.Perm owned) (last : later.Perm afterOwned) : Keeps heap before after later where
  grows := keeps.grows
  charged name := by
    rw [charges, charges, first.count_eq, last.count_eq]
    exact keeps.charged name
  used bounded sole := by
    apply keeps.used
    · intro name beyond
      rw [charges, ← first.count_eq]
      exact bounded name beyond
    · intro name
      rw [charges, ← first.count_eq]
      exact sole name

end Keeps

variable (heap : Heap) (owned : List Nat) (name : Nat)

theorem keeps_allocate : Keeps heap owned heap.allocate (heap.allocated :: owned) where
  grows := Nat.le_succ _
  charged name := by
    by_cases new : heap.allocated = name
    · subst new
      rw [if_pos ⟨Nat.le_refl _, Nat.lt_succ_self _⟩, charges, charges, releases_allocate,
        List.count_cons_self, Nat.add_assoc]
    · rw [if_neg (fun between => new (Nat.le_antisymm between.1 (Nat.le_of_lt_succ between.2))),
        charges, charges, releases_allocate, List.count_cons_of_ne new, Nat.add_zero]
  used _ _ := rfl

theorem keeps_release : Keeps heap (name :: owned) (heap.release name) owned where
  grows := Nat.le_refl _
  charged other := by
    rw [allocated_release, if_neg (fun between => Nat.not_lt.mpr between.1 between.2)]
    simp only [charges, releases_release, List.count_append, List.count_cons, List.count_nil]
    omega
  used _ _ := rfl

variable {heap owned name}

theorem keeps_access (own : name ∈ owned) : Keeps heap owned (heap.access name) owned where
  grows := Nat.le_of_eq (allocated_access name heap).symm
  charged other := by
    rw [allocated_access, if_neg (fun between => Nat.not_lt.mpr between.1 between.2),
      charges, charges, releases_access, Nat.add_zero]
  used bounded sole := by
    rw [access_of_live (sole.live bounded own)]

/-! ## Faults -/

/-- A name that was allocated on the way is lost: it is never released, and nothing
else changes. -/
theorem Keeps.lose {after : Heap} {afterOwned : List Nat}
    (keeps : Keeps heap owned after (name :: afterOwned)) (bounded : heap.Bounded owned)
    (new : heap.allocated ≤ name) (allocated : name < after.allocated) :
    after.Bounded afterOwned ∧ (after.Sole afterOwned ↔ heap.Sole owned) ∧
      ¬ after.Covered afterOwned := by
  have less (other : Nat) : after.charges (name :: afterOwned) other =
      after.charges afterOwned other + if name = other then 1 else 0 := by
    rw [charges, charges, List.count_cons, Nat.add_assoc]
    simp
  refine ⟨?_, ?_, ?_⟩
  · intro other beyond
    have none := keeps.bounded bounded other beyond
    rw [less] at none
    omega
  · constructor
    · intro sole other
      by_cases old : other < heap.allocated
      · have same := keeps.charged other
        rw [less, if_neg (by omega), if_neg (by omega)] at same
        rw [← Nat.add_zero (heap.charges owned other), ← same]
        exact sole other
      · rw [bounded other (Nat.le_of_not_lt old)]
        exact Nat.zero_le 1
    · intro sole other
      have once := (keeps.sole_iff bounded).mpr sole other
      rw [less] at once
      exact Nat.le_trans (Nat.le_add_right _ _) once
  · intro covered
    have charged := keeps.charged name
    rw [less, if_pos rfl, bounded name new, if_pos ⟨new, allocated⟩] at charged
    have some := covered name allocated
    omega

/-- A name that is released while its owner is still to release it is charged twice. -/
theorem not_sole_release (own : name ∈ owned) : ¬ (heap.release name).Sole owned := by
  intro sole
  have twice := sole name
  have owners : 0 < owned.count name := List.count_pos_iff.mpr own
  rw [charges, releases_release, List.count_append, List.count_singleton_self] at twice
  omega

theorem covered_release_iff (own : name ∈ owned) :
    (heap.release name).Covered owned ↔ heap.Covered owned := by
  have owners : 0 < owned.count name := List.count_pos_iff.mpr own
  apply forall₂_congr
  intro other below
  rw [charges, charges, releases_release, List.count_append, List.count_singleton]
  by_cases same : name = other
  · subst same
    exact iff_of_true (by omega) (by omega)
  · rw [beq_false_of_ne same]
    rfl

theorem bounded_release (bounded : heap.Bounded owned) (own : name ∈ owned) :
    (heap.release name).Bounded owned := by
  intro other beyond
  have none := bounded other beyond
  have differ : name ≠ other := by
    rintro rfl
    have owners : 0 < owned.count name := List.count_pos_iff.mpr own
    rw [charges] at none
    omega
  rw [charges] at none ⊢
  rw [releases_release, List.count_append, List.count_singleton, beq_false_of_ne differ]
  exact none

end Heap

end LegendOfStealth.Library
