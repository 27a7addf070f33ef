import Mathlib.Data.List.Nodup
import Mathlib.Data.List.Perm.Basic

/-!
# Lists and the order of their elements

Elements with different keys may change places, elements with the same key may
not: two lists are the same in this sense if they have the same elements of every
key in the same order.  Independently of keys, two lists agree on order if their
common elements stand in the same order.
-/

namespace LegendOfStealth.Library

universe u v

variable {α : Type u} {κ : Type v} [DecidableEq κ]

/-- The elements of a list that have a key. -/
def ofKey (key : α → κ) (k : κ) (xs : List α) : List α :=
  xs.filter fun x => key x = k

section OfKey

variable (key : α → κ) (k : κ)

@[simp]
theorem ofKey_nil : ofKey key k [] = [] :=
  rfl

@[simp]
theorem ofKey_append (xs ys : List α) :
    ofKey key k (xs ++ ys) = ofKey key k xs ++ ofKey key k ys :=
  List.filter_append ..

theorem ofKey_cons_self {x : α} (same : key x = k) (xs : List α) :
    ofKey key k (x :: xs) = x :: ofKey key k xs :=
  List.filter_cons_of_pos (by simpa using same)

theorem ofKey_cons_of_ne {x : α} (differs : key x ≠ k) (xs : List α) :
    ofKey key k (x :: xs) = ofKey key k xs :=
  List.filter_cons_of_neg (by simpa using differs)

theorem mem_ofKey {x : α} {xs : List α} : x ∈ ofKey key k xs ↔ x ∈ xs ∧ key x = k := by
  simp [ofKey]

theorem ofKey_eq_nil {xs : List α} (none : ∀ x ∈ xs, key x ≠ k) : ofKey key k xs = [] := by
  rw [List.eq_nil_iff_forall_not_mem]
  intro x member
  rw [mem_ofKey] at member
  exact none x member.1 member.2

/-- A list without repetitions of keys has one element of each of its keys. -/
theorem ofKey_eq_singleton {xs : List α} (distinct : (xs.map key).Nodup) {x : α}
    (member : x ∈ xs) : ofKey key (key x) xs = [x] := by
  induction xs with
  | nil => simp at member
  | cons y rest ih =>
      rw [List.map_cons, List.nodup_cons] at distinct
      rcases List.mem_cons.mp member with rfl | later
      · rw [ofKey_cons_self key _ rfl, ofKey_eq_nil]
        intro z zMem same
        exact distinct.1 (same ▸ List.mem_map_of_mem zMem)
      · have differs : key y ≠ key x := fun same =>
          distinct.1 (same ▸ List.mem_map_of_mem later)
        rw [ofKey_cons_of_ne key _ differs]
        exact ih distinct.2 later

/-- A list repeats nothing if it repeats nothing within a key. -/
theorem nodup_of_nodup_ofKey {xs : List α} (each : ∀ k, (ofKey key k xs).Nodup) : xs.Nodup := by
  induction xs with
  | nil => exact List.nodup_nil
  | cons x rest ih =>
      rw [List.nodup_cons]
      constructor
      · intro repeated
        have once := each (key x)
        rw [ofKey_cons_self key _ rfl, List.nodup_cons] at once
        exact once.1 ((mem_ofKey key _).mpr ⟨repeated, rfl⟩)
      · exact ih fun k => (each k).sublist ((List.sublist_cons_self x rest).filter _)

end OfKey

/-- The lists have the same elements of every key in the same order. -/
def SamePerKey (key : α → κ) (xs ys : List α) : Prop :=
  ∀ k, ofKey key k xs = ofKey key k ys

namespace SamePerKey

variable {key : α → κ} {xs ys zs first second : List α}

theorem refl (xs : List α) : SamePerKey key xs xs :=
  fun _ => rfl

theorem append (same : SamePerKey key xs ys) (next : SamePerKey key first second) :
    SamePerKey key (xs ++ first) (ys ++ second) := by
  intro k
  rw [ofKey_append, ofKey_append, same k, next k]

/-- Parts without a common key can change places. -/
theorem append_comm (unrelated : ∀ x ∈ xs, ∀ y ∈ ys, key x ≠ key y) :
    SamePerKey key (xs ++ ys) (ys ++ xs) := by
  intro k
  rw [ofKey_append, ofKey_append]
  by_cases found : ∃ x ∈ xs, key x = k
  · rcases found with ⟨x, member, rfl⟩
    rw [ofKey_eq_nil key (key x) fun y yMem same => unrelated x member y yMem same.symm]
    simp
  · rw [ofKey_eq_nil key k fun x member same => found ⟨x, member, same⟩]
    simp

theorem mem_iff (same : SamePerKey key xs ys) {x : α} : x ∈ xs ↔ x ∈ ys := by
  have inKey : ∀ zs : List α, x ∈ zs ↔ x ∈ ofKey key (key x) zs := fun zs => by
    simp [mem_ofKey]
  rw [inKey xs, same (key x), ← inKey ys]

theorem nodup (same : SamePerKey key xs ys) (distinct : ys.Nodup) : xs.Nodup :=
  nodup_of_nodup_ofKey key fun k => same k ▸ distinct.filter _

end SamePerKey

/-! ## Agreement on order -/

/-- The common elements of the lists stand in the same order. -/
def SameOrder [DecidableEq α] (xs ys : List α) : Prop :=
  xs.filter (fun x => x ∈ ys) = ys.filter (fun y => y ∈ xs)

instance [DecidableEq α] (xs ys : List α) : Decidable (SameOrder xs ys) :=
  inferInstanceAs (Decidable (_ = _))

namespace SameOrder

variable [DecidableEq α] {xs ys whole : List α}

theorem symm (agree : SameOrder xs ys) : SameOrder ys xs :=
  Eq.symm agree

/-- A list without repetitions agrees with each of its suffixes. -/
theorem of_suffix (suffix : xs <:+ ys) (distinct : ys.Nodup) : SameOrder xs ys := by
  rcases suffix with ⟨missed, rfl⟩
  have apart := (List.nodup_append.mp distinct).2.2
  have noneMissed : missed.filter (fun y => y ∈ xs) = [] := by
    rw [List.filter_eq_nil_iff]
    intro y yMem found
    exact apart y yMem y (by simpa using found) rfl
  have allShared : xs.filter (fun x => x ∈ missed ++ xs) = xs :=
    List.filter_eq_self.mpr fun x member => by simp [member]
  have allFound : xs.filter (fun x => x ∈ xs) = xs :=
    List.filter_eq_self.mpr fun x member => by simp [member]
  rw [SameOrder, List.filter_append, noneMissed, List.nil_append, allShared, allFound]

/-- Two suffixes of one list agree. -/
theorem of_common_suffix (first : xs <:+ whole) (second : ys <:+ whole) (distinct : xs.Nodup)
    (distinct' : ys.Nodup) : SameOrder xs ys := by
  rcases List.suffix_or_suffix_of_suffix first second with shorter | longer
  · exact of_suffix shorter distinct'
  · exact (of_suffix longer distinct).symm

end SameOrder

end LegendOfStealth.Library
