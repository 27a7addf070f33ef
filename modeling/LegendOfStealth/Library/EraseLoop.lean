import Mathlib.Data.List.Basic

/-!
# Erasing every occurrence, up to a bound

A loop walks a vector by index and erases the elements that equal a given one, stepping
the index back each time.  The bound of the index is evaluated before every turn and
need not be the length of the vector; an index outside the vector is a failure.

With the vector's own length as the bound every occurrence is erased.  With a bound from
elsewhere the loop erases until it has passed that many other elements.
-/

namespace LegendOfStealth.Library

universe u

variable {α : Type u} [DecidableEq α]

/-- `for (int i=0; i<bound; i++) if (v[i] == x) v.erase(v.begin()+i--);` from an index
on. -/
def eraseLoop (bound : List α → Nat) (x : α) : Nat → Nat → List α → Option (List α)
  | 0, _, _ => none
  | fuel + 1, i, items =>
      if i < bound items then
        match items[i]? with
        | none => none
        | some y =>
            if y = x then eraseLoop bound x fuel i (items.eraseIdx i)
            else eraseLoop bound x fuel (i + 1) items
      else some items

/-- The whole loop: a turn for each element, and one more to find the end. -/
def eraseAll (bound : List α → Nat) (x : α) (items : List α) : Option (List α) :=
  eraseLoop bound x (items.length + 1) 0 items

/-- The elements other than a given one. -/
def others (x : α) (items : List α) : List α :=
  items.filter (· ≠ x)

@[simp]
theorem others_nil (x : α) : others x [] = [] :=
  rfl

@[simp]
theorem others_cons_self (x : α) (items : List α) : others x (x :: items) = others x items := by
  simp [others]

theorem others_cons_of_ne {x y : α} (differs : y ≠ x) (items : List α) :
    others x (y :: items) = y :: others x items := by
  simp [others, differs]

/-- Erase every occurrence that is found before a number of others have been passed. -/
def eraseUntil (x : α) : Nat → List α → List α
  | 0, items => items
  | _ + 1, [] => []
  | n + 1, y :: rest => if y = x then eraseUntil x (n + 1) rest else y :: eraseUntil x n rest

section Turn

variable {bound : List α → Nat} {x y : α} {fuel : Nat} {done rest : List α}

theorem eraseLoop_past {i : Nat} {items : List α} (past : ¬ i < bound items) :
    eraseLoop bound x (fuel + 1) i items = some items := by
  rw [eraseLoop, if_neg past]

theorem eraseLoop_outside (within : done.length < bound done) :
    eraseLoop bound x (fuel + 1) done.length done = none := by
  rw [eraseLoop, if_pos within, List.getElem?_eq_none (Nat.le_refl _)]

theorem eraseLoop_self (within : done.length < bound (done ++ x :: rest)) :
    eraseLoop bound x (fuel + 1) done.length (done ++ x :: rest) =
      eraseLoop bound x fuel done.length (done ++ rest) := by
  have erased : (done ++ x :: rest).eraseIdx done.length = done ++ rest := by
    rw [List.eraseIdx_append_of_length_le (Nat.le_refl _), Nat.sub_self, List.eraseIdx_cons_zero]
  rw [eraseLoop, if_pos within, List.getElem?_append_right (Nat.le_refl _), Nat.sub_self]
  simp only [List.getElem?_cons_zero, if_true, erased]

theorem eraseLoop_other (within : done.length < bound (done ++ y :: rest)) (differs : y ≠ x) :
    eraseLoop bound x (fuel + 1) done.length (done ++ y :: rest) =
      eraseLoop bound x fuel (done ++ [y]).length ((done ++ [y]) ++ rest) := by
  rw [eraseLoop, if_pos within, List.getElem?_append_right (Nat.le_refl _), Nat.sub_self]
  simp only [List.getElem?_cons_zero, if_neg differs, List.length_append, List.length_singleton,
    List.append_assoc, List.singleton_append]

end Turn

/-- From the middle of the loop, bounded by the length of the vector. -/
theorem eraseLoop_length (x : α) (todo done : List α) {fuel : Nat} (enough : todo.length < fuel) :
    eraseLoop List.length x fuel done.length (done ++ todo) = some (done ++ others x todo) := by
  induction todo generalizing done fuel with
  | nil =>
      rcases Nat.exists_eq_add_of_lt enough with ⟨more, rfl⟩
      rw [List.append_nil, eraseLoop_past (Nat.lt_irrefl _), others_nil, List.append_nil]
  | cons y rest ih =>
      rcases Nat.exists_eq_add_one_of_ne_zero (Nat.ne_zero_of_lt enough) with ⟨fuel, rfl⟩
      have later : rest.length < fuel := Nat.lt_of_succ_lt_succ enough
      have within : done.length < (done ++ y :: rest).length := by
        rw [List.length_append, List.length_cons]
        omega
      by_cases same : y = x
      · subst same
        rw [eraseLoop_self within, ih done later, others_cons_self]
      · rw [eraseLoop_other within same, ih (done ++ [y]) later, others_cons_of_ne same,
          List.append_assoc, List.singleton_append]

/-- Bounded by its own length the loop erases every occurrence. -/
theorem eraseAll_length (x : α) (items : List α) :
    eraseAll List.length x items = some (others x items) :=
  eraseLoop_length x items [] (Nat.lt_succ_self _)

/-- From the middle of the loop, bounded by a number of elements that are still to be
passed. -/
theorem eraseLoop_const (x : α) (todo done : List α) (n : Nat) {fuel : Nat}
    (enough : todo.length < fuel) :
    eraseLoop (fun _ => done.length + n) x fuel done.length (done ++ todo) =
      if n ≤ (others x todo).length then some (done ++ eraseUntil x n todo) else none := by
  induction todo generalizing done n fuel with
  | nil =>
      rcases Nat.exists_eq_add_of_lt enough with ⟨more, rfl⟩
      cases n with
      | zero => exact eraseLoop_past (Nat.lt_irrefl _)
      | succ n =>
          rw [List.append_nil, eraseLoop_outside (by omega), if_neg (by simp)]
  | cons y rest ih =>
      rcases Nat.exists_eq_add_one_of_ne_zero (Nat.ne_zero_of_lt enough) with ⟨fuel, rfl⟩
      have later : rest.length < fuel := Nat.lt_of_succ_lt_succ enough
      cases n with
      | zero =>
          rw [if_pos (Nat.zero_le _), eraseUntil]
          exact eraseLoop_past (Nat.lt_irrefl _)
      | succ n =>
          by_cases same : y = x
          · subst same
            rw [eraseLoop_self (by omega), ih done (n + 1) later, others_cons_self, eraseUntil,
              if_pos rfl]
          · have length : done.length + (n + 1) = (done ++ [y]).length + n := by
              rw [List.length_append, List.length_singleton]
              omega
            rw [eraseLoop_other (by omega) same, length, ih (done ++ [y]) n later,
              others_cons_of_ne same, List.length_cons, eraseUntil, if_neg same]
            simp only [Nat.add_le_add_iff_right, List.append_assoc, List.singleton_append]

/-- With a bound from elsewhere the loop stays inside the vector if there are that many
other elements, and then it erases until it has passed them. -/
theorem eraseAll_const (x : α) (items : List α) (n : Nat) :
    eraseAll (fun _ => n) x items =
      if n ≤ (others x items).length then some (eraseUntil x n items) else none := by
  have whole := eraseLoop_const x items [] n (Nat.lt_succ_self items.length)
  simp only [List.length_nil, Nat.zero_add, List.nil_append] at whole
  exact whole

omit [DecidableEq α] in
theorem forall_split_cons_iff {x y : α} {rest : List α} {property : List α → Prop} :
    (∀ before after, y :: rest = before ++ x :: after → property before) ↔
      (y = x → property []) ∧
        ∀ before after, rest = before ++ x :: after → property (y :: before) := by
  constructor
  · intro all
    constructor
    · rintro rfl
      exact all [] rest rfl
    · intro before after shape
      exact all (y :: before) after (congrArg (y :: ·) shape)
  · rintro ⟨first, later⟩ before after shape
    cases before with
    | nil => exact first (List.cons.inj shape).1
    | cons z before =>
        rcases List.cons.inj shape with ⟨rfl, tail⟩
        exact later before after tail

/-- Every occurrence has been erased exactly if none comes after that many others. -/
theorem eraseUntil_eq_others_iff (x : α) (n : Nat) (items : List α) :
    eraseUntil x n items = others x items ↔
      ∀ before after, items = before ++ x :: after → (others x before).length < n := by
  induction items generalizing n with
  | nil =>
      have none : ∀ before after, [] = before ++ x :: after → (others x before).length < n :=
        fun before after shape => absurd shape.symm (by simp)
      cases n with
      | zero => exact iff_of_true rfl none
      | succ n => exact iff_of_true rfl none
  | cons y rest ih =>
      cases n with
      | zero =>
          rw [eraseUntil, others, eq_comm, List.filter_eq_self]
          constructor
          · intro kept before after shape
            have present : x ∈ y :: rest := shape ▸ List.mem_append_right _ List.mem_cons_self
            exact absurd rfl (of_decide_eq_true (kept x present))
          · intro bounded z member
            apply decide_eq_true
            rintro rfl
            rcases List.append_of_mem member with ⟨before, after, shape⟩
            exact absurd (bounded before after shape) (Nat.not_lt_zero _)
      | succ n =>
          rw [forall_split_cons_iff]
          by_cases same : y = x
          · subst same
            rw [eraseUntil, if_pos rfl, others_cons_self, ih]
            simp only [others_nil, List.length_nil, Nat.succ_pos, implies_true, true_and,
              others_cons_self]
          · rw [eraseUntil, if_neg same, others_cons_of_ne same, List.cons.injEq,
              and_iff_right rfl, ih]
            simp only [same, false_implies, true_and, others_cons_of_ne same, List.length_cons,
              Nat.succ_lt_succ_iff]

/-- With a bound from elsewhere the loop erases every occurrence exactly if there are
that many other elements and no occurrence comes after that many of them. -/
theorem eraseAll_const_eq_others_iff (x : α) (items : List α) (n : Nat) :
    eraseAll (fun _ => n) x items = some (others x items) ↔
      n ≤ (others x items).length ∧
        ∀ before after, items = before ++ x :: after → (others x before).length < n := by
  rw [eraseAll_const, Option.ite_none_right_eq_some, Option.some.injEq,
    eraseUntil_eq_others_iff]

end LegendOfStealth.Library
