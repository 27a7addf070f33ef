import Mathlib.Data.List.Induction
import Mathlib.Data.List.Perm.Basic

/-!
# One pass over a vector that erases in place

The loop walks a vector by index.  Its body either keeps the current element,
possibly after changing it, or erases it and steps the index back; an erasure
may also change every other element, those already passed and those still to
come.  `sweepLoop` is the loop itself.  `ErasingPass.run` is what it computes: a
left fold over the original list that carries the survivors so far and the
elements erased so far.
-/

namespace LegendOfStealth.Library

universe u v w

/-- What a pass does to one element: whether it stays, how it changes when it
stays, and how the others change when it goes. -/
structure ErasingPass (α : Type u) where
  keep : α → Bool
  visit : α → α
  notify : α → α → α

namespace ErasingPass

variable {α : Type u} {κ : Type v} (pass : ErasingPass α)

/-- An element after hearing of erased elements, in order. -/
def notifyAll (gone : List α) (x : α) : α :=
  gone.foldl (fun survivor erased => pass.notify erased survivor) x

/-- Process one element of the original list, given the survivors and the erased
elements before it. -/
def step (done : List α × List α) (x : α) : List α × List α :=
  let current := pass.notifyAll done.2 x
  if pass.keep current then (done.1 ++ [pass.visit current], done.2)
  else (done.1.map (pass.notify current), done.2 ++ [current])

/-- The survivors and the erased elements of a pass over a list. -/
def run (xs : List α) : List α × List α :=
  xs.foldl pass.step ([], [])

/-- The elements left in the vector after a pass. -/
def survivors (xs : List α) : List α :=
  (pass.run xs).1

/-- The elements erased by a pass, in the order of their erasure. -/
def erased (xs : List α) : List α :=
  (pass.run xs).2

/-- The elements still to come, each as the pass finds it at its turn, given those
already processed. -/
def visitedFrom (done : List α) : List α → List α
  | [] => []
  | x :: rest => pass.notifyAll (pass.erased done) x :: visitedFrom (done ++ [x]) rest

/-- The elements as the pass finds them, each at its turn. -/
def visited (xs : List α) : List α :=
  pass.visitedFrom [] xs

@[simp]
theorem notifyAll_nil (x : α) : pass.notifyAll [] x = x :=
  rfl

@[simp]
theorem notifyAll_append (first second : List α) (x : α) :
    pass.notifyAll (first ++ second) x = pass.notifyAll second (pass.notifyAll first x) := by
  simp [notifyAll]

@[simp]
theorem notifyAll_singleton (y x : α) : pass.notifyAll [y] x = pass.notify y x :=
  rfl

theorem visitedFrom_length (done todo : List α) :
    (pass.visitedFrom done todo).length = todo.length := by
  induction todo generalizing done with
  | nil => rfl
  | cons x rest ih => rw [visitedFrom, List.length_cons, List.length_cons, ih]

@[simp]
theorem run_nil : pass.run [] = ([], []) :=
  rfl

theorem run_append_singleton (xs : List α) (x : α) :
    pass.run (xs ++ [x]) = pass.step (pass.run xs) x := by
  simp [run]

theorem run_append_singleton_of_keep {xs : List α} {x : α}
    (keeps : pass.keep (pass.notifyAll (pass.erased xs) x)) :
    pass.survivors (xs ++ [x]) =
        pass.survivors xs ++ [pass.visit (pass.notifyAll (pass.erased xs) x)] ∧
      pass.erased (xs ++ [x]) = pass.erased xs := by
  simp only [survivors, erased, run_append_singleton, step] at keeps ⊢
  simp [keeps]

theorem run_append_singleton_of_not_keep {xs : List α} {x : α}
    (erases : pass.keep (pass.notifyAll (pass.erased xs) x) = false) :
    pass.survivors (xs ++ [x]) =
        (pass.survivors xs).map (pass.notify (pass.notifyAll (pass.erased xs) x)) ∧
      pass.erased (xs ++ [x]) = pass.erased xs ++ [pass.notifyAll (pass.erased xs) x] := by
  simp only [survivors, erased, run_append_singleton, step] at erases ⊢
  simp [erases]

/-- Every survivor is an original element that heard of the elements erased
before it, was visited, and heard of those erased after it. -/
theorem mem_survivors {xs : List α} {z : α} (member : z ∈ pass.survivors xs) :
    ∃ before x after later,
      xs = before ++ x :: after ∧
        pass.keep (pass.notifyAll (pass.erased before) x) ∧
        pass.erased xs = pass.erased before ++ later ∧
        z = pass.notifyAll later (pass.visit (pass.notifyAll (pass.erased before) x)) := by
  induction xs using List.reverseRecOn generalizing z with
  | nil => simp [survivors] at member
  | append_singleton xs x ih =>
      cases kept : pass.keep (pass.notifyAll (pass.erased xs) x) with
      | true =>
          rcases pass.run_append_singleton_of_keep kept with ⟨survivorsEq, erasedEq⟩
          rw [survivorsEq, List.mem_append, List.mem_singleton] at member
          rcases member with earlier | rfl
          · rcases ih earlier with ⟨before, y, after, later, rfl, keeps, split, rfl⟩
            exact ⟨before, y, after ++ [x], later, by simp, keeps, erasedEq.trans split, rfl⟩
          · exact ⟨xs, x, [], [], rfl, kept, by simp [erasedEq], rfl⟩
      | false =>
          rcases pass.run_append_singleton_of_not_keep kept with ⟨survivorsEq, erasedEq⟩
          rw [survivorsEq, List.mem_map] at member
          rcases member with ⟨y, earlier, rfl⟩
          rcases ih earlier with ⟨before, y, after, later, rfl, keeps, split, rfl⟩
          refine ⟨before, y, after ++ [x],
            later ++ [pass.notifyAll (pass.erased (before ++ y :: after)) x], by simp, keeps,
            ?_, ?_⟩
          · rw [erasedEq, split, List.append_assoc]
          · rw [notifyAll_append, notifyAll_singleton]

/-- An element that is kept at its turn stays in its place among the survivors, and
has heard of the elements erased before it and of those erased after it. -/
theorem survivors_append_cons_of_keep {before : List α} {x : α} (after : List α)
    (keeps : pass.keep (pass.notifyAll (pass.erased before) x)) :
    ∃ first second later,
      pass.survivors (before ++ x :: after) =
          first ++ pass.notifyAll later (pass.visit (pass.notifyAll (pass.erased before) x)) ::
            second ∧
        first.length = (pass.survivors before).length ∧
          pass.erased (before ++ x :: after) = pass.erased before ++ later := by
  induction after using List.reverseRecOn with
  | nil =>
      rcases pass.run_append_singleton_of_keep keeps with ⟨survivorsEq, erasedEq⟩
      exact ⟨pass.survivors before, [], [], survivorsEq, rfl, by simp [erasedEq]⟩
  | append_singleton after y ih =>
      rcases ih with ⟨first, second, later, survives, length, split⟩
      rw [← List.cons_append, ← List.append_assoc]
      cases kept : pass.keep (pass.notifyAll (pass.erased (before ++ x :: after)) y) with
      | true =>
          rcases pass.run_append_singleton_of_keep kept with ⟨survivorsEq, erasedEq⟩
          refine ⟨first,
            second ++ [pass.visit (pass.notifyAll (pass.erased (before ++ x :: after)) y)], later,
            ?_, length, erasedEq.trans split⟩
          rw [survivorsEq, survives, List.append_assoc, List.cons_append]
      | false =>
          rcases pass.run_append_singleton_of_not_keep kept with ⟨survivorsEq, erasedEq⟩
          generalize pass.notifyAll (pass.erased (before ++ x :: after)) y = gone at *
          refine ⟨first.map (pass.notify gone), second.map (pass.notify gone), later ++ [gone],
            ?_, by rw [List.length_map, length], ?_⟩
          · rw [survivorsEq, survives, List.map_append, List.map_cons, notifyAll_append,
              notifyAll_singleton]
          · rw [erasedEq, split, List.append_assoc]

theorem forall_survivors {property : α → Prop} {xs : List α}
    (initially : ∀ x ∈ xs, property x)
    (visit : ∀ x, property x → pass.keep x = true → property (pass.visit x))
    (notify : ∀ gone x, property x → property (pass.notify gone x)) :
    ∀ z ∈ pass.survivors xs, property z := by
  have notifyAll : ∀ gone x, property x → property (pass.notifyAll gone x) := by
    intro gone
    induction gone with
    | nil => exact fun _ holds => holds
    | cons y rest ih => exact fun x holds => ih _ (notify y x holds)
  intro z member
  rcases pass.mem_survivors member with ⟨before, x, after, later, rfl, keeps, -, rfl⟩
  exact notifyAll later _ (visit _ (notifyAll _ x (initially x (by simp))) keeps)

theorem erased_eq_nil_iff {xs : List α} : pass.erased xs = [] ↔ ∀ x ∈ xs, pass.keep x = true := by
  induction xs using List.reverseRecOn with
  | nil => simp [erased]
  | append_singleton xs x ih =>
      rw [List.forall_mem_append, List.forall_mem_singleton, ← ih]
      cases kept : pass.keep (pass.notifyAll (pass.erased xs) x) with
      | true =>
          rw [(pass.run_append_singleton_of_keep kept).2, iff_self_and]
          intro none
          rwa [none, notifyAll_nil] at kept
      | false =>
          rw [(pass.run_append_singleton_of_not_keep kept).2]
          simp only [List.append_eq_nil_iff, List.cons_ne_nil, and_false, false_iff, not_and]
          intro none
          rw [none, notifyAll_nil] at kept
          simp [kept]

/-! ## Identities

The elements have an identity that neither a visit nor a notification changes.
-/

section Identity

variable {pass} {key : α → κ}

theorem key_notifyAll (notifyKey : ∀ gone x, key (pass.notify gone x) = key x)
    (gone : List α) (x : α) : key (pass.notifyAll gone x) = key x := by
  induction gone generalizing x with
  | nil => rfl
  | cons y rest ih => exact (ih _).trans (notifyKey y x)

theorem survivors_append_erased_perm (visitKey : ∀ x, key (pass.visit x) = key x)
    (notifyKey : ∀ gone x, key (pass.notify gone x) = key x) (xs : List α) :
    ((pass.survivors xs).map key ++ (pass.erased xs).map key).Perm (xs.map key) := by
  induction xs using List.reverseRecOn with
  | nil => simp [survivors, erased]
  | append_singleton xs x ih =>
      have keyEq := key_notifyAll notifyKey (pass.erased xs) x
      have extended := ih.append_right [key x]
      cases kept : pass.keep (pass.notifyAll (pass.erased xs) x) with
      | true =>
          rcases pass.run_append_singleton_of_keep kept with ⟨survivorsEq, erasedEq⟩
          rw [survivorsEq, erasedEq, List.map_append, List.map_append, List.append_assoc]
          refine (List.Perm.append_left _ List.perm_append_comm).trans ?_
          simpa [visitKey, keyEq] using extended
      | false =>
          rcases pass.run_append_singleton_of_not_keep kept with ⟨survivorsEq, erasedEq⟩
          have unchanged : ∀ y, key ∘ pass.notify y = key := fun y => funext (notifyKey y)
          rw [survivorsEq, erasedEq, List.map_append, List.map_append, List.map_map, unchanged]
          simpa [keyEq] using extended

theorem survivors_sublist (visitKey : ∀ x, key (pass.visit x) = key x)
    (notifyKey : ∀ gone x, key (pass.notify gone x) = key x) (xs : List α) :
    ((pass.survivors xs).map key).Sublist (xs.map key) := by
  induction xs using List.reverseRecOn with
  | nil => simp [survivors]
  | append_singleton xs x ih =>
      have keyEq := key_notifyAll notifyKey (pass.erased xs) x
      rw [List.map_append]
      cases kept : pass.keep (pass.notifyAll (pass.erased xs) x) with
      | true =>
          rw [(pass.run_append_singleton_of_keep kept).1, List.map_append]
          exact ih.append (by simp [visitKey, keyEq])
      | false =>
          have unchanged : key ∘ pass.notify (pass.notifyAll (pass.erased xs) x) = key :=
            funext (notifyKey _)
          rw [(pass.run_append_singleton_of_not_keep kept).1, List.map_map, unchanged]
          exact ih.trans (List.sublist_append_left _ _)

/-- When only the identity decides who stays, the erased elements are the
original elements that do not stay. -/
theorem erased_map_key {stays : κ → Bool} (notifyKey : ∀ gone x, key (pass.notify gone x) = key x)
    (keepKey : ∀ x, pass.keep x = stays (key x)) (xs : List α) :
    (pass.erased xs).map key = (xs.map key).filter (fun k => !stays k) := by
  induction xs using List.reverseRecOn with
  | nil => simp [erased]
  | append_singleton xs x ih =>
      have keyEq := key_notifyAll notifyKey (pass.erased xs) x
      cases kept : pass.keep (pass.notifyAll (pass.erased xs) x) with
      | true =>
          have stayed : stays (key x) = true := by rw [← keyEq, ← keepKey, kept]
          rw [(pass.run_append_singleton_of_keep kept).2, ih]
          simp [stayed]
      | false =>
          have left : stays (key x) = false := by rw [← keyEq, ← keepKey, kept]
          rw [(pass.run_append_singleton_of_not_keep kept).2, List.map_append, ih]
          simp [left, keyEq]

/-- When only the identity decides who stays, the survivors are the original
elements that stay. -/
theorem survivors_map_key {stays : κ → Bool} (visitKey : ∀ x, key (pass.visit x) = key x)
    (notifyKey : ∀ gone x, key (pass.notify gone x) = key x)
    (keepKey : ∀ x, pass.keep x = stays (key x)) (xs : List α) :
    (pass.survivors xs).map key = (xs.map key).filter stays := by
  induction xs using List.reverseRecOn with
  | nil => simp [survivors]
  | append_singleton xs x ih =>
      have keyEq := key_notifyAll notifyKey (pass.erased xs) x
      cases kept : pass.keep (pass.notifyAll (pass.erased xs) x) with
      | true =>
          have stayed : stays (key x) = true := by rw [← keyEq, ← keepKey, kept]
          rw [(pass.run_append_singleton_of_keep kept).1, List.map_append, ih]
          simp [stayed, visitKey, keyEq]
      | false =>
          have left : stays (key x) = false := by rw [← keyEq, ← keepKey, kept]
          have unchanged : key ∘ pass.notify (pass.notifyAll (pass.erased xs) x) = key :=
            funext (notifyKey _)
          rw [(pass.run_append_singleton_of_not_keep kept).1, List.map_map, unchanged, ih]
          simp [left]

/-- An element whose identity is its own stays exactly when it is kept at its turn. -/
theorem key_mem_survivors_iff (visitKey : ∀ x, key (pass.visit x) = key x)
    (notifyKey : ∀ gone x, key (pass.notify gone x) = key x) {before after : List α} {x : α}
    (others : ∀ y ∈ before ++ after, key y ≠ key x) :
    key x ∈ (pass.survivors (before ++ x :: after)).map key ↔
      pass.keep (pass.notifyAll (pass.erased before) x) = true := by
  have unchanged : ∀ y, key ∘ pass.notify y = key := fun y => funext (notifyKey y)
  induction after using List.reverseRecOn with
  | nil =>
      have absent : key x ∉ (pass.survivors before).map key := by
        intro member
        rcases List.mem_map.mp ((survivors_sublist visitKey notifyKey before).subset member) with
          ⟨y, earlier, same⟩
        exact others y (by simpa using earlier) same
      cases kept : pass.keep (pass.notifyAll (pass.erased before) x) with
      | true =>
          rw [(pass.run_append_singleton_of_keep kept).1, List.map_append]
          simp [visitKey, key_notifyAll notifyKey]
      | false =>
          rw [(pass.run_append_singleton_of_not_keep kept).1, List.map_map, unchanged]
          simpa using absent
  | append_singleton after y ih =>
      have differs : key y ≠ key x := others y (by simp)
      have othersEarlier : ∀ z ∈ before ++ after, key z ≠ key x := by
        intro z member
        apply others z
        rw [← List.append_assoc]
        exact List.mem_append_left _ member
      refine Iff.trans ?_ (ih othersEarlier)
      rw [← List.cons_append, ← List.append_assoc]
      cases kept : pass.keep (pass.notifyAll (pass.erased (before ++ x :: after)) y) with
      | true =>
          rw [(pass.run_append_singleton_of_keep kept).1, List.map_append, List.mem_append]
          simp [visitKey, key_notifyAll notifyKey, differs.symm]
      | false =>
          rw [(pass.run_append_singleton_of_not_keep kept).1, List.map_map, unchanged]

theorem visitedFrom_map_key (notifyKey : ∀ gone x, key (pass.notify gone x) = key x)
    (done todo : List α) : (pass.visitedFrom done todo).map key = todo.map key := by
  induction todo generalizing done with
  | nil => rfl
  | cons x rest ih =>
      rw [visitedFrom, List.map_cons, List.map_cons, key_notifyAll notifyKey, ih]

/-- What is erased of a second part of a list belongs to it. -/
theorem erased_append (notifyKey : ∀ gone x, key (pass.notify gone x) = key x)
    (before after : List α) :
    ∃ later, pass.erased (before ++ after) = pass.erased before ++ later ∧
      (later.map key).Sublist (after.map key) := by
  induction after using List.reverseRecOn with
  | nil => exact ⟨[], by simp, by simp⟩
  | append_singleton after y ih =>
      rcases ih with ⟨later, split, among⟩
      rw [← List.append_assoc, List.map_append]
      cases kept : pass.keep (pass.notifyAll (pass.erased (before ++ after)) y) with
      | true =>
          refine ⟨later, (pass.run_append_singleton_of_keep kept).2.trans split, ?_⟩
          exact among.trans (List.sublist_append_left _ _)
      | false =>
          refine ⟨later ++ [pass.notifyAll (pass.erased (before ++ after)) y], ?_, ?_⟩
          · rw [(pass.run_append_singleton_of_not_keep kept).2, split, List.append_assoc]
          · rw [List.map_append, List.map_singleton, List.map_singleton,
              key_notifyAll notifyKey]
            exact among.append (List.Sublist.refl _)

variable (pass) in
/-- An element whose identity is its own is erased exactly when it is not kept at its
turn. -/
theorem key_mem_erased_iff (notifyKey : ∀ gone x, key (pass.notify gone x) = key x)
    {before after : List α} {x : α} (others : ∀ y ∈ before ++ after, key y ≠ key x) :
    key x ∈ (pass.erased (before ++ x :: after)).map key ↔
      pass.keep (pass.notifyAll (pass.erased before) x) = false := by
  rcases erased_append notifyKey (before ++ [x]) after with ⟨later, split, amongAfter⟩
  rcases erased_append notifyKey [] before with ⟨earlier, earlierEq, amongBefore⟩
  have elsewhere : ∀ part : List α, (∀ y ∈ part, key y ≠ key x) → key x ∉ part.map key := by
    intro part differ member
    rcases List.mem_map.mp member with ⟨y, among, same⟩
    exact differ y among same
  have notAfter : key x ∉ later.map key := fun member =>
    elsewhere after (fun y among => others y (List.mem_append_right _ among))
      (amongAfter.subset member)
  have notBefore : key x ∉ (pass.erased before).map key := by
    have same : pass.erased before = earlier := by simpa [erased] using earlierEq
    rw [same]
    exact fun member =>
      elsewhere before (fun y among => others y (List.mem_append_left _ among))
        (amongBefore.subset member)
  rw [List.append_cons, split, List.map_append, List.mem_append, or_iff_left notAfter]
  cases kept : pass.keep (pass.notifyAll (pass.erased before) x) with
  | true =>
      rw [(pass.run_append_singleton_of_keep kept).2]
      simpa using notBefore
  | false =>
      rw [(pass.run_append_singleton_of_not_keep kept).2, List.map_append]
      simp [key_notifyAll notifyKey]

theorem filter_mem_of_sublist [DecidableEq κ] {part whole : List κ} (distinct : whole.Nodup)
    (among : part.Sublist whole) : whole.filter (· ∈ part) = part := by
  have within : part.Sublist (whole.filter (· ∈ part)) := by
    have kept : part.filter (· ∈ part) = part :=
      List.filter_eq_self.mpr fun k member => decide_eq_true member
    rw [← kept]
    simpa only [kept] using among.filter (fun k => decide (k ∈ part))
  have back : whole.filter (· ∈ part) ⊆ part := by
    intro k member
    exact of_decide_eq_true (List.mem_filter.mp member).2
  exact (within.eq_of_length_le (List.subperm_of_subset (distinct.filter _) back).length_le).symm

variable (pass) in
/-- Among distinct identities the erased ones of a first part are those of the first
part that are erased at all, and the same holds of the rest. -/
theorem erased_append_eq_filter (notifyKey : ∀ gone x, key (pass.notify gone x) = key x)
    [DecidableEq κ] {before after : List α} (distinct : ((before ++ after).map key).Nodup) :
    ∃ later, pass.erased (before ++ after) = pass.erased before ++ later ∧
      (pass.erased before).map key =
          (before.map key).filter (· ∈ (pass.erased (before ++ after)).map key) ∧
        later.map key = (after.map key).filter (· ∈ (pass.erased (before ++ after)).map key) := by
  rcases erased_append notifyKey [] before with ⟨earlier, earlierEq, amongBefore⟩
  rcases erased_append notifyKey before after with ⟨later, split, amongAfter⟩
  have first : earlier = pass.erased before := by simpa [erased] using earlierEq.symm
  subst first
  rw [List.map_append] at distinct
  rcases List.nodup_append.mp distinct with ⟨distinctBefore, distinctAfter, apart⟩
  refine ⟨later, split, ?_, ?_⟩
  · rw [split, List.map_append]
    refine (filter_mem_of_sublist distinctBefore amongBefore).symm.trans ?_
    apply List.filter_congr
    intro k member
    have elsewhere : k ∉ later.map key := fun other =>
      apart k member k (amongAfter.subset other) rfl
    simp [elsewhere]
  · rw [split, List.map_append]
    refine (filter_mem_of_sublist distinctAfter amongAfter).symm.trans ?_
    apply List.filter_congr
    intro k member
    have elsewhere : k ∉ (pass.erased before).map key :=
      fun other => apart k (amongBefore.subset other) k member rfl
    simp [elsewhere]

/-- Among distinct identities the survivors are the original elements that are not
erased. -/
theorem survivors_map_key_eq_filter (visitKey : ∀ x, key (pass.visit x) = key x)
    (notifyKey : ∀ gone x, key (pass.notify gone x) = key x) [DecidableEq κ] {xs : List α}
    (distinct : (xs.map key).Nodup) :
    (pass.survivors xs).map key = (xs.map key).filter (· ∉ (pass.erased xs).map key) := by
  have perm : ((pass.survivors xs).map key ++ (pass.erased xs).map key).Perm (xs.map key) :=
    survivors_append_erased_perm visitKey notifyKey xs
  rcases List.nodup_append.mp (perm.nodup_iff.mpr distinct) with ⟨-, -, apart⟩
  refine (filter_mem_of_sublist distinct (survivors_sublist visitKey notifyKey xs)).symm.trans ?_
  apply List.filter_congr
  intro k member
  rcases List.mem_append.mp (perm.mem_iff.mpr member) with survives | gone
  · have stays : k ∉ (pass.erased xs).map key := fun gone => apart k survives k gone rfl
    rw [decide_eq_true survives, decide_eq_true stays]
  · have leaves : k ∉ (pass.survivors xs).map key := fun survives => apart k survives k gone rfl
    rw [decide_eq_false leaves, decide_eq_false (not_not.mpr gone)]

end Identity

end ErasingPass

/-! ## The loop -/

section Loop

variable {σ : Type u} {α : Type v}

/-- `for (int i=0; i<v.size(); i++)`, whose body receives the index and the
element there and reports whether it stepped the index back. -/
def sweepLoop (items : σ → List α) (body : Nat → α → σ → σ × Bool) : Nat → Nat → σ → σ
  | 0, _, state => state
  | fuel + 1, i, state =>
      match (items state)[i]? with
      | none => state
      | some x =>
          sweepLoop items body fuel (if (body i x state).2 then i else i + 1) (body i x state).1

/-- The whole loop; as many passes through the body as there are elements. -/
def sweep (items : σ → List α) (body : Nat → α → σ → σ × Bool) (state : σ) : σ :=
  sweepLoop items body (items state).length 0 state

/-- How the loop runs from an index on, until there is no element at the index: the
elements that the body receives, and the final state. -/
inductive Sweeps (items : σ → List α) (body : Nat → α → σ → σ × Bool) :
    Nat → σ → List α → σ → Prop
  | stop {i state} : (items state)[i]? = none → Sweeps items body i state [] state
  | next {i x state visited final} :
      (items state)[i]? = some x →
      Sweeps items body (if (body i x state).2 then i else i + 1) (body i x state).1 visited
        final →
      Sweeps items body i state (x :: visited) final

/-- A run of the loop is what `sweepLoop` computes with enough fuel. -/
theorem Sweeps.sweepLoop_eq {items : σ → List α} {body : Nat → α → σ → σ × Bool} {i fuel : Nat}
    {state final : σ} {visited : List α} (sweeps : Sweeps items body i state visited final)
    (enough : visited.length ≤ fuel) : sweepLoop items body fuel i state = final := by
  induction sweeps generalizing fuel with
  | stop past =>
      cases fuel with
      | zero => rfl
      | succ fuel => rw [sweepLoop, past]
  | next here _ ih =>
      cases fuel with
      | zero => contradiction
      | succ fuel =>
          rw [sweepLoop, here]
          exact ih (Nat.le_of_succ_le_succ enough)

/-- Two loops are the same if their bodies agree wherever an invariant holds. -/
theorem sweep_congr {items : σ → List α} {body other : Nat → α → σ → σ × Bool}
    {invariant : σ → Prop}
    (agree : ∀ {i x state}, invariant state → (items state)[i]? = some x →
      body i x state = other i x state ∧ invariant (body i x state).1)
    {state : σ} (initially : invariant state) :
    sweep items body state = sweep items other state := by
  suffices loops : ∀ fuel i state, invariant state →
      sweepLoop items body fuel i state = sweepLoop items other fuel i state by
    exact loops _ _ _ initially
  intro fuel
  induction fuel with
  | zero => exact fun _ _ _ => rfl
  | succ fuel ih =>
      intro i state holds
      rw [sweepLoop, sweepLoop]
      cases here : (items state)[i]? with
      | none => rfl
      | some x =>
          rcases agree holds here with ⟨same, preserved⟩
          simp only [← same]
          exact ih _ _ preserved

/-- The body implements a pass.  `Rest` relates the elements erased so far to
whatever else the state holds. -/
structure Implements (items : σ → List α) (body : Nat → α → σ → σ × Bool)
    (pass : ErasingPass α) (Rest : List α → σ → Prop) : Prop where
  keeps : ∀ {before after gone x state}, Rest gone state →
    items state = before ++ x :: after → pass.keep x = true →
      (body before.length x state).2 = false ∧
        items (body before.length x state).1 = before ++ pass.visit x :: after ∧
        Rest gone (body before.length x state).1
  erases : ∀ {before after gone x state}, Rest gone state →
    items state = before ++ x :: after → pass.keep x = false →
      (body before.length x state).2 = true ∧
        items (body before.length x state).1 =
          before.map (pass.notify x) ++ after.map (pass.notify x) ∧
        Rest (gone ++ [x]) (body before.length x state).1

variable {items : σ → List α} {body : Nat → α → σ → σ × Bool} {pass : ErasingPass α}
  {Rest : List α → σ → Prop}

/-- The loop from the middle of a pass. -/
theorem sweeps_from (implements : Implements items body pass Rest) (todo done : List α) {state : σ}
    (shape : items state = pass.survivors done ++ todo.map (pass.notifyAll (pass.erased done)))
    (rest : Rest (pass.erased done) state) :
    ∃ final,
      Sweeps items body (pass.survivors done).length state (pass.visitedFrom done todo) final ∧
        items final = pass.survivors (done ++ todo) ∧ Rest (pass.erased (done ++ todo)) final := by
  induction todo generalizing done state with
  | nil =>
      have past : (items state)[(pass.survivors done).length]? = none := by simp [shape]
      exact ⟨state, .stop past, by simpa using shape, by simpa using rest⟩
  | cons x later ih =>
      have here : (items state)[(pass.survivors done).length]? =
          some (pass.notifyAll (pass.erased done) x) := by simp [shape]
      rw [List.map_cons] at shape
      rw [List.append_cons]
      cases kept : pass.keep (pass.notifyAll (pass.erased done) x) with
      | true =>
          rcases implements.keeps rest shape kept with ⟨stepped, shape', rest'⟩
          rcases pass.run_append_singleton_of_keep kept with ⟨survivorsEq, erasedEq⟩
          have index : (pass.survivors (done ++ [x])).length =
              (pass.survivors done).length + 1 := by simp [survivorsEq]
          rcases ih (done ++ [x])
            (by rw [shape', survivorsEq, erasedEq, List.append_assoc, List.singleton_append])
            (by rw [erasedEq]; exact rest') with ⟨final, sweeps, left⟩
          refine ⟨final, .next here ?_, left⟩
          rw [stepped, if_neg (by simp), ← index]
          exact sweeps
      | false =>
          rcases implements.erases rest shape kept with ⟨stepped, shape', rest'⟩
          rcases pass.run_append_singleton_of_not_keep kept with ⟨survivorsEq, erasedEq⟩
          have index : (pass.survivors (done ++ [x])).length =
              (pass.survivors done).length := by simp [survivorsEq]
          have shapeNext : items (body (pass.survivors done).length
              (pass.notifyAll (pass.erased done) x) state).1 =
                pass.survivors (done ++ [x]) ++
                  later.map (pass.notifyAll (pass.erased (done ++ [x]))) := by
            rw [shape', survivorsEq, erasedEq, List.map_map]
            congr 1
            apply List.map_congr_left
            intro y _
            simp
          rw [← erasedEq] at rest'
          rcases ih (done ++ [x]) shapeNext rest' with ⟨final, sweeps, left⟩
          rw [index] at sweeps
          refine ⟨final, .next here ?_, left⟩
          rw [stepped, if_pos rfl]
          exact sweeps

/-- A loop whose body implements a pass comes to an end: it gives the body every
element once, at its turn, and leaves the pass's survivors. -/
theorem sweeps_implements (implements : Implements items body pass Rest) {state : σ}
    (rest : Rest [] state) :
    Sweeps items body 0 state (pass.visited (items state)) (sweep items body state) ∧
      items (sweep items body state) = pass.survivors (items state) ∧
        Rest (pass.erased (items state)) (sweep items body state) := by
  have shape : items state = pass.survivors [] ++
      (items state).map (pass.notifyAll (pass.erased [])) := by
    have untouched : pass.notifyAll [] = id := rfl
    simp [ErasingPass.survivors, ErasingPass.erased, untouched]
  rcases sweeps_from implements (items state) [] shape rest with ⟨final, sweeps, left⟩
  have computed : sweep items body state = final :=
    sweeps.sweepLoop_eq (Nat.le_of_eq (pass.visitedFrom_length [] (items state)))
  rw [computed]
  exact ⟨sweeps, left⟩

/-- A loop whose body implements a pass leaves the pass's survivors. -/
theorem sweep_implements (implements : Implements items body pass Rest) {state : σ}
    (rest : Rest [] state) :
    items (sweep items body state) = pass.survivors (items state) ∧
      Rest (pass.erased (items state)) (sweep items body state) :=
  (sweeps_implements implements rest).2

end Loop

end LegendOfStealth.Library
