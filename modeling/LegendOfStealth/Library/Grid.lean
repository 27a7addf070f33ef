import LegendOfStealth.Library.FallibleFold
import Mathlib.Data.List.Count
import Mathlib.Data.List.Nodup
import Mathlib.Data.List.ProdSigma

/-!
# Grids stored row by row

A grid is one list in which the rows follow each other.  Access is by an offset that is
computed from the cell and checked against the list only, so that a cell outside the
grid may still hit the list; inside the grid different cells have different offsets.
-/

namespace LegendOfStealth.Library

universe u v

/-- The cells of a grid, column by column. -/
def cells (width height : Nat) : List (Nat × Nat) :=
  (List.range width).product (List.range height)

@[simp]
theorem mem_cells {width height x y : Nat} :
    (x, y) ∈ cells width height ↔ x < width ∧ y < height := by
  rw [cells, List.pair_mem_product, List.mem_range, List.mem_range]

theorem nodup_cells (width height : Nat) : (cells width height).Nodup :=
  List.nodup_range.product List.nodup_range

/-- Among the images of selected elements, that of an element occurs once if it is
selected. -/
theorem count_map_filter {α : Type u} {β : Type v} [DecidableEq α] [BEq β] [LawfulBEq β]
    {elements : List α} (distinct : elements.Nodup) (selected : α → Bool) {image : α → β}
    (injective : Function.Injective image) {x : α} (member : x ∈ elements) :
    ((elements.filter selected).map image).count (image x) = if selected x then 1 else 0 := by
  rw [List.count_map_of_injective _ _ injective]
  by_cases chosen : selected x = true
  · rw [List.count_filter chosen, List.count_eq_one_of_mem distinct member, if_pos chosen]
  · rw [if_neg chosen, List.count_eq_zero]
    intro filtered
    exact chosen (List.mem_filter.mp filtered).2

/-- A grid stored row by row. -/
structure Grid (α : Type u) where
  width : Nat
  height : Nat
  values : List α
  sized : values.length = width * height

namespace Grid

variable {α : Type u}

/-- The grid with the same value everywhere. -/
def filled (width height : Nat) (value : α) : Grid α :=
  ⟨width, height, List.replicate (width * height) value, List.length_replicate⟩

/-- The offset of a cell. -/
def offset (grid : Grid α) (x y : Int) : Int :=
  y * grid.width + x

/-- The value at the offset of a cell, if the offset is inside the list. -/
def get? (grid : Grid α) (x y : Int) : Option α :=
  if 0 ≤ grid.offset x y then grid.values[(grid.offset x y).toNat]? else none

/-- Change the value at the offset of a cell, if the offset is inside the list. -/
def modify (grid : Grid α) (x y : Int) (change : α → α) : Option (Grid α) :=
  if 0 ≤ grid.offset x y ∧ grid.offset x y < grid.values.length then
    some { grid with
      values := grid.values.modify (grid.offset x y).toNat change
      sized := (List.length_modify ..).trans grid.sized }
  else none

variable {grid : Grid α} {x y : Nat}

theorem offset_eq (grid : Grid α) (x y : Nat) :
    grid.offset x y = ((y * grid.width + x : Nat) : Int) := by
  rw [offset]
  push_cast
  rfl

theorem toNat_offset (grid : Grid α) (x y : Nat) :
    (grid.offset x y).toNat = y * grid.width + x := by
  rw [offset_eq, Int.toNat_natCast]

theorem rowMajor_lt (grid : Grid α) (inWidth : x < grid.width) (inHeight : y < grid.height) :
    y * grid.width + x < grid.values.length := by
  rw [grid.sized]
  calc
    y * grid.width + x < y * grid.width + grid.width := Nat.add_lt_add_left inWidth _
    _ = (y + 1) * grid.width := (Nat.succ_mul y grid.width).symm
    _ ≤ grid.height * grid.width := Nat.mul_le_mul_right _ inHeight
    _ = grid.width * grid.height := Nat.mul_comm ..

theorem rowMajor_inj {x' y' : Nat} (inWidth : x < grid.width) (inWidth' : x' < grid.width) :
    y * grid.width + x = y' * grid.width + x' ↔ x = x' ∧ y = y' := by
  constructor
  · intro same
    have columns := congrArg (· % grid.width) same
    simp only [Nat.mul_add_mod', Nat.mod_eq_of_lt inWidth, Nat.mod_eq_of_lt inWidth'] at columns
    subst columns
    exact ⟨rfl, Nat.eq_of_mul_eq_mul_right (Nat.zero_lt_of_lt inWidth) (Nat.add_right_cancel same)⟩
  · rintro ⟨rfl, rfl⟩
    rfl

theorem get?_eq (grid : Grid α) (x y : Nat) :
    grid.get? x y = grid.values[y * grid.width + x]? := by
  rw [get?, if_pos (by rw [offset_eq]; exact Int.natCast_nonneg _), toNat_offset]

theorem get?_filled {width height : Nat} (value : α) (inWidth : x < width)
    (inHeight : y < height) : (filled width height value).get? x y = some value := by
  rw [get?_eq, filled, List.getElem?_replicate, if_pos]
  have inside := (filled width height value).rowMajor_lt inWidth inHeight
  rwa [filled, List.length_replicate] at inside

/-- A cell of the grid can be changed, and no other cell changes with it. -/
theorem modify_cell (inWidth : x < grid.width) (inHeight : y < grid.height) (change : α → α) :
    ∃ next, grid.modify x y change = some next ∧ next.width = grid.width ∧
      next.height = grid.height ∧ ∀ x' y' : Nat, x' < grid.width →
        next.get? x' y' =
          if x = x' ∧ y = y' then (grid.get? x' y').map change else grid.get? x' y' := by
  have inside := grid.rowMajor_lt inWidth inHeight
  refine ⟨_, if_pos ?_, rfl, rfl, ?_⟩
  · rw [offset_eq]
    exact ⟨Int.natCast_nonneg _, Int.ofNat_lt.mpr inside⟩
  · intro x' y' inWidth'
    rw [get?_eq, get?_eq]
    dsimp only
    rw [toNat_offset]
    by_cases same : x = x' ∧ y = y'
    · rcases same with ⟨rfl, rfl⟩
      rw [if_pos ⟨rfl, rfl⟩, List.getElem?_modify_eq]
      rfl
    · rw [if_neg same, List.getElem?_modify_ne _ _ (mt (rowMajor_inj inWidth inWidth').mp same)]

/-! ## Sequences of writes -/

/-- The cell belongs to the grid. -/
def Contains (grid : Grid α) (x y : Int) : Prop :=
  (0 ≤ x ∧ x < grid.width) ∧ 0 ≤ y ∧ y < grid.height

theorem contains_natCast (grid : Grid α) :
    grid.Contains x y ↔ x < grid.width ∧ y < grid.height := by
  simp [Contains]

theorem Contains.offset_lt {x y : Int} (contains : grid.Contains x y) :
    0 ≤ grid.offset x y ∧ grid.offset x y < grid.values.length := by
  lift x to Nat using contains.1.1
  lift y to Nat using contains.2.1
  obtain ⟨inWidth, inHeight⟩ := grid.contains_natCast.mp contains
  rw [offset_eq]
  exact ⟨Int.natCast_nonneg _, Int.ofNat_lt.mpr (grid.rowMajor_lt inWidth inHeight)⟩

/-- One write changes the cell that it is made for, and no other. -/
theorem Contains.modify {x y : Int} (contains : grid.Contains x y) (change : α → α) :
    ∃ next, grid.modify x y change = some next ∧ next.width = grid.width ∧
      next.height = grid.height ∧ ∀ x' y', grid.Contains x' y' →
        next.get? x' y' =
          if x = x' ∧ y = y' then (grid.get? x' y').map change else grid.get? x' y' := by
  lift x to Nat using contains.1.1
  lift y to Nat using contains.2.1
  obtain ⟨inWidth, inHeight⟩ := grid.contains_natCast.mp contains
  obtain ⟨next, modified, width, height, cell⟩ := modify_cell inWidth inHeight change
  refine ⟨next, modified, width, height, ?_⟩
  intro x' y' contains'
  lift x' to Nat using contains'.1.1
  lift y' to Nat using contains'.2.1
  rw [cell x' y' (grid.contains_natCast.mp contains').1]
  simp only [Int.natCast_inj]

section Writes

variable {ω : Type v} (column row : ω → Int) (change : ω → α → α)

/-- What the writes to a cell make of its value, in their order. -/
def written (writes : List ω) (x y : Int) (value : α) : α :=
  (writes.filter fun write => column write = x ∧ row write = y).foldl
    (fun value write => change write value) value

theorem written_append_singleton (before : List ω) (write : ω) (x y : Int) (value : α) :
    written column row change (before ++ [write]) x y value =
      if column write = x ∧ row write = y then
        change write (written column row change before x y value)
      else written column row change before x y value := by
  rw [written, written, List.filter_append, List.foldl_append]
  split
  · rename_i here
    simp [here]
  · rename_i elsewhere
    simp [elsewhere]

/-- Writes to cells of the grid succeed one after the other, and every cell ends with what
the writes to it make of its value. -/
theorem exists_foldlM_modify {writes : List ω}
    (inside : ∀ write ∈ writes, grid.Contains (column write) (row write)) :
    ∃ final, writes.foldlM
        (fun grid write => grid.modify (column write) (row write) (change write)) grid =
          some final ∧
      (final.width = grid.width ∧ final.height = grid.height) ∧
        ∀ x y, grid.Contains x y →
          final.get? x y = (grid.get? x y).map (written column row change writes x y) := by
  let done (before : List ω) (state : Grid α) : Prop :=
    (state.width = grid.width ∧ state.height = grid.height) ∧
      ∀ x y, grid.Contains x y →
        state.get? x y = (grid.get? x y).map (written column row change before x y)
  have started : done [] grid := by
    refine ⟨⟨rfl, rfl⟩, ?_⟩
    intro x y _
    exact Option.map_id'.symm
  have turn : ∀ write ∈ writes, ∀ before state, done before state →
      ∃ next, state.modify (column write) (row write) (change write) = some next ∧
        done (before ++ [write]) next := by
    rintro write member before state ⟨⟨width, height⟩, shown⟩
    have same : state.Contains = grid.Contains := by
      funext x y
      rw [Contains, Contains, width, height]
    obtain ⟨next, modified, nextWidth, nextHeight, cell⟩ :=
      Contains.modify (same ▸ inside write member) (change write)
    refine ⟨next, modified, ⟨nextWidth.trans width, nextHeight.trans height⟩, ?_⟩
    intro x y contains
    rw [cell x y (same ▸ contains), shown x y contains]
    cases grid.get? x y with
    | none => exact ite_self none
    | some value =>
        rw [Option.map_some, Option.map_some, Option.map_some, written_append_singleton]
        exact (apply_ite some ..).symm
  exact exists_foldlM done started turn

end Writes

end Grid

end LegendOfStealth.Library
