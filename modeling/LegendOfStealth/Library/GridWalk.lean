import Mathlib.Algebra.Order.Archimedean.Basic
import Mathlib.Algebra.Order.Floor.Ring
import Mathlib.Algebra.Order.Round
import Mathlib.Logic.Relation
import Mathlib.Tactic.Linarith
import Mathlib.Tactic.Positivity
import Mathlib.Tactic.Ring

/-!
# Discs on a grid

The plane is cut into square cells, some of which are solid.  A disc is moved by at most
its radius at a time and may never touch a solid cell.  If it fits through a single cell, it
gets from one cell to another exactly if the cells are connected by cells that are not
solid.
-/

namespace LegendOfStealth.Library

universe u

variable {K : Type u} [Field K] [LinearOrder K] [IsStrictOrderedRing K]

/-- How far a coordinate is from the `i`th interval of a size. -/
def gap (size : K) (i : ℤ) (value : K) : K :=
  max (max (i * size - value) (value - (i + 1) * size)) 0

/-- The disc around a point touches a cell. -/
def Touched (size radius : K) (point : K × K) (cell : ℤ × ℤ) : Prop :=
  gap size cell.1 point.1 ^ 2 + gap size cell.2 point.2 ^ 2 ≤ radius ^ 2

/-- The disc around a point touches no solid cell. -/
def Free (size radius : K) (solid : ℤ × ℤ → Prop) (point : K × K) : Prop :=
  ∀ cell, solid cell → ¬ Touched size radius point cell

/-- The middle of a cell. -/
def middle (size : K) (cell : ℤ × ℤ) : K × K :=
  ((cell.1 + 1 / 2) * size, (cell.2 + 1 / 2) * size)

/-- The disc is moved by at most its radius along either axis. -/
structure Walks (size radius : K) (solid : ℤ × ℤ → Prop) (point next : K × K) : Prop where
  free : Free size radius solid point
  free_next : Free size radius solid next
  near : |next.1 - point.1| ≤ radius ∧ |next.2 - point.2| ≤ radius

/-- Two cells that are not solid and have a side in common. -/
structure Opens (solid : ℤ × ℤ → Prop) (cell next : ℤ × ℤ) : Prop where
  passable : ¬ solid cell
  passable_next : ¬ solid next
  adjacent : (next.1 = cell.1 ∧ |next.2 - cell.2| = 1) ∨
    (next.2 = cell.2 ∧ |next.1 - cell.1| = 1)

variable {size radius : K} {solid : ℤ × ℤ → Prop}

omit [IsStrictOrderedRing K] in
theorem gap_le_iff {i : ℤ} {value bound : K} (nonneg : 0 ≤ bound) :
    gap size i value ≤ bound ↔ i * size - value ≤ bound ∧ value - (i + 1) * size ≤ bound := by
  rw [gap, max_le_iff, max_le_iff, and_iff_left nonneg]

/-- No coordinate of the interval is nearer than the gap. -/
theorem gap_le_abs_sub {i : ℤ} {value other : K}
    (inside : i * size ≤ other ∧ other ≤ (i + 1) * size) : gap size i value ≤ |other - value| := by
  rw [gap_le_iff (abs_nonneg _)]
  constructor
  · linarith [le_abs_self (other - value)]
  · linarith [neg_abs_le (other - value)]

theorem exists_abs_sub_eq_gap (positive : 0 ≤ size) (i : ℤ) (value : K) :
    ∃ other : K, (i * size ≤ other ∧ other ≤ (i + 1) * size) ∧ |other - value| = gap size i value := by
  have ordered : i * size ≤ (i + 1) * size := by linarith
  rcases le_total value (i * size) with left | inside
  · refine ⟨i * size, ⟨le_rfl, ordered⟩, ?_⟩
    rw [gap, max_eq_left (by linarith : value - (i + 1) * size ≤ i * size - value),
      max_eq_left (sub_nonneg.mpr left), abs_of_nonneg (sub_nonneg.mpr left)]
  rcases le_total value ((i + 1) * size) with inside' | right
  · refine ⟨value, ⟨inside, inside'⟩, ?_⟩
    rw [gap, max_eq_right (max_le (sub_nonpos.mpr inside) (sub_nonpos.mpr inside')), sub_self,
      abs_zero]
  · refine ⟨(i + 1) * size, ⟨ordered, le_rfl⟩, ?_⟩
    rw [gap, max_eq_right (by linarith : i * size - value ≤ value - (i + 1) * size),
      max_eq_left (sub_nonneg.mpr right), abs_sub_comm, abs_of_nonneg (sub_nonneg.mpr right)]

/-- A disc touches a cell if they have a point in common. -/
theorem touched_iff (positive : 0 ≤ size) {point : K × K} {cell : ℤ × ℤ} :
    Touched size radius point cell ↔
      ∃ x y : K, (cell.1 * size ≤ x ∧ x ≤ (cell.1 + 1) * size) ∧
        (cell.2 * size ≤ y ∧ y ≤ (cell.2 + 1) * size) ∧
          (x - point.1) ^ 2 + (y - point.2) ^ 2 ≤ radius ^ 2 := by
  constructor
  · intro touched
    obtain ⟨x, across, nearX⟩ := exists_abs_sub_eq_gap positive cell.1 point.1
    obtain ⟨y, along, nearY⟩ := exists_abs_sub_eq_gap positive cell.2 point.2
    refine ⟨x, y, across, along, ?_⟩
    rw [← sq_abs (x - point.1), ← sq_abs (y - point.2), nearX, nearY]
    exact touched
  · rintro ⟨x, y, across, along, near⟩
    rw [← sq_abs (x - point.1), ← sq_abs (y - point.2)] at near
    refine le_trans (add_le_add ?_ ?_) near
    · exact pow_le_pow_left₀ (le_max_right _ _) (gap_le_abs_sub across) 2
    · exact pow_le_pow_left₀ (le_max_right _ _) (gap_le_abs_sub along) 2

/-- A touched cell is no further away than the radius along either axis. -/
theorem Touched.gap_le {point : K × K} {cell : ℤ × ℤ} (positive : 0 ≤ radius)
    (touched : Touched size radius point cell) :
    gap size cell.1 point.1 ≤ radius ∧ gap size cell.2 point.2 ≤ radius := by
  constructor
  · exact le_of_sq_le_sq ((le_add_of_nonneg_right (sq_nonneg _)).trans touched) positive
  · exact le_of_sq_le_sq ((le_add_of_nonneg_left (sq_nonneg _)).trans touched) positive

/-- A cell that is level with the point is touched if it is in reach along the other axis. -/
theorem touched_of_gap_le {point : K × K} {cell : ℤ × ℤ}
    (near : gap size cell.1 point.1 ≤ radius) (level : gap size cell.2 point.2 = 0) :
    Touched size radius point cell := by
  have squares : gap size cell.1 point.1 ^ 2 ≤ radius ^ 2 :=
    pow_le_pow_left₀ (le_max_right _ _) near 2
  simpa [Touched, level] using squares

/-! ## No tunnelling -/

section Cells

variable [FloorRing K]

/-- The cell of a point. -/
def cellOf (size : K) (point : K × K) : ℤ × ℤ :=
  (⌊point.1 / size⌋, ⌊point.2 / size⌋)

theorem cellOf_middle (positive : 0 < size) (cell : ℤ × ℤ) :
    cellOf size (middle size cell) = cell := by
  have half (i : ℤ) : ⌊((i : K) + 1 / 2) * size / size⌋ = i := by
    rw [mul_div_cancel_right₀ _ positive.ne', Int.floor_eq_iff]
    constructor <;> linarith
  exact Prod.ext (half cell.1) (half cell.2)

theorem floor_bounds (positive : 0 < size) (value : K) :
    ⌊value / size⌋ * size ≤ value ∧ value < (⌊value / size⌋ + 1) * size := by
  constructor
  · rw [← le_div_iff₀ positive]
    exact Int.floor_le _
  · rw [← div_lt_iff₀ positive]
    exact Int.lt_floor_add_one _

theorem gap_floor (positive : 0 < size) (value : K) : gap size ⌊value / size⌋ value = 0 := by
  obtain ⟨below, above⟩ := floor_bounds positive value
  rw [gap, max_eq_right]
  exact max_le (by linarith) (by linarith)

/-- The interval of a near coordinate is in reach. -/
theorem gap_floor_le (positive : 0 < size) {value next : K} (near : |next - value| ≤ radius) :
    gap size ⌊next / size⌋ value ≤ radius := by
  obtain ⟨below, above⟩ := floor_bounds positive next
  obtain ⟨left, right⟩ := abs_le.mp near
  rw [gap_le_iff ((abs_nonneg _).trans near)]
  constructor <;> linarith

/-- Near coordinates are in the same interval or in neighbouring ones. -/
theorem floor_eq_or_of_near (positive : 0 < size) (fits : radius < size) {value next : K}
    (near : |next - value| ≤ radius) :
    ⌊next / size⌋ = ⌊value / size⌋ ∨ |⌊next / size⌋ - ⌊value / size⌋| = 1 := by
  obtain ⟨below, above⟩ := floor_bounds positive value
  obtain ⟨below', above'⟩ := floor_bounds positive next
  obtain ⟨left, right⟩ := abs_le.mp near
  have up : (⌊next / size⌋ : K) < ⌊value / size⌋ + 2 := by
    refine lt_of_mul_lt_mul_right ?_ positive.le
    linarith
  have down : (⌊value / size⌋ : K) < ⌊next / size⌋ + 2 := by
    refine lt_of_mul_lt_mul_right ?_ positive.le
    linarith
  have up : ⌊next / size⌋ < ⌊value / size⌋ + 2 := by exact_mod_cast up
  have down : ⌊value / size⌋ < ⌊next / size⌋ + 2 := by exact_mod_cast down
  rw [abs_eq zero_le_one]
  omega

/-- A move stays in the cell, or goes through cells that are not solid: first along the one
axis, then along the other. -/
theorem Walks.connected (positive : 0 < size) (fits : radius < size) {point next : K × K}
    (walks : Walks size radius solid point next) :
    Relation.ReflTransGen (Opens solid) (cellOf size point) (cellOf size next) := by
  obtain ⟨nearX, nearY⟩ := walks.near
  have nonneg : 0 ≤ radius := (abs_nonneg _).trans nearX
  have start : ¬ solid (cellOf size point) := fun wall =>
    walks.free _ wall (touched_of_gap_le
      ((gap_floor positive point.1).le.trans nonneg) (gap_floor positive point.2))
  have corner : ¬ solid ((cellOf size next).1, (cellOf size point).2) := fun wall =>
    walks.free _ wall (touched_of_gap_le (gap_floor_le positive nearX) (gap_floor positive _))
  have arrival : ¬ solid (cellOf size next) := fun wall =>
    walks.free_next _ wall (touched_of_gap_le
      ((gap_floor positive next.1).le.trans nonneg) (gap_floor positive next.2))
  have across : Relation.ReflTransGen (Opens solid) (cellOf size point)
      ((cellOf size next).1, (cellOf size point).2) := by
    rcases floor_eq_or_of_near positive fits nearX with same | beside
    · exact (Prod.ext same rfl : ((cellOf size next).1, (cellOf size point).2) =
        cellOf size point) ▸ .refl
    · exact .single ⟨start, corner, .inr ⟨rfl, beside⟩⟩
  have along : Relation.ReflTransGen (Opens solid)
      ((cellOf size next).1, (cellOf size point).2) (cellOf size next) := by
    rcases floor_eq_or_of_near positive fits nearY with same | beside
    · exact (Prod.ext rfl same.symm : ((cellOf size next).1, (cellOf size point).2) =
        cellOf size next) ▸ .refl
    · exact .single ⟨corner, arrival, .inl ⟨rfl, beside⟩⟩
  exact across.trans along

/-- However often the disc is moved, it stays among the cells that are connected. -/
theorem connected_of_walks (positive : 0 < size) (fits : radius < size) {point last : K × K}
    (walks : Relation.ReflTransGen (Walks size radius solid) point last) :
    Relation.ReflTransGen (Opens solid) (cellOf size point) (cellOf size last) := by
  induction walks with
  | refl => exact .refl
  | tail _ moved ih => exact ih.trans (moved.connected positive fits)

end Cells

/-! ## Corridors -/

/-- A coordinate between the middles of two intervals is near to those between them only. -/
theorem between_of_gap_le {i j k : ℤ} {t : K} (positive : 0 < size) (nonneg : 0 ≤ radius)
    (fits : 2 * radius < size) (before : 0 ≤ t) (after : t ≤ 1)
    (near : gap size k ((i + 1 / 2) * size + t * ((j + 1 / 2) * size - (i + 1 / 2) * size)) ≤
      radius) : (i ≤ k ∧ k ≤ j) ∨ (j ≤ k ∧ k ≤ i) := by
  obtain ⟨left, right⟩ := (gap_le_iff nonneg).mp near
  have below {m : ℤ} (short : (m : K) * size < (k + 1) * size) : m ≤ k := by
    have short : (m : K) < k + 1 := lt_of_mul_lt_mul_right short positive.le
    exact Int.lt_add_one_iff.mp (by exact_mod_cast short)
  have above {m : ℤ} (short : (k : K) * size < (m + 1) * size) : k ≤ m := by
    have short : (k : K) < m + 1 := lt_of_mul_lt_mul_right short positive.le
    exact Int.lt_add_one_iff.mp (by exact_mod_cast short)
  rcases le_total i j with forward | backward
  · have span : 0 ≤ ((j : K) - i) * size :=
      mul_nonneg (sub_nonneg.mpr (by exact_mod_cast forward)) positive.le
    have least := mul_nonneg before span
    have most := mul_le_of_le_one_left span after
    exact .inl ⟨below (by linarith), above (by linarith)⟩
  · have span : 0 ≤ ((i : K) - j) * size :=
      mul_nonneg (sub_nonneg.mpr (by exact_mod_cast backward)) positive.le
    have least := mul_nonneg before span
    have most := mul_le_of_le_one_left span after
    exact .inr ⟨below (by linarith), above (by linarith)⟩

theorem free_middle {cell : ℤ × ℤ} (passable : ¬ solid cell) (positive : 0 < size)
    (nonneg : 0 ≤ radius) (fits : 2 * radius < size) :
    Free size radius solid (middle size cell) := by
  intro other wall touched
  obtain ⟨nearX, nearY⟩ := touched.gap_le nonneg
  have level {i k : ℤ} (near : gap size k ((i + 1 / 2) * size) ≤ radius) : k = i := by
    have between : (i ≤ k ∧ k ≤ i) ∨ (i ≤ k ∧ k ≤ i) :=
      between_of_gap_le positive nonneg fits le_rfl zero_le_one (by simpa using near)
    omega
  rw [Prod.ext (level nearX) (level nearY)] at wall
  exact passable wall

theorem Opens.free {cell next : ℤ × ℤ} (opens : Opens solid cell next) (positive : 0 < size)
    (nonneg : 0 ≤ radius) (fits : 2 * radius < size) (t : K) (before : 0 ≤ t) (after : t ≤ 1) :
    Free size radius solid
      ((middle size cell).1 + t * ((middle size next).1 - (middle size cell).1),
        (middle size cell).2 + t * ((middle size next).2 - (middle size cell).2)) := by
  intro other wall touched
  obtain ⟨nearX, nearY⟩ := touched.gap_le nonneg
  have x := between_of_gap_le positive nonneg fits before after nearX
  have y := between_of_gap_le positive nonneg fits before after nearY
  have either : other = cell ∨ other = next := by
    simp only [Prod.ext_iff]
    rcases opens.adjacent with ⟨same, beside⟩ | ⟨same, beside⟩
    · have beside := (abs_eq zero_le_one).mp beside
      omega
    · have beside := (abs_eq zero_le_one).mp beside
      omega
  rcases either with rfl | rfl
  · exact opens.passable wall
  · exact opens.passable_next wall

/-- Along a segment on which it is free the disc can be moved in small moves. -/
theorem walks_of_free_segment {point shift : K × K} (count : ℕ) (moves : 0 < count)
    (x : |shift.1| ≤ count * radius) (y : |shift.2| ≤ count * radius)
    (free : ∀ t : K, 0 ≤ t → t ≤ 1 →
      Free size radius solid (point.1 + t * shift.1, point.2 + t * shift.2)) :
    Relation.ReflTransGen (Walks size radius solid) point
      (point.1 + shift.1, point.2 + shift.2) := by
  have whole : (0 : K) < count := by exact_mod_cast moves
  have part (k : ℕ) (within : k ≤ count) :
      Relation.ReflTransGen (Walks size radius solid) point
        (point.1 + k / count * shift.1, point.2 + k / count * shift.2) := by
    induction k with
    | zero => simpa using .refl
    | succ k ih =>
        have before : (k : K) / count ≤ 1 :=
          (div_le_one whole).mpr (by exact_mod_cast (Nat.le_succ k).trans within)
        have after : ((k + 1 : ℕ) : K) / count ≤ 1 :=
          (div_le_one whole).mpr (by exact_mod_cast within)
        have short {value : K} (bound : |value| ≤ count * radius) :
            |((k + 1 : ℕ) : K) / count * value - k / count * value| ≤ radius := by
          rw [← sub_mul, ← sub_div, Nat.cast_succ, add_sub_cancel_left, abs_mul,
            abs_of_pos (one_div_pos.mpr whole), div_mul_eq_mul_div, one_mul,
            div_le_iff₀ whole]
          linarith
        refine (ih ((Nat.le_succ k).trans within)).tail ⟨?_, ?_, ?_, ?_⟩
        · exact free _ (by positivity) before
        · exact free _ (by positivity) after
        · simpa using short x
        · simpa using short y
  have last := part count le_rfl
  rwa [div_self whole.ne', one_mul, one_mul] at last

/-- Through a common side the disc can be moved from middle to middle. -/
theorem walks_of_opens [Archimedean K] (positive : 0 < size) (wide : 0 < radius)
    (fits : 2 * radius < size) {cell next : ℤ × ℤ} (opens : Opens solid cell next) :
    Relation.ReflTransGen (Walks size radius solid) (middle size cell) (middle size next) := by
  let shift : K × K := ((middle size next).1 - (middle size cell).1,
    (middle size next).2 - (middle size cell).2)
  obtain ⟨count, enough⟩ := exists_nat_gt ((|shift.1| + |shift.2|) / radius)
  have moves : (0 : K) < count := lt_of_le_of_lt (by positivity) enough
  have enough : |shift.1| + |shift.2| ≤ count * radius := ((div_lt_iff₀ wide).mp enough).le
  have walks := walks_of_free_segment count (by exact_mod_cast moves)
    ((le_add_of_nonneg_right (abs_nonneg _)).trans enough)
    ((le_add_of_nonneg_left (abs_nonneg _)).trans enough)
    (opens.free positive wide.le fits)
  simpa [shift] using walks

/-- A disc that fits through a single cell gets from the middle of one cell to the middle
of another exactly if the cells are connected. -/
theorem walks_iff_opens [Archimedean K] [FloorRing K] (positive : 0 < size) (wide : 0 < radius)
    (fits : 2 * radius < size) {cell last : ℤ × ℤ} :
    Relation.ReflTransGen (Walks size radius solid) (middle size cell) (middle size last) ↔
      Relation.ReflTransGen (Opens solid) cell last := by
  constructor
  · intro walks
    have connected := connected_of_walks positive (by linarith) walks
    rwa [cellOf_middle positive, cellOf_middle positive] at connected
  · intro opens
    induction opens with
    | refl => exact .refl
    | tail _ opened ih => exact ih.trans (walks_of_opens positive wide fits opened)

end LegendOfStealth.Library
