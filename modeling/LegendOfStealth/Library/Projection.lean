import Mathlib.Algebra.Order.Field.Basic
import Mathlib.Algebra.Module.Prod
import Mathlib.Algebra.Order.Module.Defs
import Mathlib.Data.List.Rotate
import Mathlib.Tactic.FieldSimp
import Mathlib.Tactic.LinearCombination
import Mathlib.Tactic.Linarith
import Mathlib.Tactic.Module
import Mathlib.Tactic.Ring

/-!
# Central projection of segments

A segment and its image under a central projection are two sides of a quadrilateral.  It is
the shadow that the segment throws, up to the distance at which the image lies: it consists
of the points whose line of sight to the centre meets the segment.

Polygons are lists of vertices.  A point is inside a convex polygon if it lies on the same
side of all edges.
-/

namespace LegendOfStealth.Library

universe u

variable {K : Type u} [Field K] [LinearOrder K]

/-- Twice the area of the triangle that two vectors span, with a sign. -/
def cross (v w : K × K) : K :=
  v.1 * w.2 - v.2 * w.1

/-- On which side of each edge a point lies. -/
def sides (polygon : List (K × K)) (q : K × K) : List K :=
  (polygon.zip (polygon.rotate 1)).map fun (v, w) => cross (w - v) (q - v)

/-- In which direction each edge turns into the next one. -/
def turns (polygon : List (K × K)) : List K :=
  (polygon.zip ((polygon.rotate 1).zip (polygon.rotate 2))).map fun (u, v, w) =>
    cross (v - u) (w - v)

/-- All positive or all negative. -/
def OneSided (values : List K) : Prop :=
  (∀ value ∈ values, 0 < value) ∨ ∀ value ∈ values, value < 0

/-- None negative or none positive. -/
def WeaklyOneSided (values : List K) : Prop :=
  (∀ value ∈ values, 0 ≤ value) ∨ ∀ value ∈ values, value ≤ 0

/-- The edges of the polygon all turn the same way. -/
def ConvexPolygon (polygon : List (K × K)) : Prop :=
  OneSided (turns polygon)

/-- The polygon has no area. -/
def FlatPolygon (polygon : List (K × K)) : Prop :=
  ∀ turn ∈ turns polygon, turn = 0

/-- The point is inside a convex polygon. -/
def Interior (polygon : List (K × K)) (q : K × K) : Prop :=
  OneSided (sides polygon q)

/-- The point is inside a convex polygon or on an edge. -/
def Within (polygon : List (K × K)) (q : K × K) : Prop :=
  WeaklyOneSided (sides polygon q)

theorem not_interior_of_flat [IsStrictOrderedRing K] {a b c d : K × K} (flat : FlatPolygon [a, b, c, d])
    (q : K × K) : ¬ Interior [a, b, c, d] q := by
  simp only [FlatPolygon, turns, List.rotate_cons_succ, List.rotate_zero, List.cons_append,
    List.nil_append, List.zip_cons_cons, List.zip_nil_right, List.map_cons, List.map_nil,
    List.forall_mem_cons] at flat
  simp only [Interior, OneSided, sides, List.rotate_cons_succ, List.rotate_zero, List.cons_append,
    List.nil_append, List.zip_cons_cons, List.zip_nil_right, List.map_cons, List.map_nil,
    List.forall_mem_cons]
  obtain ⟨first, -, third, -⟩ := flat
  have whole : cross (b - a) (q - a) + cross (c - b) (q - b) + cross (d - c) (q - c) +
      cross (a - d) (q - d) = 0 := by
    simp only [cross, Prod.fst_sub, Prod.snd_sub] at *
    linear_combination first + third
  rintro (⟨one, two, three, four, -⟩ | ⟨one, two, three, four, -⟩)
  · linarith
  · linarith

/-! ## Lines of sight -/

/-- The line of sight from `o` to `q` meets the segment from `a` to `b`, and `q` is at most
`reach` times as far away as the segment. -/
def Blocks (reach : K) (o a b q : K × K) : Prop :=
  ∃ s t : K, (0 ≤ s ∧ s ≤ 1) ∧ (1 ≤ reach * t ∧ t ≤ 1) ∧ o + t • (q - o) = a + s • (b - a)

/-- It meets it between the ends, and `q` is behind it and not as far away. -/
def StrictlyBlocks (reach : K) (o a b q : K × K) : Prop :=
  ∃ s t : K, (0 < s ∧ s < 1) ∧ (1 < reach * t ∧ t < 1) ∧ o + t • (q - o) = a + s • (b - a)

/-- A segment and its image, as far from `o` as `reach` times the segment. -/
def castQuad (reach : K) (o a b : K × K) : List (K × K) :=
  [a, b, o + reach • (b - o), o + reach • (a - o)]

section Coordinates

variable {o a b q : K × K} {reach : K}

omit [LinearOrder K] in
/-- A point in the coordinates in which `o` is the origin and the segment spans the axes. -/
theorem exists_coordinates (apart : cross (a - o) (b - o) ≠ 0) (q : K × K) :
    ∃ α β : K, q - o = α • (a - o) + β • (b - o) := by
  refine ⟨cross (q - o) (b - o) / cross (a - o) (b - o),
    cross (a - o) (q - o) / cross (a - o) (b - o), ?_⟩
  rcases o with ⟨oX, oY⟩
  rcases a with ⟨aX, aY⟩
  rcases b with ⟨bX, bY⟩
  rcases q with ⟨qX, qY⟩
  ext
  · simp only [Prod.fst_add, Prod.smul_fst, smul_eq_mul]
    field_simp
    simp only [cross, Prod.mk_sub_mk]
    ring
  · simp only [Prod.snd_add, Prod.smul_snd, smul_eq_mul]
    field_simp
    simp only [cross, Prod.mk_sub_mk]
    ring

omit [LinearOrder K] in
theorem sides_castQuad {α β : K} (coordinates : q - o = α • (a - o) + β • (b - o)) :
    let area := cross (a - o) (b - o)
    sides (castQuad reach o a b) q =
      [area * (1 - (α + β)), area * -((reach - 1) * α), area * -(reach * (reach - (α + β))),
        area * -((reach - 1) * β)] := by
  rcases o with ⟨oX, oY⟩
  rcases a with ⟨aX, aY⟩
  rcases b with ⟨bX, bY⟩
  rcases q with ⟨qX, qY⟩
  simp only [Prod.mk_sub_mk, Prod.smul_mk, Prod.mk_add_mk, smul_eq_mul, Prod.mk.injEq] at coordinates
  obtain ⟨x, y⟩ := coordinates
  obtain rfl : qX = oX + α * (aX - oX) + β * (bX - oX) := by linear_combination x
  obtain rfl : qY = oY + α * (aY - oY) + β * (bY - oY) := by linear_combination y
  simp only [sides, castQuad, cross, List.rotate_cons_succ, List.rotate_zero, List.cons_append,
    List.nil_append, List.zip_cons_cons, List.zip_nil_right, List.map_cons, List.map_nil,
    Prod.mk_sub_mk, Prod.smul_mk, Prod.mk_add_mk, smul_eq_mul, List.cons.injEq, and_true]
  refine ⟨?_, ?_, ?_, ?_⟩ <;> ring

omit [LinearOrder K] in
theorem turns_castQuad :
    let area := cross (a - o) (b - o)
    turns (castQuad reach o a b) =
      [area * -(reach - 1), area * -(reach * (reach - 1)), area * -(reach * (reach - 1)),
        area * -(reach - 1)] := by
  simp only [turns, castQuad, cross, List.rotate_cons_succ, List.rotate_zero, List.cons_append,
    List.nil_append, List.zip_cons_cons, List.zip_nil_right, List.map_cons, List.map_nil,
    Prod.fst_sub, Prod.snd_sub, Prod.smul_fst, Prod.smul_snd, Prod.fst_add, Prod.snd_add,
    smul_eq_mul, List.cons.injEq, and_true]
  refine ⟨?_, ?_, ?_, ?_⟩ <;> ring

omit [LinearOrder K] in
theorem eq_zero_of_add_eq_zero {v w : K × K} (apart : cross v w ≠ 0) {x y : K}
    (sum : x • v + y • w = 0) : x = 0 ∧ y = 0 := by
  obtain ⟨first, second⟩ := Prod.ext_iff.mp sum
  simp only [Prod.fst_add, Prod.snd_add, Prod.smul_fst, Prod.smul_snd, smul_eq_mul,
    Prod.fst_zero, Prod.snd_zero] at first second
  constructor
  · apply (mul_eq_zero.mp (_ : x * cross v w = 0)).resolve_right apart
    rw [cross]
    linear_combination w.2 * first - w.1 * second
  · apply (mul_eq_zero.mp (_ : y * cross v w = 0)).resolve_right apart
    rw [cross]
    linear_combination v.1 * second - v.2 * first

omit [LinearOrder K] in
/-- Where the line of sight meets the line of the segment. -/
theorem meets_iff (apart : cross (a - o) (b - o) ≠ 0) {α β : K}
    (coordinates : q - o = α • (a - o) + β • (b - o)) (s t : K) :
    o + t • (q - o) = a + s • (b - a) ↔ t * α = 1 - s ∧ t * β = s := by
  have difference : o + t • (q - o) - (a + s • (b - a)) =
      (t * α - (1 - s)) • (a - o) + (t * β - s) • (b - o) := by
    rw [coordinates]
    module
  rw [← sub_eq_zero, difference, ← sub_eq_zero (b := 1 - s), ← sub_eq_zero (b := s)]
  constructor
  · exact eq_zero_of_add_eq_zero apart
  · rintro ⟨first, second⟩
    rw [first, second, zero_smul, zero_smul, add_zero]

end Coordinates

/-! ## The shadow of a segment -/

section Shadow

variable [IsStrictOrderedRing K] {o a b q : K × K} {reach : K}

theorem mul_neg_iff_of_pos {x y : K} (positive : 0 < x) : x * y < 0 ↔ y < 0 := by
  rw [← smul_eq_mul, smul_neg_iff_of_pos_left positive]

theorem oneSided_map_mul {area : K} (apart : area ≠ 0) (values : List K) :
    OneSided (values.map (area * ·)) ↔ OneSided values := by
  simp only [OneSided, List.forall_mem_map]
  rcases apart.lt_or_gt with negative | positive
  · simp only [← smul_eq_mul, smul_pos_iff_of_neg_left negative,
      smul_neg_iff_of_neg_left negative]
    exact or_comm
  · simp only [← smul_eq_mul, smul_pos_iff_of_pos_left positive,
      smul_neg_iff_of_pos_left positive]

theorem weaklyOneSided_map_mul {area : K} (apart : area ≠ 0) (values : List K) :
    WeaklyOneSided (values.map (area * ·)) ↔ WeaklyOneSided values := by
  simp only [WeaklyOneSided, List.forall_mem_map]
  rcases apart.lt_or_gt with negative | positive
  · simp only [← not_lt, ← smul_eq_mul, smul_pos_iff_of_neg_left negative,
      smul_neg_iff_of_neg_left negative]
    exact or_comm
  · simp only [← not_lt, ← smul_eq_mul, smul_pos_iff_of_pos_left positive,
      smul_neg_iff_of_pos_left positive]

omit [LinearOrder K] [IsStrictOrderedRing K] in
/-- The sides of the shadow, up to a factor. -/
theorem sides_castQuad_eq_map {α β : K} (coordinates : q - o = α • (a - o) + β • (b - o)) :
    sides (castQuad reach o a b) q =
      [1 - (α + β), -((reach - 1) * α), -(reach * (reach - (α + β))), -((reach - 1) * β)].map
        (cross (a - o) (b - o) * ·) :=
  sides_castQuad coordinates

/-- The image of a segment that is not seen from its end is a convex shadow. -/
theorem convex_castQuad (far : 1 < reach) (apart : cross (a - o) (b - o) ≠ 0) :
    ConvexPolygon (castQuad reach o a b) := by
  have turned : turns (castQuad reach o a b) =
      [-(reach - 1), -(reach * (reach - 1)), -(reach * (reach - 1)), -(reach - 1)].map
        (cross (a - o) (b - o) * ·) := turns_castQuad
  have gap : 0 < reach - 1 := sub_pos.mpr far
  have wide : 0 < reach * (reach - 1) := mul_pos (one_pos.trans far) gap
  rw [ConvexPolygon, turned, oneSided_map_mul apart]
  right
  simp [far, wide]

omit [LinearOrder K] [IsStrictOrderedRing K] in
/-- A segment that is seen from its end throws no shadow. -/
theorem flat_castQuad (aligned : cross (a - o) (b - o) = 0) : FlatPolygon (castQuad reach o a b) := by
  rw [FlatPolygon, turns_castQuad, aligned]
  simp

/-- A point on the line of sight, in coordinates: it is behind the segment. -/
theorem blocks_iff_coordinates (far : 1 < reach) {α β : K} :
    (∃ s t : K, (0 ≤ s ∧ s ≤ 1) ∧ (1 ≤ reach * t ∧ t ≤ 1) ∧ t * α = 1 - s ∧ t * β = s) ↔
      (0 ≤ α ∧ 0 ≤ β) ∧ 1 ≤ α + β ∧ α + β ≤ reach := by
  constructor
  · rintro ⟨s, t, ⟨first, last⟩, ⟨near, before⟩, left, right⟩
    have positive : 0 < t := by
      by_contra behind
      have backwards : reach * t ≤ 0 :=
        mul_nonpos_of_nonneg_of_nonpos (one_pos.trans far).le (not_lt.mp behind)
      exact absurd (near.trans backwards) one_pos.not_ge
    have whole : t * (α + β) = 1 := by linear_combination left + right
    constructor
    · constructor
      · exact (mul_nonneg_iff_of_pos_left positive).mp (by linarith)
      · exact (mul_nonneg_iff_of_pos_left positive).mp (by linarith)
    · constructor
      · apply le_of_mul_le_mul_left _ positive
        rwa [whole, mul_one]
      · apply le_of_mul_le_mul_left _ positive
        rwa [whole, mul_comm]
  · rintro ⟨⟨left, right⟩, behind, near⟩
    have positive : 0 < α + β := one_pos.trans_le behind
    refine ⟨β / (α + β), 1 / (α + β), ⟨div_nonneg right positive.le, ?_⟩, ⟨?_, ?_⟩, ?_, ?_⟩
    · exact (div_le_one positive).mpr (by linarith)
    · rwa [mul_one_div, one_le_div positive]
    · rwa [div_le_one positive]
    · field_simp
      ring
    · field_simp

theorem strictlyBlocks_iff_coordinates (far : 1 < reach) {α β : K} :
    (∃ s t : K, (0 < s ∧ s < 1) ∧ (1 < reach * t ∧ t < 1) ∧ t * α = 1 - s ∧ t * β = s) ↔
      (0 < α ∧ 0 < β) ∧ 1 < α + β ∧ α + β < reach := by
  constructor
  · rintro ⟨s, t, ⟨first, last⟩, ⟨near, before⟩, left, right⟩
    have positive : 0 < t := by
      by_contra behind
      have backwards : reach * t ≤ 0 :=
        mul_nonpos_of_nonneg_of_nonpos (one_pos.trans far).le (not_lt.mp behind)
      exact absurd (near.trans_le backwards) one_pos.not_gt
    have whole : t * (α + β) = 1 := by linear_combination left + right
    constructor
    · constructor
      · exact (mul_pos_iff_of_pos_left positive).mp (by linarith)
      · exact (mul_pos_iff_of_pos_left positive).mp (by linarith)
    · constructor
      · apply lt_of_mul_lt_mul_left _ positive.le
        rwa [whole, mul_one]
      · apply lt_of_mul_lt_mul_left _ positive.le
        rwa [whole, mul_comm]
  · rintro ⟨⟨left, right⟩, behind, near⟩
    have positive : 0 < α + β := one_pos.trans behind
    refine ⟨β / (α + β), 1 / (α + β), ⟨div_pos right positive, ?_⟩, ⟨?_, ?_⟩, ?_, ?_⟩
    · exact (div_lt_one positive).mpr (by linarith)
    · rwa [mul_one_div, one_lt_div positive]
    · rwa [div_lt_one positive]
    · field_simp
      ring
    · field_simp

/-- The image of a segment encloses its shadow. -/
theorem within_castQuad_iff (far : 1 < reach) (apart : cross (a - o) (b - o) ≠ 0) :
    Within (castQuad reach o a b) q ↔ Blocks reach o a b q := by
  obtain ⟨α, β, coordinates⟩ := exists_coordinates apart q
  have gap : 0 < reach - 1 := sub_pos.mpr far
  have positive : 0 < reach := one_pos.trans far
  rw [Within, sides_castQuad_eq_map coordinates, weaklyOneSided_map_mul apart]
  simp only [Blocks, meets_iff apart coordinates]
  rw [blocks_iff_coordinates far]
  simp only [WeaklyOneSided, List.forall_mem_cons, List.not_mem_nil, false_imp_iff, implies_true,
    and_true, ← not_lt, Left.neg_neg_iff, Left.neg_pos_iff, mul_pos_iff_of_pos_left gap,
    mul_pos_iff_of_pos_left positive, mul_neg_iff_of_pos gap, mul_neg_iff_of_pos positive]
  constructor
  · rintro (⟨before, left, out, right⟩ | ⟨behind, left, near, right⟩)
    · exact absurd (by linarith : reach ≤ 0) positive.not_ge
    · exact ⟨⟨left, right⟩, by linarith, by linarith⟩
  · rintro ⟨⟨left, right⟩, behind, near⟩
    exact .inr ⟨by linarith, left, by linarith, right⟩

/-- Strictly inside the image are the points that the segment hides between its ends. -/
theorem interior_castQuad_iff (far : 1 < reach) (apart : cross (a - o) (b - o) ≠ 0) :
    Interior (castQuad reach o a b) q ↔ StrictlyBlocks reach o a b q := by
  obtain ⟨α, β, coordinates⟩ := exists_coordinates apart q
  have gap : 0 < reach - 1 := sub_pos.mpr far
  have positive : 0 < reach := one_pos.trans far
  rw [Interior, sides_castQuad_eq_map coordinates, oneSided_map_mul apart]
  simp only [StrictlyBlocks, meets_iff apart coordinates]
  rw [strictlyBlocks_iff_coordinates far]
  simp only [OneSided, List.forall_mem_cons, List.not_mem_nil, false_imp_iff, implies_true,
    and_true, Left.neg_pos_iff, Left.neg_neg_iff, mul_pos_iff_of_pos_left gap,
    mul_pos_iff_of_pos_left positive, mul_neg_iff_of_pos gap, mul_neg_iff_of_pos positive]
  constructor
  · rintro (⟨before, left, out, right⟩ | ⟨behind, left, near, right⟩)
    · exact absurd (by linarith : reach < 0) positive.not_gt
    · exact ⟨⟨left, right⟩, by linarith, by linarith⟩
  · rintro ⟨⟨left, right⟩, behind, near⟩
    exact .inr ⟨by linarith, left, by linarith, right⟩

end Shadow

end LegendOfStealth.Library
