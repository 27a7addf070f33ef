import LegendOfStealth.Client.ShadowCaster
import Mathlib.Tactic.Linarith

/-!
# The bounding box of a shadow caster

`GetAABB` lowers a corner to the smallest coordinates and then grows the size until the
last vertex is covered.  Each loop stops at a vertex or where it started, so every side of
the box touches a vertex, and no smaller rectangle contains them all.
-/

namespace LegendOfStealth.Geometry.Rect

/-- The rectangle contains some points, and each of its sides touches one of them. -/
structure Encloses (box : Rect) (points : List Vec2) : Prop where
  contains : ∀ point ∈ points, box.Contains point
  left : ∃ point ∈ points, point.x = box.x
  right : ∃ point ∈ points, point.x = box.x + box.w
  bottom : ∃ point ∈ points, point.y = box.y
  top : ∃ point ∈ points, point.y = box.y + box.h

namespace Encloses

variable {box other : Rect} {points : List Vec2}

/-- A rectangle that contains the points covers the one that encloses them. -/
theorem covers (encloses : box.Encloses points)
    (contains : ∀ point ∈ points, other.Contains point) : other.Covers box := by
  obtain ⟨left, leftMem, left_eq⟩ := encloses.left
  obtain ⟨right, rightMem, right_eq⟩ := encloses.right
  obtain ⟨bottom, bottomMem, bottom_eq⟩ := encloses.bottom
  obtain ⟨top, topMem, top_eq⟩ := encloses.top
  constructor
  · rw [← right_eq, ← left_eq]
    exact ⟨(contains left leftMem).1.1, (contains right rightMem).1.2⟩
  · rw [← top_eq, ← bottom_eq]
    exact ⟨(contains bottom bottomMem).2.1, (contains top topMem).2.2⟩

theorem size_nonneg (encloses : box.Encloses points) : 0 ≤ box.w ∧ 0 ≤ box.h := by
  obtain ⟨left, leftMem, -⟩ := encloses.left
  obtain ⟨⟨low, high⟩, below, above⟩ := encloses.contains left leftMem
  constructor
  · exact (le_add_iff_nonneg_right box.x).mp (low.trans high)
  · exact (le_add_iff_nonneg_right box.y).mp (below.trans above)

theorem translate (encloses : box.Encloses points) (offset : Vec2) :
    (box.translate offset).Encloses (points.map (· + offset)) where
  contains := by
    intro moved member
    obtain ⟨point, pointMem, rfl⟩ := List.mem_map.mp member
    obtain ⟨⟨left, right⟩, bottom, top⟩ := encloses.contains point pointMem
    simp only [Contains, Rect.translate, Vec2.add_x, Vec2.add_y, add_right_comm _ _ box.w,
      add_right_comm _ _ box.h, add_le_add_iff_right]
    exact ⟨⟨left, right⟩, bottom, top⟩
  left := by
    obtain ⟨point, pointMem, touches⟩ := encloses.left
    exact ⟨_, List.mem_map_of_mem pointMem, congrArg (· + offset.x) touches⟩
  right := by
    obtain ⟨point, pointMem, touches⟩ := encloses.right
    refine ⟨_, List.mem_map_of_mem pointMem, ?_⟩
    exact (congrArg (· + offset.x) touches).trans (add_right_comm box.x box.w offset.x)
  bottom := by
    obtain ⟨point, pointMem, touches⟩ := encloses.bottom
    exact ⟨_, List.mem_map_of_mem pointMem, congrArg (· + offset.y) touches⟩
  top := by
    obtain ⟨point, pointMem, touches⟩ := encloses.top
    refine ⟨_, List.mem_map_of_mem pointMem, ?_⟩
    exact (congrArg (· + offset.y) touches).trans (add_right_comm box.y box.h offset.y)

end Encloses

end LegendOfStealth.Geometry.Rect

namespace LegendOfStealth.Shadow

open LegendOfStealth.Geometry

section Loops

universe u v w

/-- If every turn of a loop keeps a value or takes the one of its element, then at the end
it is the value of the start or of an element. -/
theorem foldl_eq_or_exists {σ : Type u} {α : Type v} {β : Type w} (turn : σ → α → σ)
    (kept : σ → β) (offered : α → β)
    (turns : ∀ state x, kept (turn state x) = kept state ∨ kept (turn state x) = offered x)
    (xs : List α) (state : σ) :
    kept (xs.foldl turn state) = kept state ∨
      ∃ x ∈ xs, offered x = kept (xs.foldl turn state) := by
  induction xs generalizing state with
  | nil => exact .inl rfl
  | cons x rest ih =>
      rw [List.foldl_cons, List.exists_mem_cons_iff]
      rcases ih (turn state x) with same | touched
      · rw [same]
        exact (turns state x).imp_right fun taken => .inl taken.symm
      · exact .inr (.inr touched)

end Loops

namespace ShadowCaster

theorem le_of_foldl_lowerBottomLeft (vertices : List Vec2) (r : Rect) :
    (vertices.foldl lowerBottomLeft r).x ≤ r.x ∧ (vertices.foldl lowerBottomLeft r).y ≤ r.y ∧
      ∀ v ∈ vertices, (vertices.foldl lowerBottomLeft r).x ≤ v.x ∧
        (vertices.foldl lowerBottomLeft r).y ≤ v.y := by
  induction vertices generalizing r with
  | nil => exact ⟨le_refl _, le_refl _, fun _ member => absurd member List.not_mem_nil⟩
  | cons v rest ih =>
      have first : (lowerBottomLeft r v).x ≤ r.x ∧ (lowerBottomLeft r v).x ≤ v.x ∧
          (lowerBottomLeft r v).y ≤ r.y ∧ (lowerBottomLeft r v).y ≤ v.y := by
        simp only [lowerBottomLeft]
        refine ⟨?_, ?_, ?_, ?_⟩ <;> split <;> linarith
      rcases ih (lowerBottomLeft r v) with ⟨x, y, later⟩
      refine ⟨x.trans first.1, y.trans first.2.2.1, ?_⟩
      intro u member
      rcases List.mem_cons.mp member with rfl | among
      · exact ⟨x.trans first.2.1, y.trans first.2.2.2⟩
      · exact later u among

theorem foldl_growToTopRight_le (vertices : List Vec2) (r : Rect) :
    ((vertices.foldl growToTopRight r).x = r.x ∧ (vertices.foldl growToTopRight r).y = r.y) ∧
      (r.w ≤ (vertices.foldl growToTopRight r).w ∧ r.h ≤ (vertices.foldl growToTopRight r).h) ∧
        ∀ v ∈ vertices, v.x ≤ r.x + (vertices.foldl growToTopRight r).w ∧
          v.y ≤ r.y + (vertices.foldl growToTopRight r).h := by
  induction vertices generalizing r with
  | nil =>
      exact ⟨⟨rfl, rfl⟩, ⟨le_refl _, le_refl _⟩, fun _ member => absurd member List.not_mem_nil⟩
  | cons v rest ih =>
      have first : (r.w ≤ (growToTopRight r v).w ∧ r.h ≤ (growToTopRight r v).h) ∧
          v.x ≤ r.x + (growToTopRight r v).w ∧ v.y ≤ r.y + (growToTopRight r v).h := by
        simp only [growToTopRight]
        refine ⟨⟨?_, ?_⟩, ?_, ?_⟩ <;> split <;> linarith
      rcases ih (growToTopRight r v) with ⟨corner, ⟨w, h⟩, later⟩
      refine ⟨corner, ⟨first.1.1.trans w, first.1.2.trans h⟩, ?_⟩
      intro u member
      rcases List.mem_cons.mp member with rfl | among
      · exact ⟨first.2.1.trans (add_le_add_right w r.x),
          first.2.2.trans (add_le_add_right h r.y)⟩
      · exact later u among

/-- The first loop started at a vertex, and stops at coordinates of vertices. -/
theorem touches_foldl_lowerBottomLeft (v : Vec2) (rest : List Vec2) :
    (∃ u ∈ v :: rest, u.x = (rest.foldl lowerBottomLeft ⟨v.x, v.y, 0, 0⟩).x) ∧
      ∃ u ∈ v :: rest, u.y = (rest.foldl lowerBottomLeft ⟨v.x, v.y, 0, 0⟩).y := by
  rw [List.exists_mem_cons_iff, List.exists_mem_cons_iff]
  constructor
  · have stops := foldl_eq_or_exists lowerBottomLeft Rect.x Vec2.x
      (fun r u => (ite_eq_or_eq (u.x < r.x) u.x r.x).symm) rest ⟨v.x, v.y, 0, 0⟩
    exact stops.imp_left Eq.symm
  · have stops := foldl_eq_or_exists lowerBottomLeft Rect.y Vec2.y
      (fun r u => (ite_eq_or_eq (u.y < r.y) u.y r.y).symm) rest ⟨v.x, v.y, 0, 0⟩
    exact stops.imp_left Eq.symm

theorem foldl_lowerBottomLeft_size (vertices : List Vec2) (r : Rect) :
    (vertices.foldl lowerBottomLeft r).w = r.w ∧ (vertices.foldl lowerBottomLeft r).h = r.h := by
  induction vertices generalizing r with
  | nil => exact ⟨rfl, rfl⟩
  | cons v rest ih => exact ih (lowerBottomLeft r v)

theorem touches_foldl_growToTopRight (vertices : List Vec2) (r : Rect) :
    ((vertices.foldl growToTopRight r).x + (vertices.foldl growToTopRight r).w = r.x + r.w ∨
        ∃ v ∈ vertices, v.x =
          (vertices.foldl growToTopRight r).x + (vertices.foldl growToTopRight r).w) ∧
      ((vertices.foldl growToTopRight r).y + (vertices.foldl growToTopRight r).h = r.y + r.h ∨
        ∃ v ∈ vertices, v.y =
          (vertices.foldl growToTopRight r).y + (vertices.foldl growToTopRight r).h) := by
  constructor
  · apply foldl_eq_or_exists growToTopRight (fun r : Rect => r.x + r.w) Vec2.x
    intro r v
    simp only [growToTopRight]
    split
    · exact .inr (add_sub_cancel r.x v.x)
    · exact .inl rfl
  · apply foldl_eq_or_exists growToTopRight (fun r : Rect => r.y + r.h) Vec2.y
    intro r v
    simp only [growToTopRight]
    split
    · exact .inr (add_sub_cancel r.y v.y)
    · exact .inl rfl

/-- The two loops of `GetAABB` together. -/
theorem encloses_foldl (v : Vec2) (rest : List Vec2) :
    ((v :: rest).foldl growToTopRight
      (rest.foldl lowerBottomLeft ⟨v.x, v.y, 0, 0⟩)).Encloses (v :: rest) := by
  obtain ⟨x, y, low⟩ := le_of_foldl_lowerBottomLeft rest ⟨v.x, v.y, 0, 0⟩
  obtain ⟨left, bottom⟩ := touches_foldl_lowerBottomLeft v rest
  obtain ⟨w, h⟩ := foldl_lowerBottomLeft_size rest ⟨v.x, v.y, 0, 0⟩
  generalize rest.foldl lowerBottomLeft ⟨v.x, v.y, 0, 0⟩ = r at *
  obtain ⟨corner, -, high⟩ := foldl_growToTopRight_le (v :: rest) r
  obtain ⟨right, top⟩ := touches_foldl_growToTopRight (v :: rest) r
  rw [w, add_zero] at right
  rw [h, add_zero] at top
  refine ⟨?_, ?_, ?_, ?_, ?_⟩
  · intro u member
    have below : r.x ≤ u.x ∧ r.y ≤ u.y := by
      rcases List.mem_cons.mp member with rfl | among
      · exact ⟨x, y⟩
      · exact low u among
    rw [Rect.Contains, corner.1, corner.2]
    exact ⟨⟨below.1, (high u member).1⟩, below.2, (high u member).2⟩
  · rwa [corner.1]
  · -- a box without width ends where it begins
    rcases right with flat | touched
    · rwa [flat]
    · exact touched
  · rwa [corner.2]
  · rcases top with flat | touched
    · rwa [flat]
    · exact touched

variable {object : GameObject} {caster : ShadowCaster} {box : Rect}

/-- `GetAABB` encloses the vertices at the current world position. -/
theorem encloses_getAABB (bounds : caster.getAABB object = some box) :
    box.Encloses (caster.localVerts.map (· + object.worldPosition)) := by
  rw [getAABB] at bounds
  split at bounds
  · contradiction
  · rename_i v rest vertices
    cases bounds
    rw [vertices]
    exact (encloses_foldl v rest).translate object.worldPosition

theorem exists_getAABB (object : GameObject) (shaped : caster.localVerts ≠ []) :
    ∃ box, caster.getAABB object = some box :=
  Option.ne_none_iff_exists'.mp (mt getAABB_eq_none_iff.mp shaped)

/-- The bounding box of a caster with vertices is the smallest rectangle that contains
them at the world position, and each of its sides touches one. -/
theorem getAABB_smallest (object : GameObject) (caster : ShadowCaster)
    (shaped : caster.localVerts ≠ []) :
    ∃ box, caster.getAABB object = some box ∧ (0 ≤ box.w ∧ 0 ≤ box.h) ∧
      box.Encloses (caster.localVerts.map (· + object.worldPosition)) ∧
        ∀ other : Rect, (∀ v ∈ caster.localVerts, other.Contains (v + object.worldPosition)) →
          other.Covers box := by
  obtain ⟨box, bounds⟩ := exists_getAABB object shaped
  have encloses := encloses_getAABB bounds
  refine ⟨box, bounds, encloses.size_nonneg, encloses, ?_⟩
  intro other contains
  apply encloses.covers
  intro point member
  obtain ⟨v, vertex, rfl⟩ := List.mem_map.mp member
  exact contains v vertex

/-- A triangle whose vertices are on both sides of its game object. -/
theorem getAABB_smallest_triangle :
    ∃ box, getAABB ⟨⟨0, 0⟩, ⟨10, 20⟩, ⟨0, 0⟩, ⟨1, 1⟩, none⟩
        ⟨[⟨3, -1⟩, ⟨-2, 4⟩, ⟨0, -5⟩], [], ⟨0, 0⟩⟩ = some box ∧ (0 ≤ box.w ∧ 0 ≤ box.h) ∧
      box.Encloses ([⟨3, -1⟩, ⟨-2, 4⟩, ⟨0, -5⟩].map (· + (⟨10, 20⟩ : Vec2))) ∧
        ∀ other : Rect, (∀ v ∈ [(⟨3, -1⟩ : Vec2), ⟨-2, 4⟩, ⟨0, -5⟩],
          other.Contains (v + ⟨10, 20⟩)) → other.Covers box :=
  getAABB_smallest _ _ (List.cons_ne_nil _ _)

end ShadowCaster

end LegendOfStealth.Shadow
