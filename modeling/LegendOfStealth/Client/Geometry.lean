import Mathlib.Algebra.Order.Field.Rat

/-!
# Points, rectangles and colours

The value types of the drawing code.  Coordinates are rational, so that arithmetic on
them is exact.
-/

namespace LegendOfStealth.Geometry

/-- `Vec2`. -/
@[ext]
structure Vec2 where
  x : ℚ
  y : ℚ
  deriving DecidableEq

namespace Vec2

instance : Add Vec2 :=
  ⟨fun first second => ⟨first.x + second.x, first.y + second.y⟩⟩

instance : Sub Vec2 :=
  ⟨fun first second => ⟨first.x - second.x, first.y - second.y⟩⟩

@[simp]
theorem add_x (first second : Vec2) : (first + second).x = first.x + second.x :=
  rfl

@[simp]
theorem add_y (first second : Vec2) : (first + second).y = first.y + second.y :=
  rfl

@[simp]
theorem sub_x (first second : Vec2) : (first - second).x = first.x - second.x :=
  rfl

@[simp]
theorem sub_y (first second : Vec2) : (first - second).y = first.y - second.y :=
  rfl

instance : Neg Vec2 :=
  ⟨fun v => ⟨-v.x, -v.y⟩⟩

@[simp]
theorem neg_x (v : Vec2) : (-v).x = -v.x :=
  rfl

@[simp]
theorem neg_y (v : Vec2) : (-v).y = -v.y :=
  rfl

theorem add_sub_add_left (v first second : Vec2) :
    v + first - (v + second) = -(second - first) := by
  ext
  · simp
  · simp

end Vec2

/-- `Rect`: a corner and the size. -/
@[ext]
structure Rect where
  x : ℚ
  y : ℚ
  w : ℚ
  h : ℚ
  deriving DecidableEq

namespace Rect

/-- The corners, counterclockwise from the bottom left. -/
def corners (rect : Rect) : List Vec2 :=
  [⟨rect.x, rect.y⟩, ⟨rect.x + rect.w, rect.y⟩, ⟨rect.x + rect.w, rect.y + rect.h⟩,
    ⟨rect.x, rect.y + rect.h⟩]

theorem corners_injective : Function.Injective corners := by
  rintro ⟨x, y, w, h⟩ ⟨x', y', w', h'⟩ same
  simp only [corners, List.cons.injEq, Vec2.mk.injEq] at same
  rcases same with ⟨⟨rfl, rfl⟩, ⟨width, -⟩, ⟨-, height⟩, -⟩
  rw [add_left_cancel width, add_left_cancel height]

/-- The rectangle moved by a vector. -/
def translate (offset : Vec2) (rect : Rect) : Rect :=
  { rect with x := rect.x + offset.x, y := rect.y + offset.y }

theorem translate_comm (first second : Vec2) (rect : Rect) :
    (rect.translate first).translate second = (rect.translate second).translate first := by
  simp only [translate, add_right_comm]

/-- A rectangle is moved by every vector but one. -/
theorem translate_eq_self_iff (offset : Vec2) (rect : Rect) :
    rect.translate offset = rect ↔ offset = ⟨0, 0⟩ := by
  simp [translate, Rect.ext_iff, Vec2.ext_iff]

theorem map_add_corners (offset : Vec2) (rect : Rect) :
    rect.corners.map (· + offset) = (rect.translate offset).corners := by
  have add (v : Vec2) : v + offset = ⟨v.x + offset.x, v.y + offset.y⟩ := rfl
  simp only [corners, translate, List.map_cons, List.map_nil, add, add_right_comm]

/-- The point lies strictly inside. -/
def StrictlyInside (rect : Rect) (point : Vec2) : Prop :=
  rect.x < point.x ∧ point.x < rect.x + rect.w ∧ rect.y < point.y ∧ point.y < rect.y + rect.h

/-- The point lies inside or on a side. -/
def Contains (rect : Rect) (point : Vec2) : Prop :=
  (rect.x ≤ point.x ∧ point.x ≤ rect.x + rect.w) ∧
    rect.y ≤ point.y ∧ point.y ≤ rect.y + rect.h

/-- The other rectangle reaches over no side of this one. -/
def Covers (rect other : Rect) : Prop :=
  (rect.x ≤ other.x ∧ other.x + other.w ≤ rect.x + rect.w) ∧
    rect.y ≤ other.y ∧ other.y + other.h ≤ rect.y + rect.h

end Rect

/-- `Color`. -/
structure Color where
  r : ℚ
  g : ℚ
  b : ℚ
  a : ℚ
  deriving DecidableEq

end LegendOfStealth.Geometry
