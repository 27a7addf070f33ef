import LegendOfStealth.Client.Geometry
import Mathlib.Analysis.Real.Sqrt

/-!
# The engine

What the drawing code calls of the engine is a parameter: the default vector, the
length of a vector and the overlap of rectangles.  What the code relies on is stated
for each by itself.
-/

namespace LegendOfStealth.Geometry

namespace Vec2

/-- The Euclidean length. -/
noncomputable def length (v : Vec2) : ℝ :=
  √((v.x : ℝ) ^ 2 + (v.y : ℝ) ^ 2)

theorem lt_length_iff (v : Vec2) {bound : ℚ} (positive : 0 ≤ bound) :
    (bound : ℝ) < v.length ↔ bound ^ 2 < v.x ^ 2 + v.y ^ 2 := by
  rw [length, Real.lt_sqrt (by exact_mod_cast positive)]
  norm_cast

theorem length_le_iff (v : Vec2) {bound : ℚ} (positive : 0 ≤ bound) :
    v.length ≤ bound ↔ v.x ^ 2 + v.y ^ 2 ≤ bound ^ 2 := by
  rw [← not_lt, ← not_lt, v.lt_length_iff positive]

theorem length_abs (v : Vec2) : (⟨|v.x|, |v.y|⟩ : Vec2).length = v.length := by
  simp only [length, Rat.cast_abs, sq_abs]

theorem length_neg (v : Vec2) : (-v).length = v.length := by
  simp only [length, neg_x, neg_y, Rat.cast_neg, neg_sq]

end Vec2

/-- One coordinate comes before another; `touching` says whether it may be the same. -/
def Precedes (touching : Bool) (first second : ℚ) : Prop :=
  if touching then first ≤ second else first < second

instance (touching : Bool) (first second : ℚ) : Decidable (Precedes touching first second) :=
  inferInstanceAs (Decidable (if touching then _ else _))

theorem precedes_of_lt {touching : Bool} {first second : ℚ} (before : first < second) :
    Precedes touching first second := by
  rw [Precedes]
  split
  · exact before.le
  · exact before

/-- Two rectangles intersect; `touching` says whether a common edge is enough. -/
def Rect.Intersects (touching : Bool) (first second : Rect) : Prop :=
  (Precedes touching first.x (second.x + second.w) ∧
      Precedes touching second.x (first.x + first.w)) ∧
    Precedes touching first.y (second.y + second.h) ∧
      Precedes touching second.y (first.y + first.h)

instance (touching : Bool) (first second : Rect) : Decidable (first.Intersects touching second) :=
  inferInstanceAs (Decidable ((_ ∧ _) ∧ _ ∧ _))

/-- `Vec2()`, `v.Length() > bound` and `Rect::Overlaps`. -/
structure Engine where
  vec2 : Vec2
  lengthExceeds : Vec2 → ℚ → Bool
  overlaps : Rect → Rect → Bool

namespace Engine

/-- `Vec2()` is the origin. -/
def ZeroInitialises (engine : Engine) : Prop :=
  engine.vec2 = ⟨0, 0⟩

/-- `Length` is the Euclidean length. -/
def MeasuresLength (engine : Engine) : Prop :=
  ∀ v bound, engine.lengthExceeds v bound = true ↔ (bound : ℝ) < v.length

/-- `Overlaps` is the intersection test. -/
def TestsIntersection (touching : Bool) (engine : Engine) : Prop :=
  ∀ first second, engine.overlaps first second = true ↔ first.Intersects touching second

/-- An engine that calculates exactly. -/
def exact (touching : Bool) : Engine where
  vec2 := ⟨0, 0⟩
  lengthExceeds v bound := bound < 0 || bound ^ 2 < v.x ^ 2 + v.y ^ 2
  overlaps first second := first.Intersects touching second

theorem zeroInitialises_exact (touching : Bool) : (exact touching).ZeroInitialises :=
  rfl

theorem measuresLength_exact (touching : Bool) : (exact touching).MeasuresLength := by
  intro v bound
  rw [exact, Bool.or_eq_true, decide_eq_true_iff, decide_eq_true_iff]
  by_cases negative : bound < 0
  · have short : (bound : ℝ) < v.length :=
      lt_of_lt_of_le (by exact_mod_cast negative) (Real.sqrt_nonneg _)
    exact iff_of_true (.inl negative) short
  · rw [or_iff_right negative, v.lt_length_iff (not_lt.mp negative)]

theorem testsIntersection_exact (touching : Bool) :
    (exact touching).TestsIntersection touching :=
  fun _ _ => decide_eq_true_iff

end Engine

/-- What components ask of their game object: where it is, in its layer and in the
world, how it is drawn, and the dimensions of its texture, if it has one. -/
structure GameObject where
  position : Vec2
  worldPosition : Vec2
  pivot : Vec2
  scale : Vec2
  texture : Option Vec2
  deriving DecidableEq

end LegendOfStealth.Geometry
