import LegendOfStealth.Client.Engine

/-!
# Shadow casters

A `ShadowCaster` keeps the corners of its shape in the coordinates of its game object,
and the same corners at the world position for which they were last calculated.
-/

namespace LegendOfStealth.Shadow

open LegendOfStealth.Geometry

/-- `ShadowCaster`. -/
structure ShadowCaster where
  localVerts : List Vec2
  globalVerts : List Vec2
  calcPos : Vec2
  deriving DecidableEq

/-- How far a game object may move before its vertices are calculated again. -/
def threshold : ℚ := 1 / 1000

namespace ShadowCaster

/-- `ShadowCaster::ShadowCaster`. -/
def new : ShadowCaster :=
  ⟨[], [], ⟨-1500, -1500⟩⟩

/-- `CalculateGlobalVertices`, for a game object at a world position. -/
def calculateGlobalVertices (worldPosition : Vec2) (caster : ShadowCaster) : ShadowCaster :=
  { caster with
    calcPos := worldPosition
    globalVerts := caster.localVerts.map fun v => ⟨v.x + worldPosition.x, v.y + worldPosition.y⟩ }

/-- `SetShadowRectangle`. -/
def setShadowRectangle (worldPosition : Vec2) (srect : Rect) (caster : ShadowCaster) :
    ShadowCaster :=
  calculateGlobalVertices worldPosition { caster with localVerts := srect.corners }

/-- `IsPositionDirty`. -/
def isPositionDirty (engine : Engine) (worldPosition : Vec2) (caster : ShadowCaster) : Bool :=
  engine.lengthExceeds
    ⟨|worldPosition.x - caster.calcPos.x|, |worldPosition.y - caster.calcPos.y|⟩ threshold

/-- `GetShadowRect`; `none` if there is no texture. -/
def getShadowRect (object : GameObject) : Option Rect :=
  object.texture.map fun dimensions =>
    let dim : Vec2 := ⟨dimensions.x * object.scale.x, dimensions.y * object.scale.y⟩
    let pos : Vec2 :=
      ⟨object.worldPosition.x - object.pivot.x * dim.x,
        object.worldPosition.y - object.pivot.y * dim.y⟩
    ⟨pos.x, pos.y, dim.x, dim.y⟩

/-- `CreateShadowVertices`. -/
def createShadowVertices (object : GameObject) (caster : ShadowCaster) : Option ShadowCaster :=
  (getShadowRect object).map fun r => { caster with localVerts := r.corners }

/-- The second half of `GetShadowShape`. -/
def refresh (engine : Engine) (worldPosition : Vec2) (caster : ShadowCaster) : ShadowCaster :=
  if caster.globalVerts.isEmpty || caster.isPositionDirty engine worldPosition then
    caster.calculateGlobalVertices worldPosition
  else caster

/-- `GetShadowShape`. -/
def getShadowShape (engine : Engine) (object : GameObject) (caster : ShadowCaster) :
    Option (List Vec2 × ShadowCaster) :=
  (if caster.localVerts.isEmpty then caster.createShadowVertices object else some caster).map
    fun caster =>
      let caster := caster.refresh engine object.worldPosition
      (caster.globalVerts, caster)

/-- The loop of `GetAABB` that finds the bottom left point. -/
def lowerBottomLeft (r : Rect) (v : Vec2) : Rect :=
  { r with
    x := if v.x < r.x then v.x else r.x
    y := if v.y < r.y then v.y else r.y }

/-- The loop of `GetAABB` that finds the size. -/
def growToTopRight (r : Rect) (v : Vec2) : Rect :=
  { r with
    w := if v.x > r.x + r.w then v.x - r.x else r.w
    h := if v.y > r.y + r.h then v.y - r.y else r.h }

/-- `GetAABB`; `none` if there is no first vertex. -/
def getAABB (object : GameObject) (caster : ShadowCaster) : Option Rect :=
  match caster.localVerts with
  | [] => none
  | v :: rest =>
      let r := rest.foldl lowerBottomLeft ⟨v.x, v.y, 0, 0⟩
      let r := (v :: rest).foldl growToTopRight r
      some { r with x := r.x + object.worldPosition.x, y := r.y + object.worldPosition.y }

/-- A rectangle is cast at the world position. -/
theorem globalVerts_setShadowRectangle (worldPosition : Vec2) (srect : Rect)
    (caster : ShadowCaster) :
    (caster.setShadowRectangle worldPosition srect).globalVerts =
      (srect.translate worldPosition).corners :=
  Rect.map_add_corners worldPosition srect

section Cache

variable {engine : Engine} {worldPosition : Vec2} {object : GameObject} {caster : ShadowCaster}

/-- The global vertices are the local ones at the remembered position. -/
def Coherent (caster : ShadowCaster) : Prop :=
  caster.globalVerts = caster.localVerts.map (· + caster.calcPos)

theorem coherent_calculateGlobalVertices (worldPosition : Vec2) (caster : ShadowCaster) :
    (caster.calculateGlobalVertices worldPosition).Coherent :=
  rfl

@[simp]
theorem localVerts_refresh :
    (caster.refresh engine worldPosition).localVerts = caster.localVerts := by
  rw [refresh]
  split <;> rfl

theorem Coherent.refresh (coherent : caster.Coherent) :
    (caster.refresh engine worldPosition).Coherent := by
  rw [ShadowCaster.refresh]
  split
  · exact coherent_calculateGlobalVertices worldPosition caster
  · exact coherent

theorem coherent_refresh_of_nil (fresh : caster.globalVerts = []) :
    (caster.refresh engine worldPosition).Coherent ∧
      (caster.refresh engine worldPosition).calcPos = worldPosition := by
  have empty : (caster.globalVerts.isEmpty ||
      caster.isPositionDirty engine worldPosition) = true := by simp [fresh]
  rw [ShadowCaster.refresh, if_pos empty]
  exact ⟨coherent_calculateGlobalVertices worldPosition caster, rfl⟩

/-- The position is dirty if it is further than the threshold from the remembered one. -/
theorem isPositionDirty_iff (measures : engine.MeasuresLength) :
    caster.isPositionDirty engine worldPosition = true ↔
      (threshold : ℝ) < (worldPosition - caster.calcPos).length := by
  rw [isPositionDirty, measures, ← Vec2.length_abs (worldPosition - caster.calcPos)]
  rfl

theorem refresh_refresh (engine : Engine) (worldPosition : Vec2) (caster : ShadowCaster) :
    (caster.refresh engine worldPosition).refresh engine worldPosition =
      caster.refresh engine worldPosition := by
  by_cases stale :
      (caster.globalVerts.isEmpty || caster.isPositionDirty engine worldPosition) = true
  · have calculated : caster.refresh engine worldPosition =
        caster.calculateGlobalVertices worldPosition := if_pos stale
    rw [calculated, ShadowCaster.refresh]
    split
    · rfl
    · rfl
  · have kept : caster.refresh engine worldPosition = caster := if_neg stale
    rw [kept, kept]

theorem calcPos_refresh_of_dirty (dirty : caster.isPositionDirty engine worldPosition = true) :
    (caster.refresh engine worldPosition).calcPos = worldPosition := by
  rw [ShadowCaster.refresh, dirty, Bool.or_true, if_pos rfl]
  rfl

/-- After a refresh the remembered position is no further away than the threshold. -/
theorem length_sub_calcPos_refresh_le (measures : engine.MeasuresLength) :
    (worldPosition - (caster.refresh engine worldPosition).calcPos).length ≤ threshold := by
  have same : (worldPosition - worldPosition).length ≤ threshold := by
    rw [Vec2.length_le_iff _ (by norm_num [threshold])]
    norm_num [threshold]
  rw [ShadowCaster.refresh]
  split
  · exact same
  · rename_i clean
    have near : ¬ caster.isPositionDirty engine worldPosition = true := by
      intro dirty
      exact clean (by rw [dirty, Bool.or_true])
    rwa [isPositionDirty_iff measures, not_lt] at near

theorem getShadowShape_of_shaped (shaped : caster.localVerts ≠ []) :
    caster.getShadowShape engine object =
      some ((caster.refresh engine object.worldPosition).globalVerts,
        caster.refresh engine object.worldPosition) := by
  have nonempty : ¬ caster.localVerts.isEmpty = true := by simpa using shaped
  rw [getShadowShape, if_neg nonempty]
  rfl

/-- A caster that has returned its shape has vertices. -/
theorem localVerts_getShadowShape_ne_nil {result : List Vec2 × ShadowCaster}
    (returned : caster.getShadowShape engine object = some result) :
    result.2.localVerts ≠ [] := by
  rcases Option.map_eq_some_iff.mp returned with ⟨shaped, created, rfl⟩
  rw [localVerts_refresh]
  split at created
  · rcases Option.map_eq_some_iff.mp created with ⟨r, -, rfl⟩
    exact List.cons_ne_nil _ _
  · rename_i nonempty
    cases created
    simpa using nonempty

theorem getAABB_eq_none_iff : caster.getAABB object = none ↔ caster.localVerts = [] := by
  rw [getAABB]
  split
  · rename_i none
    exact iff_of_true rfl none
  · rename_i some
    exact iff_of_false (Option.some_ne_none _) (some ▸ List.cons_ne_nil _ _)

theorem getAABB_congr {other : ShadowCaster} (same : other.localVerts = caster.localVerts) :
    other.getAABB object = caster.getAABB object := by
  rw [getAABB, getAABB, same]

end Cache

end ShadowCaster

end LegendOfStealth.Shadow
