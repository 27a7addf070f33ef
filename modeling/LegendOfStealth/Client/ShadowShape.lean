import LegendOfStealth.Client.ShadowCaster
import LegendOfStealth.Library.Transition
import Mathlib.Tactic.Linarith

/-!
# The shape that is cast

`GetShadowShape` calculates the global vertices again only when the game object has left
the remembered position by more than the threshold.  For a shape that was set as a
rectangle the error stays below the threshold, however the object moves.

A shape that is derived from the texture has the world position of its creation in its
local vertices, to which the current world position is added.
-/

namespace LegendOfStealth.Shadow

open LegendOfStealth.Library LegendOfStealth.Geometry

/-- A shadow caster and its game object. -/
structure AttachedCaster where
  caster : ShadowCaster
  object : GameObject
  deriving DecidableEq

namespace AttachedCaster

/-- What happens to a shadow caster. -/
inductive Action where
  | setShadowRectangle (srect : Rect)
  | move (worldPosition : Vec2)
  | getShadowShape

/-- `SetShadowRectangle`. -/
def setShadowRectangle (srect : Rect) (attached : AttachedCaster) : AttachedCaster :=
  { attached with
    caster := attached.caster.setShadowRectangle attached.object.worldPosition srect }

/-- One action.  A call that dereferences a missing texture has no successor. -/
def step (engine : Engine) : Step Action AttachedCaster
  | .setShadowRectangle srect, attached => some (attached.setShadowRectangle srect)
  | .move worldPosition, attached =>
      some { attached with object := { attached.object with worldPosition } }
  | .getShadowShape, attached =>
      (attached.caster.getShadowShape engine attached.object).map fun result =>
        { attached with caster := result.2 }

/-- `GetShadowShape` returns one vertex for each local vertex, in order, each within the
threshold of the local vertex at the current world position. -/
def Shows (engine : Engine) (attached : AttachedCaster) : Prop :=
  ∃ shape caster, attached.caster.getShadowShape engine attached.object = some (shape, caster) ∧
    List.Forall₂
      (fun v vertex => (vertex - (v + attached.object.worldPosition)).length ≤ threshold)
      attached.caster.localVerts shape

/-- The caster has a shape, and its global vertices fit the remembered position. -/
structure Shaped (attached : AttachedCaster) : Prop where
  shaped : attached.caster.localVerts ≠ []
  coherent : attached.caster.Coherent

section Coherence

variable {engine : Engine} {attached next : AttachedCaster}

theorem shaped_setShadowRectangle (srect : Rect) (attached : AttachedCaster) :
    Shaped (attached.setShadowRectangle srect) :=
  ⟨List.cons_ne_nil _ _, ShadowCaster.coherent_calculateGlobalVertices _ _⟩

theorem Shaped.step (shaped : Shaped attached) {action : Action}
    (stepped : AttachedCaster.step engine action attached = some next) : Shaped next := by
  cases action with
  | setShadowRectangle srect =>
      cases stepped
      exact shaped_setShadowRectangle srect attached
  | move worldPosition =>
      cases stepped
      exact ⟨shaped.shaped, shaped.coherent⟩
  | getShadowShape =>
      rw [AttachedCaster.step, ShadowCaster.getShadowShape_of_shaped shaped.shaped] at stepped
      cases stepped
      refine ⟨?_, shaped.coherent.refresh⟩
      rw [ShadowCaster.localVerts_refresh]
      exact shaped.shaped

/-- What is returned is off by as much as the remembered position is. -/
theorem Shaped.shows (measures : engine.MeasuresLength) (shaped : Shaped attached) :
    Shows engine attached := by
  refine ⟨_, _, ShadowCaster.getShadowShape_of_shaped shaped.shaped, ?_⟩
  have vertices : (attached.caster.refresh engine attached.object.worldPosition).Coherent :=
    shaped.coherent.refresh
  rw [ShadowCaster.Coherent, ShadowCaster.localVerts_refresh] at vertices
  rw [vertices, List.forall₂_map_right_iff, List.forall₂_same]
  intro v _
  rw [Vec2.add_sub_add_left, Vec2.length_neg]
  exact ShadowCaster.length_sub_calcPos_refresh_le measures

end Coherence

/-- Cached shadows: from the first rectangle on, whatever is set and however the object
moves, the shape that is returned is within the threshold of the true one. -/
theorem always_shows {engine : Engine} (measures : engine.MeasuresLength)
    (attached : AttachedCaster) (srect : Rect) (actions : List Action) :
    Always (step engine) (Shows engine) actions (attached.setShadowRectangle srect) := by
  have always : Always (step engine) Shaped actions (attached.setShadowRectangle srect) :=
    always_of_preserved (fun shaped stepped => shaped.step stepped) actions
      (shaped_setShadowRectangle srect attached)
  exact always.mono fun _ shaped => shaped.shows measures

/-- A rectangle is set on a caster that was made somewhere else. -/
theorem always_shows_unit :
    Always (step (.exact false)) (Shows (.exact false))
      [.move ⟨1 / 2000, 0⟩, .getShadowShape, .move ⟨1 / 1000, 0⟩, .getShadowShape]
      (setShadowRectangle ⟨0, 0, 64, 64⟩ ⟨.new, ⟨⟨0, 0⟩, ⟨0, 0⟩, ⟨0, 0⟩, ⟨1, 1⟩, none⟩⟩) :=
  always_shows (Engine.measuresLength_exact false) _ _ _

end AttachedCaster

/-! ## Shapes that are derived -/

namespace ShadowCaster

/-- The rectangle of the object's sprite. -/
def spriteRect (object : GameObject) (dimensions : Vec2) : Rect where
  x := object.worldPosition.x - object.pivot.x * (dimensions.x * object.scale.x)
  y := object.worldPosition.y - object.pivot.y * (dimensions.y * object.scale.y)
  w := dimensions.x * object.scale.x
  h := dimensions.y * object.scale.y

/-- The object at a world position, with a texture. -/
def placed (object : GameObject) (dimensions worldPosition : Vec2) : GameObject :=
  { object with worldPosition, texture := some dimensions }

/-- One `GetShadowShape` call, when the object has come to a world position. -/
def look (engine : Engine) (object : GameObject) (dimensions : Vec2) : Step Vec2 ShadowCaster :=
  fun worldPosition caster =>
    (caster.getShadowShape engine (placed object dimensions worldPosition)).map Prod.snd

/-- A call creates the shape, or the object has moved by more than the threshold since
the vertices were calculated. -/
def Due (caster : ShadowCaster) (worldPosition : Vec2) : Prop :=
  caster.localVerts = [] ∨ (threshold : ℝ) < (worldPosition - caster.calcPos).length

/-- A call that is due returns the corners of the sprite where the object is. -/
def Sits (engine : Engine) (object : GameObject) (dimensions : Vec2) (caster : ShadowCaster)
    (worldPosition : Vec2) : Prop :=
  caster.Due worldPosition → ∃ after,
    caster.getShadowShape engine (placed object dimensions worldPosition) =
      some ((spriteRect (placed object dimensions worldPosition) dimensions).corners, after)

section Derived

variable {engine : Engine} {object : GameObject} {dimensions first worldPosition : Vec2}
  {caster : ShadowCaster}

theorem spriteRect_placed (object : GameObject) (dimensions worldPosition : Vec2) :
    spriteRect (placed object dimensions worldPosition) dimensions =
      (spriteRect (placed object dimensions ⟨0, 0⟩) dimensions).translate worldPosition := by
  simp only [spriteRect, placed, Rect.translate, Rect.mk.injEq, and_true]
  constructor
  · ring
  · ring

/-- The sprite where the shape was created, moved to where the object is, is the sprite
there exactly if the shape was created at the origin. -/
theorem corners_translate_spriteRect_iff (object : GameObject)
    (dimensions first worldPosition : Vec2) :
    ((spriteRect (placed object dimensions first) dimensions).translate worldPosition).corners =
        (spriteRect (placed object dimensions worldPosition) dimensions).corners ↔
      first = ⟨0, 0⟩ := by
  rw [Rect.corners_injective.eq_iff, spriteRect_placed object dimensions first,
    spriteRect_placed object dimensions worldPosition, Rect.translate_comm,
    Rect.translate_eq_self_iff]

/-- The shape was created at a world position. -/
structure CreatedAt (object : GameObject) (dimensions first : Vec2) (caster : ShadowCaster) :
    Prop where
  localVerts :
    caster.localVerts = (spriteRect (placed object dimensions first) dimensions).corners
  coherent : caster.Coherent

/-- The global vertices of a shape that was created at one position and calculated at
another. -/
theorem CreatedAt.globalVerts (created : CreatedAt object dimensions first caster)
    (calculated : caster.calcPos = worldPosition) :
    caster.globalVerts =
      ((spriteRect (placed object dimensions first) dimensions).translate
        worldPosition).corners := by
  rw [created.coherent, created.localVerts, calculated, Rect.map_add_corners]

theorem getShadowShape_new (engine : Engine) (object : GameObject) (dimensions first : Vec2) :
    ∃ after, CreatedAt object dimensions first after ∧ after.calcPos = first ∧
      new.getShadowShape engine (placed object dimensions first) =
        some (after.globalVerts, after) := by
  let created : ShadowCaster :=
    { new with localVerts := (spriteRect (placed object dimensions first) dimensions).corners }
  have fresh : created.globalVerts = [] := rfl
  obtain ⟨coherent, calculated⟩ : (created.refresh engine first).Coherent ∧
      (created.refresh engine first).calcPos = first := coherent_refresh_of_nil fresh
  exact ⟨created.refresh engine first, ⟨localVerts_refresh, coherent⟩, calculated, rfl⟩

theorem CreatedAt.getShadowShape (created : CreatedAt object dimensions first caster)
    (engine : Engine) (worldPosition : Vec2) :
    ∃ after, CreatedAt object dimensions first after ∧
      (caster.isPositionDirty engine worldPosition = true → after.calcPos = worldPosition) ∧
        caster.getShadowShape engine (placed object dimensions worldPosition) =
          some (after.globalVerts, after) := by
  have shaped : caster.localVerts ≠ [] := by
    rw [created.localVerts]
    exact List.cons_ne_nil _ _
  refine ⟨caster.refresh engine worldPosition, ⟨?_, created.coherent.refresh⟩,
    calcPos_refresh_of_dirty, getShadowShape_of_shaped shaped⟩
  rw [localVerts_refresh, created.localVerts]

/-- A call that is due on a created shape returns the right corners exactly if the shape
was created at the origin. -/
theorem CreatedAt.sits (measures : engine.MeasuresLength)
    (created : CreatedAt object dimensions ⟨0, 0⟩ caster) (worldPosition : Vec2) :
    Sits engine object dimensions caster worldPosition := by
  intro due
  rcases created.getShadowShape engine worldPosition with ⟨after, still, calculated, returned⟩
  rcases due with shapeless | moved
  · rw [created.localVerts] at shapeless
    exact absurd shapeless (List.cons_ne_nil _ _)
  · have remembered := calculated ((isPositionDirty_iff measures).mpr moved)
    refine ⟨after, ?_⟩
    rw [returned, still.globalVerts remembered,
      (corners_translate_spriteRect_iff object dimensions ⟨0, 0⟩ worldPosition).mpr rfl]

/-- All later calls return, and on a shape that was created at the origin all those that
are due return the right corners. -/
theorem CreatedAt.run (measures : engine.MeasuresLength)
    (created : CreatedAt object dimensions first caster) (later : List Vec2) :
    (runActions (look engine object dimensions) later caster).isSome ∧
      (first = ⟨0, 0⟩ →
        Meets (look engine object dimensions) (Sits engine object dimensions) later caster) := by
  induction later generalizing caster with
  | nil => exact ⟨rfl, fun _ => trivial⟩
  | cons worldPosition rest ih =>
      rcases created.getShadowShape engine worldPosition with ⟨after, still, -, returned⟩
      have looked : look engine object dimensions worldPosition caster = some after := by
        rw [look, returned, Option.map_some]
      rcases ih still with ⟨returns, meets⟩
      constructor
      · rw [runActions, looked]
        exact returns
      · rintro rfl next stepped
        rw [looked] at stepped
        cases stepped
        exact ⟨created.sits measures worldPosition, meets rfl⟩

/-- Shapes from the texture: whenever the shape is created, and whenever the object has
moved by more than the threshold since, the vertices are the corners of the sprite,
exactly if the object was at the origin when the shape was created. -/
theorem meets_sits_iff {engine : Engine} (measures : engine.MeasuresLength) (object : GameObject)
    (dimensions first : Vec2) (later : List Vec2) :
    (runActions (look engine object dimensions) (first :: later) new).isSome ∧
      (Meets (look engine object dimensions) (Sits engine object dimensions) (first :: later) new ↔
        first = ⟨0, 0⟩) := by
  rcases getShadowShape_new engine object dimensions first with
    ⟨after, created, calculated, returned⟩
  have looked : look engine object dimensions first new = some after := by
    rw [look, returned, Option.map_some]
  rcases created.run measures later with ⟨returns, meets⟩
  rw [created.globalVerts calculated] at returned
  refine ⟨?_, ?_, ?_⟩
  · rw [runActions, looked]
    exact returns
  · intro all
    rcases (all after looked).1 (.inl rfl) with ⟨_, right⟩
    rw [returned, Option.some.injEq, Prod.mk.injEq] at right
    exact (corners_translate_spriteRect_iff object dimensions first first).mp right.1
  · rintro rfl next stepped
    rw [looked] at stepped
    cases stepped
    refine ⟨fun _ => ⟨after, ?_⟩, meets rfl⟩
    rw [returned, (corners_translate_spriteRect_iff object dimensions ⟨0, 0⟩ ⟨0, 0⟩).mpr rfl]

end Derived

/-- An object whose sprite is drawn around its position. -/
def centred : GameObject :=
  ⟨⟨0, 0⟩, ⟨0, 0⟩, ⟨1 / 2, 1 / 2⟩, ⟨1, 1⟩, none⟩

/-- It casts its shape at the origin and wherever it goes. -/
theorem meets_sits_centred :
    Meets (look (.exact false) centred ⟨64, 64⟩) (Sits (.exact false) centred ⟨64, 64⟩)
      [⟨0, 0⟩, ⟨100, 0⟩] new :=
  ((meets_sits_iff (Engine.measuresLength_exact false) centred ⟨64, 64⟩ ⟨0, 0⟩
    [⟨100, 0⟩]).2).mpr rfl

/-- Away from the origin the position is added twice. -/
theorem not_meets_sits_centred :
    ¬ ∀ (engine : Engine), engine.MeasuresLength →
      ∀ (object : GameObject) (dimensions first : Vec2) (later : List Vec2),
        Meets (look engine object dimensions) (Sits engine object dimensions) (first :: later)
          new := by
  intro claimed
  have all := claimed (.exact false) (Engine.measuresLength_exact false) centred ⟨64, 64⟩
    ⟨100, 0⟩ []
  rcases getShadowShape_new (.exact false) centred ⟨64, 64⟩ ⟨100, 0⟩ with
    ⟨after, created, calculated, returned⟩
  have looked : look (.exact false) centred ⟨64, 64⟩ ⟨100, 0⟩ new = some after := by
    rw [look, returned, Option.map_some]
  rcases (all after looked).1 (.inl rfl) with ⟨_, right⟩
  rw [returned, created.globalVerts calculated, Option.some.injEq, Prod.mk.injEq,
    corners_translate_spriteRect_iff] at right
  exact absurd right.1 (by decide)

end ShadowCaster

end LegendOfStealth.Shadow
