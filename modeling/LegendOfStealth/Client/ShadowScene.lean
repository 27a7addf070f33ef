import LegendOfStealth.Client.ShadowVertices

/-!
# Shadow casters over time

A caster gets its vertices from `SetShadowRectangle`, or from its texture when its shape
is asked for.  `GetShadowVertices` asks for the bounds of a caster first, which need the
vertices, and for the shape only if the light hits the bounds.
-/

namespace LegendOfStealth.Shadow

open LegendOfStealth.Library LegendOfStealth.Geometry

/-- The casters, the layer that draws them, and the casters that have been given a
rectangle or been asked for their shape.  After a vector has been indexed outside its
bounds the scene is faulted. -/
structure Scene (Light Caster : Type) where
  casters : Caster → AttachedCaster
  layer : ShadowLayer Light Caster
  shaped : Finset Caster
  faulted : Bool

namespace Scene

/-- What happens in a scene. -/
inductive Event (Caster : Type) where
  | setShadowRectangle (obj : Caster) (srect : Rect)
  | getShadowShape (obj : Caster)
  | changeObject (obj : Caster) (object : GameObject)
  | addShadowCaster (obj : Caster)
  | removeShadowCaster (obj : Caster)
  | getShadowVertices (source : AttachedLight)

variable {Light Caster : Type} [DecidableEq Caster]

/-- Casters that have just been added to their objects, and an empty layer. -/
def start (objects : Caster → GameObject) : Scene Light Caster where
  casters obj := ⟨.new, objects obj⟩
  layer := .new
  shaped := ∅
  faulted := false

/-- The scene with another caster behind a pointer. -/
def put (obj : Caster) (attached : AttachedCaster) (scene : Scene Light Caster) :
    Scene Light Caster :=
  { scene with casters := Function.update scene.casters obj attached }

/-- The scene after a caster has been given a rectangle or been asked for its shape. -/
def note (obj : Caster) (scene : Scene Light Caster) : Scene Light Caster :=
  { scene with shaped := insert obj scene.shaped }

/-- One event.  A `GetShadowShape` call that dereferences a missing texture has no
successor. -/
def step (engine : Engine) : Step (Event Caster) (Scene Light Caster)
  | .setShadowRectangle obj srect, scene =>
      some ((scene.put obj ((scene.casters obj).setShadowRectangle srect)).note obj)
  | .getShadowShape obj, scene =>
      ((scene.casters obj).caster.getShadowShape engine (scene.casters obj).object).map
        fun result => (scene.put obj { scene.casters obj with caster := result.2 }).note obj
  | .changeObject obj object, scene =>
      some (scene.put obj { scene.casters obj with object })
  | .addShadowCaster obj, scene =>
      some { scene with layer := scene.layer.addShadowCaster obj }
  | .removeShadowCaster obj, scene =>
      (scene.layer.removeShadowCaster obj).map fun layer => { scene with layer }
  | .getShadowVertices source, scene =>
      some (match scene.layer.getShadowVertices engine source scene.casters with
        | some (_, casters) => { scene with casters }
        | none => { scene with faulted := true })

/-- No vector has been indexed outside its bounds. -/
def Intact (scene : Scene Light Caster) : Prop :=
  scene.faulted = false

instance (scene : Scene Light Caster) : Decidable scene.Intact :=
  inferInstanceAs (Decidable (_ = _))

/-- When the shadow vertices are asked for, every caster on the list has been given a
rectangle or been asked for its shape. -/
def AllShaped (scene : Scene Light Caster) : Event Caster → Prop
  | .getShadowVertices _ => ∀ obj ∈ scene.layer.shadowCasters, obj ∈ scene.shaped
  | _ => True

/-- The casters with vertices are those that have been given a rectangle or been asked
for their shape. -/
def Tracked (scene : Scene Light Caster) : Prop :=
  ∀ obj, (scene.casters obj).caster.localVerts ≠ [] ↔ obj ∈ scene.shaped

section Steps

variable {engine : Engine} {scene next : Scene Light Caster} {event : Event Caster}

theorem casters_put (obj other : Caster) (attached : AttachedCaster) (scene : Scene Light Caster) :
    (scene.put obj attached).casters other =
      if other = obj then attached else scene.casters other :=
  Function.update_apply ..

theorem Tracked.note (tracked : scene.Tracked) {obj : Caster} {attached : AttachedCaster}
    (shaped : attached.caster.localVerts ≠ []) : ((scene.put obj attached).note obj).Tracked := by
  intro other
  rw [Scene.note, Finset.mem_insert, casters_put]
  split
  · rename_i this
    exact iff_of_true shaped (.inl this)
  · rename_i this
    rw [or_iff_right this]
    exact tracked other

omit [DecidableEq Caster] in
theorem Tracked.congr (tracked : scene.Tracked) (shaped : next.shaped = scene.shaped)
    (same : ∀ obj, (next.casters obj).caster.localVerts = (scene.casters obj).caster.localVerts) :
    next.Tracked := by
  intro obj
  rw [same, shaped]
  exact tracked obj

theorem Tracked.step (tracked : scene.Tracked)
    (stepped : Scene.step engine event scene = some next) : next.Tracked := by
  cases event with
  | setShadowRectangle obj srect =>
      cases stepped
      exact tracked.note (List.cons_ne_nil _ _)
  | getShadowShape obj =>
      rcases Option.map_eq_some_iff.mp stepped with ⟨result, shape, rfl⟩
      exact tracked.note (ShadowCaster.localVerts_getShadowShape_ne_nil shape)
  | changeObject obj object =>
      cases stepped
      refine tracked.congr rfl ?_
      intro other
      rw [casters_put]
      split
      · rename_i this
        rw [this]
      · rfl
  | addShadowCaster obj =>
      cases stepped
      exact tracked
  | removeShadowCaster obj =>
      rcases Option.map_eq_some_iff.mp stepped with ⟨layer, -, rfl⟩
      exact tracked
  | getShadowVertices source =>
      cases stepped
      cases returned : scene.layer.getShadowVertices engine source scene.casters with
      | none => exact tracked
      | some result =>
          refine tracked.congr rfl ?_
          intro obj
          exact ((ShadowLayer.refreshed_of_getShadowVertices returned).1 obj).localVerts

/-- One event in a scene that is intact. -/
theorem Tracked.intact_iff (tracked : scene.Tracked) (intact : scene.Intact)
    (stepped : Scene.step engine event scene = some next) :
    next.Intact ↔ scene.AllShaped event := by
  cases event with
  | setShadowRectangle obj srect =>
      cases stepped
      exact iff_of_true intact trivial
  | getShadowShape obj =>
      rcases Option.map_eq_some_iff.mp stepped with ⟨result, -, rfl⟩
      exact iff_of_true intact trivial
  | changeObject obj object =>
      cases stepped
      exact iff_of_true intact trivial
  | addShadowCaster obj =>
      cases stepped
      exact iff_of_true intact trivial
  | removeShadowCaster obj =>
      rcases Option.map_eq_some_iff.mp stepped with ⟨layer, -, rfl⟩
      exact iff_of_true intact trivial
  | getShadowVertices source =>
      cases stepped
      have shaped : (scene.layer.getShadowVertices engine source scene.casters).isSome ↔
          scene.AllShaped (.getShadowVertices source) := by
        rw [ShadowLayer.isSome_getShadowVertices_iff]
        exact forall₂_congr fun obj _ => tracked obj
      rw [← shaped]
      cases scene.layer.getShadowVertices engine source scene.casters with
      | none => exact iff_of_false Bool.noConfusion Bool.noConfusion
      | some result => exact iff_of_true intact rfl

end Steps

/-- Casters without a rectangle: no run indexes a vertex list outside its bounds, exactly
if, whenever the shadow vertices are asked for, every caster on the list has been given a
rectangle or been asked for its shape. -/
theorem always_intact_iff (engine : Engine) (objects : Caster → GameObject)
    (events : List (Event Caster)) :
    Always (step engine) Intact events (start objects : Scene Light Caster) ↔
      Meets (step engine) AllShaped events (start objects : Scene Light Caster) := by
  apply always_iff_meets Tracked
  · intro scene event next tracked intact stepped
    exact ⟨tracked.step stepped, tracked.intact_iff intact stepped⟩
  · exact fun obj => iff_of_false (fun shaped => shaped rfl) (Finset.notMem_empty obj)
  · rfl

/-- A caster with a texture and no rectangle is not survived on the first frame. -/
theorem not_intact_first :
    ¬ ∀ (Light Caster : Type) [DecidableEq Caster] (engine : Engine)
      (objects : Caster → GameObject), (∀ obj, (objects obj).texture ≠ none) →
        ∀ events : List (Event Caster),
          Always (step engine) Intact events (start objects : Scene Light Caster) := by
  intro claimed
  let object : GameObject := ⟨⟨0, 0⟩, ⟨0, 0⟩, ⟨0, 0⟩, ⟨1, 1⟩, some ⟨64, 64⟩⟩
  have always := claimed Unit Unit (.exact false) (fun _ => object) (fun _ => Option.some_ne_none _)
    [.addShadowCaster (), .getShadowVertices (ShadowLayer.lightAt ⟨0, 0⟩)]
  have intact := always.last rfl
  exact absurd intact (by decide)

end Scene

end LegendOfStealth.Shadow
