import LegendOfStealth.Client.LightSource
import LegendOfStealth.Client.ShadowShape
import LegendOfStealth.Library.EraseLoop
import LegendOfStealth.Library.FallibleFold

/-!
# The shadow layer

`ShadowLayer` keeps the light sources and the shadow casters of a level by pointer and
draws them: for each light that is on the screen, the shadows of the casters that it
hits.  What the pointers point to is a parameter.

Removing walks a vector and erases in place.  `RemoveLightSource` takes the bound of its
loop from the vector of the casters.
-/

namespace LegendOfStealth.Shadow

open LegendOfStealth.Library LegendOfStealth.Geometry
open LegendOfStealth.Light (LightSource)

/-- A light source and its game object. -/
structure AttachedLight where
  light : LightSource
  object : GameObject
  deriving DecidableEq

namespace AttachedLight

/-- `GetLightRadius`. -/
def getLightRadius (source : AttachedLight) : ℚ :=
  source.light.properties.radius

/-- `LightSource::GetAABB`. -/
def getAABB (source : AttachedLight) : Rect :=
  let p := source.object.position
  let rad := source.getLightRadius
  ⟨p.x - rad, p.y - rad, rad * 2, rad * 2⟩

end AttachedLight

/-- `ShadowLayer`, with the pointers that it keeps. -/
structure ShadowLayer (Light Caster : Type) where
  lightSources : List Light
  shadowCasters : List Caster
  deriving DecidableEq

namespace ShadowLayer

variable {Light Caster : Type}

/-- `ShadowLayer::ShadowLayer`. -/
def new : ShadowLayer Light Caster :=
  ⟨[], []⟩

/-! ## Registries -/

/-- `AddLightSource`. -/
def addLightSource (obj : Light) (layer : ShadowLayer Light Caster) : ShadowLayer Light Caster :=
  { layer with lightSources := layer.lightSources ++ [obj] }

/-- `AddShadowCaster`. -/
def addShadowCaster (obj : Caster) (layer : ShadowLayer Light Caster) :
    ShadowLayer Light Caster :=
  { layer with shadowCasters := layer.shadowCasters ++ [obj] }

/-- `RemoveLightSource`; `none` if an index is outside the vector.  The loop is bounded by
the number of casters. -/
def removeLightSource [DecidableEq Light] (obj : Light) (layer : ShadowLayer Light Caster) :
    Option (ShadowLayer Light Caster) :=
  (eraseAll (fun _ => layer.shadowCasters.length) obj layer.lightSources).map fun lightSources =>
    { layer with lightSources }

/-- `RemoveShadowCaster`; `none` if an index is outside the vector. -/
def removeShadowCaster [DecidableEq Caster] (obj : Caster) (layer : ShadowLayer Light Caster) :
    Option (ShadowLayer Light Caster) :=
  (eraseAll List.length obj layer.shadowCasters).map fun shadowCasters =>
    { layer with shadowCasters }

/-- A call that changes a registry. -/
inductive Call (Light Caster : Type) where
  | addLightSource (obj : Light)
  | removeLightSource (obj : Light)
  | addShadowCaster (obj : Caster)
  | removeShadowCaster (obj : Caster)

section Registries

variable [DecidableEq Light] [DecidableEq Caster]

/-- What a call does. -/
def Call.apply : Call Light Caster → ShadowLayer Light Caster → Option (ShadowLayer Light Caster)
  | .addLightSource obj, layer => some (layer.addLightSource obj)
  | .removeLightSource obj, layer => layer.removeLightSource obj
  | .addShadowCaster obj, layer => some (layer.addShadowCaster obj)
  | .removeShadowCaster obj, layer => layer.removeShadowCaster obj

/-- What a call is for: an added object comes last, and a removed one is filtered out. -/
def Call.expected : Call Light Caster → ShadowLayer Light Caster → ShadowLayer Light Caster
  | .addLightSource obj, layer => ⟨layer.lightSources ++ [obj], layer.shadowCasters⟩
  | .removeLightSource obj, layer =>
      ⟨layer.lightSources.filter (· ≠ obj), layer.shadowCasters⟩
  | .addShadowCaster obj, layer => ⟨layer.lightSources, layer.shadowCasters ++ [obj]⟩
  | .removeShadowCaster obj, layer =>
      ⟨layer.lightSources, layer.shadowCasters.filter (· ≠ obj)⟩

/-- The layer, unless an index was outside a vector, and what it should be. -/
structure Registry (Light Caster : Type) where
  layer : Option (ShadowLayer Light Caster)
  expected : ShadowLayer Light Caster

namespace Registry

/-- Before the first call. -/
def start : Registry Light Caster :=
  ⟨some new, new⟩

/-- One call. -/
def step : Step (Call Light Caster) (Registry Light Caster) :=
  fun call registry => some ⟨registry.layer.bind call.apply, call.expected registry.expected⟩

/-- No index was outside a vector, and both lists are what they should be. -/
def Kept (registry : Registry Light Caster) : Prop :=
  registry.layer = some registry.expected

instance (registry : Registry Light Caster) : Decidable registry.Kept :=
  inferInstanceAs (Decidable (_ = _))

/-- A light source is removed while the layer has at least as many other light sources as
casters, and at every place where it is kept, fewer other light sources than casters
come before it. -/
def Reaches (registry : Registry Light Caster) : Call Light Caster → Prop
  | .removeLightSource obj =>
      registry.expected.shadowCasters.length ≤
          (registry.expected.lightSources.filter (· ≠ obj)).length ∧
        ∀ before after, registry.expected.lightSources = before ++ obj :: after →
          (before.filter (· ≠ obj)).length < registry.expected.shadowCasters.length
  | _ => True

/-- One call on lists that are what they should be. -/
theorem apply_eq_expected_iff (registry : Registry Light Caster) (call : Call Light Caster) :
    call.apply registry.expected = some (call.expected registry.expected) ↔
      registry.Reaches call := by
  cases call with
  | addLightSource obj => exact iff_of_true rfl trivial
  | addShadowCaster obj => exact iff_of_true rfl trivial
  | removeShadowCaster obj =>
      refine iff_of_true ?_ trivial
      rw [Call.apply, removeShadowCaster, eraseAll_length]
      rfl
  | removeLightSource obj =>
      refine Iff.trans ?_ (eraseAll_const_eq_others_iff obj registry.expected.lightSources
        registry.expected.shadowCasters.length)
      rw [Call.apply, removeLightSource, Call.expected, Option.map_eq_some_iff]
      constructor
      · rintro ⟨lightSources, erased, same⟩
        rw [erased, (ShadowLayer.mk.inj same).1]
        rfl
      · exact fun erased => ⟨_, erased, rfl⟩

/-- Light and caster registries: in every state of a run no index is outside a vector and
both lists are what they should be, exactly if every removal of a light source reaches
all its places and stays inside. -/
theorem always_kept_iff (calls : List (Call Light Caster)) :
    Always step Kept calls start ↔ Meets step Reaches calls start := by
  apply always_iff_meets fun _ => True
  · rintro registry call next - kept stepped
    cases stepped
    refine ⟨trivial, ?_⟩
    rw [Kept] at kept ⊢
    rw [kept, Option.bind_some]
    exact registry.apply_eq_expected_iff call
  · trivial
  · rfl

/-- Without casters a light source stays on its list when it is removed. -/
theorem not_kept_alone :
    ¬ ∀ (Light Caster : Type) [DecidableEq Light] [DecidableEq Caster]
      (calls : List (Call Light Caster)), Always step Kept calls start := by
  intro claimed
  have always := claimed Nat Nat [.addLightSource 0, .removeLightSource 0]
  have kept := always.last rfl
  exact absurd kept (by decide)

end Registry

end Registries

/-! ## Drawing -/

/-- The part of the level that is on the screen. -/
def visibleRect (layerPosition : Vec2) : Rect :=
  ⟨-layerPosition.x, -layerPosition.y, 1280, 720⟩

/-- `ShouldDrawLight`, when the game layer is at a position. -/
def shouldDrawLight (engine : Engine) (layerPosition : Vec2) (source : AttachedLight) : Bool :=
  let lp := source.object.position
  let rad := source.getLightRadius
  let l : Rect := ⟨lp.x - rad, lp.y - rad, rad, rad⟩
  engine.overlaps l (visibleRect layerPosition)

/-- `WillLightHitCaster`; `none` if the caster has no first vertex. -/
def willLightHitCaster (engine : Engine) (source : AttachedLight) (attached : AttachedCaster) :
    Option Bool :=
  let lp := source.object.position
  let rad := source.getLightRadius
  let l : Rect := ⟨lp.x - rad, lp.y - rad, rad * 2, rad * 2⟩
  (attached.caster.getAABB attached.object).map fun c => engine.overlaps l c

/-- The vector `d` of `GetShadowVertices`, for a vertex and the position of the light. -/
def projected (engine : Engine) (p vertex : Vec2) : Vec2 :=
  let d : Vec2 := ⟨engine.vec2.x + (vertex.x - p.x), engine.vec2.y + (vertex.y - p.y)⟩
  ⟨d.x * 1000, d.y * 1000⟩

/-- One turn of the innermost loop of `GetShadowVertices`; `none` if the index is outside
the shape. -/
def fillQuad (engine : Engine) (shape : List Vec2) (p : Vec2) (j : Nat) (quad : List Vec2)
    (k : Nat) : Option (List Vec2) :=
  shape[(k + j) % shape.length]?.map fun vertex =>
    (quad.set k vertex).set (3 - k) (projected engine p vertex)

/-- The quad that is pushed for one edge of a shape. -/
def quad (engine : Engine) (shape : List Vec2) (p : Vec2) (j : Nat) : Option (List Vec2) :=
  (List.range 2).foldlM (fillQuad engine shape p j) (List.replicate 4 engine.vec2)

/-- One turn of the loop over the edges. -/
def pushQuad (engine : Engine) (shape : List Vec2) (p : Vec2) (shadow : List Vec2) (j : Nat) :
    Option (List Vec2) :=
  (quad engine shape p j).map fun quad => shadow ++ quad

section Casters

variable [DecidableEq Caster]

/-- One turn of the loop of `GetShadowVertices` over the casters.  `GetShadowShape` changes
the caster that is behind the pointer. -/
def castShadow (engine : Engine) (source : AttachedLight)
    (state : List Vec2 × (Caster → AttachedCaster)) (obj : Caster) :
    Option (List Vec2 × (Caster → AttachedCaster)) := do
  let attached := state.2 obj
  if !(← willLightHitCaster engine source attached) then some state
  else
    let (shape, caster) ← attached.caster.getShadowShape engine attached.object
    let p := source.object.worldPosition
    let shadow ← (List.range shape.length).foldlM (pushQuad engine shape p) state.1
    some (shadow, Function.update state.2 obj { attached with caster })

/-- `GetShadowVertices`; `none` if a vector is indexed outside its bounds. -/
def getShadowVertices (engine : Engine) (source : AttachedLight)
    (casters : Caster → AttachedCaster) (layer : ShadowLayer Light Caster) :
    Option (List Vec2 × (Caster → AttachedCaster)) :=
  layer.shadowCasters.foldlM (castShadow engine source) ([], casters)

/-- One turn of the loop of `Render`: a light that should be drawn is drawn with its
shadows. -/
def renderSource (engine : Engine) (layerPosition : Vec2) (lights : Light → AttachedLight)
    (layer : ShadowLayer Light Caster)
    (state : List (Light × List Vec2) × (Caster → AttachedCaster)) (obj : Light) :
    Option (List (Light × List Vec2) × (Caster → AttachedCaster)) :=
  if shouldDrawLight engine layerPosition (lights obj) then
    (layer.getShadowVertices engine (lights obj) state.2).map fun result =>
      (state.1 ++ [(obj, result.1)], result.2)
  else some state

/-- `Render`: the lights that are drawn, each with the vertices of its shadows. -/
def render (engine : Engine) (layerPosition : Vec2) (lights : Light → AttachedLight)
    (casters : Caster → AttachedCaster) (layer : ShadowLayer Light Caster) :
    Option (List (Light × List Vec2) × (Caster → AttachedCaster)) :=
  layer.lightSources.foldlM (layer.renderSource engine layerPosition lights) ([], casters)

end Casters

/-! ## Culling -/

/-- The rectangle of the light overlaps the screen. -/
def Touches (engine : Engine) (layerPosition : Vec2) (source : AttachedLight) : Prop :=
  engine.overlaps source.getAABB (visibleRect layerPosition) = true

instance (engine : Engine) (layerPosition : Vec2) (source : AttachedLight) :
    Decidable (Touches engine layerPosition source) :=
  inferInstanceAs (Decidable (_ = true))

/-- The centre of the light is neither left of the screen nor below it. -/
def Centred (touching : Bool) (layerPosition : Vec2) (source : AttachedLight) : Prop :=
  Precedes touching (visibleRect layerPosition).x source.object.position.x ∧
    Precedes touching (visibleRect layerPosition).y source.object.position.y

instance (touching : Bool) (layerPosition : Vec2) (source : AttachedLight) :
    Decidable (Centred touching layerPosition source) :=
  inferInstanceAs (Decidable (_ ∧ _))

section Culling

variable {engine : Engine} {touching : Bool}

/-- `ShouldDrawLight` looks at the lower left quarter of the light. -/
theorem shouldDrawLight_iff (tests : engine.TestsIntersection touching) (layerPosition : Vec2)
    (source : AttachedLight) :
    shouldDrawLight engine layerPosition source = true ↔
      (Precedes touching (source.object.position.x - source.getLightRadius)
          ((visibleRect layerPosition).x + 1280) ∧
        Precedes touching (source.object.position.y - source.getLightRadius)
          ((visibleRect layerPosition).y + 720)) ∧ Centred touching layerPosition source := by
  rw [shouldDrawLight, tests, Rect.Intersects, Centred]
  simp only [sub_add_cancel]
  exact and_and_and_comm

/-- A light that touches the screen is drawn exactly if its centre is in reach. -/
theorem shouldDrawLight_iff_of_touches (tests : engine.TestsIntersection touching)
    {layerPosition : Vec2} {source : AttachedLight}
    (touches : Touches engine layerPosition source) :
    shouldDrawLight engine layerPosition source = true ↔
      Centred touching layerPosition source := by
  rw [shouldDrawLight_iff tests]
  rcases (tests _ _).mp touches with ⟨⟨right, -⟩, top, -⟩
  exact and_iff_right ⟨right, top⟩

/-- `Render` draws the lights that should be drawn, in order. -/
theorem map_fst_render [DecidableEq Caster] {layerPosition : Vec2}
    {lights : Light → AttachedLight} {casters after : Caster → AttachedCaster}
    {layer : ShadowLayer Light Caster} {drawn : List (Light × List Vec2)}
    (rendered : layer.render engine layerPosition lights casters = some (drawn, after)) :
    drawn.map Prod.fst =
      layer.lightSources.filter fun obj => shouldDrawLight engine layerPosition (lights obj) := by
  let done (before : List Light) (state : List (Light × List Vec2) × (Caster → AttachedCaster)) :
      Prop :=
    state.1.map Prod.fst =
      before.filter fun obj => shouldDrawLight engine layerPosition (lights obj)
  have turn : ∀ obj ∈ layer.lightSources, ∀ before state next, done before state →
      layer.renderSource engine layerPosition lights state obj = some next →
        done (before ++ [obj]) next := by
    intro obj _ before state next drawnBefore turned
    rw [renderSource] at turned
    split at turned
    · rename_i draws
      rcases Option.map_eq_some_iff.mp turned with ⟨result, -, rfl⟩
      simpa [done, List.filter_append, draws] using drawnBefore
    · rename_i skips
      cases turned
      simpa [done, List.filter_append, skips] using drawnBefore
  exact done_of_foldlM done rfl turn rendered

/-- Culling: of the lights that touch the screen, `ShouldDrawLight` accepts and `Render`
draws exactly those whose centre is neither left of the screen nor below it. -/
theorem draws_iff_centred [DecidableEq Caster] (tests : engine.TestsIntersection touching)
    (layerPosition : Vec2) (lights : Light → AttachedLight) (obj : Light) :
    ((Touches engine layerPosition (lights obj) →
          shouldDrawLight engine layerPosition (lights obj) = true) ↔
        (Touches engine layerPosition (lights obj) →
          Centred touching layerPosition (lights obj))) ∧
      ∀ (layer : ShadowLayer Light Caster) (casters after : Caster → AttachedCaster)
        (drawn : List (Light × List Vec2)), obj ∈ layer.lightSources →
        layer.render engine layerPosition lights casters = some (drawn, after) →
          ((Touches engine layerPosition (lights obj) → obj ∈ drawn.map Prod.fst) ↔
            (Touches engine layerPosition (lights obj) →
              Centred touching layerPosition (lights obj))) := by
  have exactly : Touches engine layerPosition (lights obj) →
      (shouldDrawLight engine layerPosition (lights obj) = true ↔
        Centred touching layerPosition (lights obj)) :=
    shouldDrawLight_iff_of_touches tests
  refine ⟨forall_congr' exactly, ?_⟩
  intro layer casters after drawn member rendered
  rw [map_fst_render rendered, List.mem_filter, and_iff_right member]
  exact forall_congr' exactly

end Culling

/-- A light in the middle of the screen. -/
def middle : AttachedLight :=
  ⟨⟨none, none, ⟨true, 256, ⟨1, 1, 1, 1⟩⟩⟩, ⟨⟨640, 360⟩, ⟨640, 360⟩, ⟨0, 0⟩, ⟨1, 1⟩, none⟩⟩

/-- It touches the screen and is drawn. -/
theorem draws_middle :
    Touches (.exact false) ⟨0, 0⟩ middle ∧
      (Touches (.exact false) ⟨0, 0⟩ middle →
        shouldDrawLight (.exact false) ⟨0, 0⟩ middle = true) := by
  have exactly := (@draws_iff_centred Unit Unit _ _ _ (Engine.testsIntersection_exact false)
    ⟨0, 0⟩ (fun _ => middle) ()).1
  exact ⟨by decide +kernel, exactly.mpr fun _ => by decide +kernel⟩

/-- The same light, half over the left edge. -/
theorem not_draws_left :
    ¬ ∀ (engine : Engine) (touching : Bool), engine.TestsIntersection touching →
      ∀ (layerPosition : Vec2) (source : AttachedLight),
        Touches engine layerPosition source →
          shouldDrawLight engine layerPosition source = true := by
  intro claimed
  have draws := claimed (.exact false) false (Engine.testsIntersection_exact false) ⟨-700, 0⟩
    middle (by decide +kernel)
  exact absurd draws (by decide +kernel)

end ShadowLayer

end LegendOfStealth.Shadow
