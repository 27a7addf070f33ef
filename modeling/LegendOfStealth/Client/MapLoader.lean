import LegendOfStealth.Client.MapParser

/-!
# The map loader

`MapLoader` gives every shadow tile of a level a shadow caster and every wall tile a
static body.  Pixels are turned into metres on the way to the physics world.
-/

namespace LegendOfStealth.Map

open LegendOfStealth.Library LegendOfStealth.Geometry

namespace MapLoader

/-- The game object of `LoadShadowCaster`: a child of the shadow layer, which stands at
the origin. -/
def placedCaster (x y : Nat) : PlacedCaster :=
  let position : Vec2 := ⟨(x * mapTileSize : Nat), (y * mapTileSize : Nat)⟩
  ⟨position, Shadow.ShadowCaster.new.setShadowRectangle position ⟨0, 0, mapTileSize, mapTileSize⟩⟩

/-- `LoadShadowCaster`. -/
def loadShadowCaster (x y : Nat) (level : Level) : Level :=
  { level with shadowCasters := level.shadowCasters ++ [placedCaster x y] }

/-- The body of `LoadWall`: its position is its centre. -/
def wallBody (x y : Nat) (isVentilation : Bool) : Body :=
  let metersWide : ℚ := b2MeterPerTile / 2
  { type := .staticBody
    fixedRotation := true
    position :=
      ⟨mapTileSize * (x + 1 / 2 : ℚ) / b2Ptm, mapTileSize * (y + 1 / 2 : ℚ) / b2Ptm⟩
    halfWidth := metersWide
    halfHeight := metersWide
    categoryBits := if isVentilation then .wall else .ventilation
    maskBits := .player }

/-- `LoadWall`. -/
def loadWall (x y : Nat) (isVentilation : Bool) (level : Level) : Level :=
  { level with globalBodies := level.globalBodies ++ [wallBody x y isVentilation] }

/-- The body of the loops of `LoadMap`. -/
def loadTile (x y : Nat) (flags : BitVec 32) (level : Level) : Level :=
  let level := if hasFlag flags .tileShadow then loadShadowCaster x y level else level
  if hasFlag flags .tileWall then loadWall x y (hasFlag flags .tileVent) level else level

/-- `LoadMap`; `none` if the tile template is accessed outside its vector. -/
def loadMap (level : Level) : Option Level :=
  let template := level.tileTemplate
  (cells template.width template.height).foldlM
    (fun level cell =>
      (template.getFlags cell.1 cell.2).map fun flags => loadTile cell.1 cell.2 flags level)
    level

section Loaded

variable (flags : Nat → Nat → BitVec 32)

/-- The bodies of the wall tiles among some cells. -/
def bodiesOf (visited : List (Nat × Nat)) : List Body :=
  (visited.filter fun cell => hasFlag (flags cell.1 cell.2) .tileWall).map fun cell =>
    wallBody cell.1 cell.2 (hasFlag (flags cell.1 cell.2) .tileVent)

/-- The casters of the shadow tiles among some cells. -/
def castersOf (visited : List (Nat × Nat)) : List PlacedCaster :=
  (visited.filter fun cell => hasFlag (flags cell.1 cell.2) .tileShadow).map fun cell =>
    placedCaster cell.1 cell.2

/-- The level with these bodies and casters as well. -/
def loadedWith (level : Level) (visited : List (Nat × Nat)) : Level :=
  { level with
    globalBodies := level.globalBodies ++ bodiesOf flags visited
    shadowCasters := level.shadowCasters ++ castersOf flags visited }

theorem loadTile_loadedWith (level : Level) (visited : List (Nat × Nat)) (x y : Nat) :
    loadTile x y (flags x y) (loadedWith flags level visited) =
      loadedWith flags level (visited ++ [(x, y)]) := by
  by_cases wall : hasFlag (flags x y) .tileWall <;>
    by_cases shadow : hasFlag (flags x y) .tileShadow <;>
      simp [loadTile, loadedWith, bodiesOf, castersOf, loadWall, loadShadowCaster, wall, shadow]

/-- `LoadMap` returns, with the bodies and the casters of all cells of the template. -/
theorem loadMap_eq {flags : Nat → Nat → BitVec 32} (level : Level)
    (shown : ∀ x < level.tileTemplate.width, ∀ y < level.tileTemplate.height,
      level.tileTemplate.getFlags x y = some (flags x y)) :
    loadMap level = some (loadedWith flags level
      (cells level.tileTemplate.width level.tileTemplate.height)) := by
  let done (before : List (Nat × Nat)) (state : Level) : Prop :=
    state = loadedWith flags level before
  have started : done [] level := by
    simp [done, loadedWith, bodiesOf, castersOf]
  have turn : ∀ cell ∈ cells level.tileTemplate.width level.tileTemplate.height,
      ∀ before state, done before state →
        ∃ next, ((level.tileTemplate.getFlags cell.1 cell.2).map fun flags =>
            loadTile cell.1 cell.2 flags state) = some next ∧ done (before ++ [cell]) next := by
    rintro ⟨x, y⟩ member before state rfl
    rcases mem_cells.mp member with ⟨inWidth, inHeight⟩
    refine ⟨_, ?_, rfl⟩
    rw [shown x inWidth y inHeight, Option.map_some, loadTile_loadedWith]
  rcases exists_foldlM done started turn with ⟨state, folded, rfl⟩
  exact folded

end Loaded

end MapLoader

end LegendOfStealth.Map
