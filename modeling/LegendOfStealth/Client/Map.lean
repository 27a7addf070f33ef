import LegendOfStealth.Client.LightSource
import LegendOfStealth.Client.ShadowCaster
import LegendOfStealth.Library.Grid

/-!
# The map

A `TileTemplate` holds the flags of the map's tiles.  A level is what the parser and the
loader build: the layers that are drawn, the tile template, the lights, the bodies of
the physics world and the shadow casters.
-/

namespace LegendOfStealth.Map

open LegendOfStealth.Library LegendOfStealth.Geometry

/-- `MAP_TILE_SIZE`, in pixels. -/
def mapTileSize : Nat := 64

/-- `B2METER_PER_TILE`. -/
def b2MeterPerTile : Nat := 2

/-- `B2_PTM`, the pixels of a metre: a quotient of integers. -/
def b2Ptm : ℚ := (mapTileSize / b2MeterPerTile : Nat)

/-- `Map::TileFlags`. -/
inductive TileFlag
  | tileWall
  | tileVent
  | tileShadow
  deriving DecidableEq, Repr

/-- The bit of a flag. -/
def TileFlag.bit : TileFlag → BitVec 32
  | .tileWall => 0x1
  | .tileVent => 0x2
  | .tileShadow => 0x4

/-- `flags & flag`, as a condition. -/
def hasFlag (flags : BitVec 32) (flag : TileFlag) : Bool :=
  flags &&& flag.bit != 0

theorem hasFlag_zero (flag : TileFlag) : hasFlag 0 flag = false := by
  cases flag <;> rfl

theorem hasFlag_or (first second : BitVec 32) (flag : TileFlag) :
    hasFlag (first ||| second) flag = (hasFlag first flag || hasFlag second flag) := by
  rw [Bool.eq_iff_iff, Bool.or_eq_true]
  simp only [hasFlag, bne_iff_ne, BitVec.and_or_distrib_right]
  exact (not_congr BitVec.or_eq_zero_iff).trans not_and_or

/-- `Map::TileTemplate`: `_tiles` is stored row by row. -/
abbrev TileTemplate := Grid (BitVec 32)

namespace TileTemplate

/-- `TileTemplate(int, int)`. -/
def new (mapWidth mapHeight : Nat) : TileTemplate :=
  .filled mapWidth mapHeight 0

/-- `AddFlag`; `none` if the index is outside the vector. -/
def addFlag (x y : Int) (flag : BitVec 32) (template : TileTemplate) : Option TileTemplate :=
  template.modify x y (· ||| flag)

/-- `GetFlags`; `none` if the index is outside the vector. -/
def getFlags (x y : Int) (template : TileTemplate) : Option (BitVec 32) :=
  template.get? x y

end TileTemplate

/-- One `AddTile` call: where the tile is drawn, and the part of the image that is
drawn, unless its calculation divides by zero. -/
structure DrawnTile where
  worldClip : Rect
  texClip : Option Rect
  deriving DecidableEq

/-- What a `MapLayer` is given. -/
structure MapLayer where
  imgFile : String
  tiles : List DrawnTile
  deriving DecidableEq

/-- A game object with a light, as `GameLayer::AddLight` places it. -/
structure PlacedLight where
  position : Vec2
  radius : ℚ
  color : Color
  type : String
  deriving DecidableEq

/-- `ColliderGroups`. -/
inductive ColliderGroup
  | wall
  | ventilation
  | termArea
  | player
  | all
  deriving DecidableEq, Repr

/-- `b2BodyType`. -/
inductive BodyType
  | staticBody
  | kinematicBody
  | dynamicBody
  deriving DecidableEq, Repr

/-- A body with one box, `SetAsBox(halfWidth, halfHeight)`, in metres. -/
structure Body where
  type : BodyType
  fixedRotation : Bool
  position : Vec2
  halfWidth : ℚ
  halfHeight : ℚ
  categoryBits : ColliderGroup
  maskBits : ColliderGroup
  deriving DecidableEq

/-- The box of a body in pixels. -/
def Body.pixelBox (body : Body) : Rect where
  x := (body.position.x - body.halfWidth) * b2Ptm
  y := (body.position.y - body.halfHeight) * b2Ptm
  w := 2 * body.halfWidth * b2Ptm
  h := 2 * body.halfHeight * b2Ptm

/-- A game object with a shadow caster. -/
structure PlacedCaster where
  position : Vec2
  caster : Shadow.ShadowCaster
  deriving DecidableEq

/-- A map and its game layer. -/
structure Level where
  bgLayer : Option MapLayer
  fgLayer : Option MapLayer
  tileTemplate : TileTemplate
  lights : List PlacedLight
  globalBodies : List Body
  shadowCasters : List PlacedCaster

end LegendOfStealth.Map
