import LegendOfStealth.Client.MapLoader
import Mathlib.Tactic.Linarith
import Mathlib.Tactic.NormNum
import Mathlib.Tactic.Ring

/-!
# The geometry of a level

Tiles are drawn, collide, cast shadows and are lit by four separate calculations.  They
agree: each takes a cell of the TMX map to the same rectangle.
-/

namespace LegendOfStealth.Map

open LegendOfStealth.Library LegendOfStealth.Geometry

/-- The rectangle of a tile, counted from the bottom left. -/
def tileRect (cell : Nat × Nat) : Rect :=
  ⟨64 * cell.1, 64 * cell.2, 64, 64⟩

/-- The rectangle of a cell of the TMX map. -/
def TmxMap.cellRect (tmxMap : TmxMap) (x y : Nat) : Rect :=
  ⟨64 * x, 64 * ((tmxMap.height : ℚ) - 1 - y), 64, 64⟩

theorem tileRect_injective : Function.Injective tileRect := by
  rintro ⟨x, y⟩ ⟨x', y'⟩ same
  simpa [tileRect] using same

theorem TmxMap.cellRect_eq (tmxMap : TmxMap) {x y : Nat} (inHeight : y < tmxMap.height) :
    tmxMap.cellRect x y = tileRect (x, tmxMap.height - 1 - y) := by
  rw [cellRect, tileRect, Nat.cast_sub (by omega), Nat.cast_sub (by omega), Nat.cast_one]

namespace MapLoader

/-- The box of a wall, in pixels, is the rectangle of its tile. -/
theorem pixelBox_wallBody (x y : Nat) (isVentilation : Bool) :
    (wallBody x y isVentilation).pixelBox = tileRect (x, y) := by
  simp only [Body.pixelBox, wallBody, tileRect, b2Ptm, mapTileSize, b2MeterPerTile]
  norm_num
  constructor <;> ring

/-- The shape of a caster, in the world, is the rectangle of its tile. -/
theorem globalVerts_placedCaster (x y : Nat) :
    (placedCaster x y).caster.globalVerts = (tileRect (x, y)).corners := by
  rw [placedCaster, Shadow.ShadowCaster.globalVerts_setShadowRectangle]
  simp [Rect.translate, tileRect, mapTileSize, mul_comm]

end MapLoader

/-- The bodies and casters that were added for a map agree with what is drawn and lit. -/
structure Agrees (parser : MapParser) (bodies : List Body) (casters : List PlacedCaster) :
    Prop where
  body : ∀ x < parser.tmxMap.width, ∀ y < parser.tmxMap.height,
    (bodies.map Body.pixelBox).count (parser.tmxMap.cellRect x y) =
      if parser.tmxMap.Walled x y then 1 else 0
  bodyOnly : ∀ body ∈ bodies, body.type = .staticBody ∧
    ∃ x < parser.tmxMap.width, ∃ y < parser.tmxMap.height,
      parser.tmxMap.Walled x y ∧ body.pixelBox = parser.tmxMap.cellRect x y
  caster : ∀ x < parser.tmxMap.width, ∀ y < parser.tmxMap.height,
    (casters.map (·.caster.globalVerts)).count (parser.tmxMap.cellRect x y).corners =
      if parser.tmxMap.Walled x y then 1 else 0
  casterOnly : ∀ placed ∈ casters,
    ∃ x < parser.tmxMap.width, ∃ y < parser.tmxMap.height,
      parser.tmxMap.Walled x y ∧
        placed.caster.globalVerts = (parser.tmxMap.cellRect x y).corners
  drawn : ∀ x < parser.tmxMap.width, ∀ y < parser.tmxMap.height,
    parser.getWorldClip parser.mapset x y = parser.tmxMap.cellRect x y
  lit : ∀ x < parser.tmxMap.width, ∀ y < parser.tmxMap.height, ∀ pixelX pixelY : Int,
    64 * x < pixelX → pixelX < 64 * x + 64 → 64 * y < pixelY → pixelY < 64 * y + 64 →
      (parser.tmxMap.cellRect x y).StrictlyInside ⟨pixelX, parser.flipPixelY pixelY⟩

section Agreement

variable {parser : MapParser}

/-- The flags of a tile, counted from the bottom left. -/
def MapParser.tileFlags (parser : MapParser) (x y : Nat) : BitVec 32 :=
  markedBy parser.tmxMap.layers x (parser.tmxMap.height - 1 - y)

theorem flip_flip {height y : Nat} (inHeight : y < height) :
    height - 1 - (height - 1 - y) = y := by
  omega

theorem MapParser.hasFlag_tileFlags (parser : MapParser) {x y : Nat}
    (inHeight : y < parser.tmxMap.height) {flag : TileFlag}
    (solid : flag = .tileWall ∨ flag = .tileShadow) :
    hasFlag (parser.tileFlags x (parser.tmxMap.height - 1 - y)) flag = true ↔
      parser.tmxMap.Walled x y := by
  rw [MapParser.tileFlags, flip_flip inHeight]
  exact hasFlag_markedBy_iff _ _ _ solid

/-- What is made of the tiles with a solid flag lies once on every walled cell. -/
theorem count_solid {flag : TileFlag} (solid : flag = .tileWall ∨ flag = .tileShadow)
    {β : Type} [BEq β] [LawfulBEq β] {image : Rect → β} (injective : Function.Injective image)
    {x y : Nat} (inWidth : x < parser.tmxMap.width) (inHeight : y < parser.tmxMap.height) :
    (((cells parser.tmxMap.width parser.tmxMap.height).filter fun cell =>
        hasFlag (parser.tileFlags cell.1 cell.2) flag).map
          fun cell => image (tileRect cell)).count (image (parser.tmxMap.cellRect x y)) =
      if parser.tmxMap.Walled x y then 1 else 0 := by
  have member : (x, parser.tmxMap.height - 1 - y) ∈
      cells parser.tmxMap.width parser.tmxMap.height := mem_cells.mpr ⟨inWidth, by omega⟩
  rw [TmxMap.cellRect_eq _ inHeight]
  refine (count_map_filter (nodup_cells _ _) _ (injective.comp tileRect_injective) member).trans ?_
  by_cases walled : parser.tmxMap.Walled x y
  · rw [if_pos walled, if_pos ((parser.hasFlag_tileFlags inHeight solid).mpr walled)]
  · rw [if_neg walled, if_neg (mt (parser.hasFlag_tileFlags inHeight solid).mp walled)]

theorem exists_walled {flag : TileFlag} (solid : flag = .tileWall ∨ flag = .tileShadow)
    {cell : Nat × Nat}
    (member : cell ∈ (cells parser.tmxMap.width parser.tmxMap.height).filter fun cell =>
      hasFlag (parser.tileFlags cell.1 cell.2) flag) :
    ∃ x < parser.tmxMap.width, ∃ y < parser.tmxMap.height,
      parser.tmxMap.Walled x y ∧ tileRect cell = parser.tmxMap.cellRect x y := by
  rcases cell with ⟨x, row⟩
  rcases List.mem_filter.mp member with ⟨inside, flagged⟩
  rcases mem_cells.mp inside with ⟨inWidth, inHeight⟩
  have rowInHeight : parser.tmxMap.height - 1 - row < parser.tmxMap.height := by omega
  refine ⟨x, inWidth, parser.tmxMap.height - 1 - row, rowInHeight, ?_, ?_⟩
  · exact (hasFlag_markedBy_iff _ _ _ solid).mp flagged
  · rw [TmxMap.cellRect_eq _ rowInHeight, flip_flip inHeight]

theorem getWorldClip_eq (tileWidth : parser.mapset.tileWidth = mapTileSize)
    (tileHeight : parser.mapset.tileHeight = mapTileSize) (x y : Nat) :
    parser.getWorldClip parser.mapset x y = parser.tmxMap.cellRect x y := by
  rw [MapParser.getWorldClip, tileWidth, tileHeight, MapParser.flipY, TmxMap.cellRect]
  simp only [mapTileSize, Rect.mk.injEq]
  push_cast
  refine ⟨?_, ?_, rfl, rfl⟩
  · ring
  · ring

/-- A pixel inside a cell of the TMX map is turned over into the rectangle of the cell. -/
theorem strictlyInside_flipPixelY (tileHeight : parser.tmxMap.tileHeight = mapTileSize)
    {x y : Nat} {pixelX pixelY : Int} (left : 64 * x < pixelX) (right : pixelX < 64 * x + 64)
    (top : 64 * y < pixelY) (bottom : pixelY < 64 * y + 64) :
    (parser.tmxMap.cellRect x y).StrictlyInside ⟨pixelX, parser.flipPixelY pixelY⟩ := by
  have left' : (64 * x : ℚ) < pixelX := by exact_mod_cast left
  have right' : (pixelX : ℚ) < 64 * x + 64 := by exact_mod_cast right
  have top' : (64 * y : ℚ) < pixelY := by exact_mod_cast top
  have bottom' : (pixelY : ℚ) < 64 * y + 64 := by exact_mod_cast bottom
  rw [MapParser.flipPixelY, tileHeight]
  simp only [Rect.StrictlyInside, TmxMap.cellRect, mapTileSize]
  push_cast
  refine ⟨left', right', ?_, ?_⟩
  · linarith
  · linarith

/-- The bodies and casters of the tiles agree with what is drawn and lit. -/
theorem agrees_loaded (mapHeight : parser.tmxMap.tileHeight = mapTileSize)
    (tileWidth : parser.mapset.tileWidth = mapTileSize)
    (tileHeight : parser.mapset.tileHeight = mapTileSize) :
    Agrees parser
      (MapLoader.bodiesOf parser.tileFlags (cells parser.tmxMap.width parser.tmxMap.height))
      (MapLoader.castersOf parser.tileFlags (cells parser.tmxMap.width parser.tmxMap.height)) where
  body x inWidth y inHeight := by
    rw [MapLoader.bodiesOf, List.map_map]
    simp only [Function.comp_def, MapLoader.pixelBox_wallBody]
    exact count_solid (.inl rfl) Function.injective_id inWidth inHeight
  bodyOnly body member := by
    rcases List.mem_map.mp member with ⟨cell, flagged, rfl⟩
    rcases exists_walled (.inl rfl) flagged with ⟨x, inWidth, y, inHeight, walled, same⟩
    refine ⟨rfl, x, inWidth, y, inHeight, walled, ?_⟩
    rw [MapLoader.pixelBox_wallBody, ← same]
  caster x inWidth y inHeight := by
    rw [MapLoader.castersOf, List.map_map]
    simp only [Function.comp_def, MapLoader.globalVerts_placedCaster]
    exact count_solid (.inr rfl) Rect.corners_injective inWidth inHeight
  casterOnly placed member := by
    rcases List.mem_map.mp member with ⟨cell, flagged, rfl⟩
    rcases exists_walled (.inr rfl) flagged with ⟨x, inWidth, y, inHeight, walled, same⟩
    refine ⟨x, inWidth, y, inHeight, walled, ?_⟩
    rw [MapLoader.globalVerts_placedCaster, ← same]
  drawn x _ y _ := getWorldClip_eq tileWidth tileHeight x y
  lit x _ y _ pixelX pixelY left right top bottom :=
    strictlyInside_flipPixelY mapHeight left right top bottom

/-- Parsing a map and loading it adds the bodies and the casters of its tiles. -/
theorem MapParser.exists_loadMap (parser : MapParser) (level : Level) :
    ∃ loaded, (parser.parseMap level).bind MapLoader.loadMap = some loaded ∧
      loaded.globalBodies = level.globalBodies ++
          MapLoader.bodiesOf parser.tileFlags (cells parser.tmxMap.width parser.tmxMap.height) ∧
        loaded.shadowCasters = level.shadowCasters ++
          MapLoader.castersOf parser.tileFlags
            (cells parser.tmxMap.width parser.tmxMap.height) := by
  rcases parser.parseMap_shows level with ⟨parsed, parses, drawn, shows⟩
  have shown : ∀ x < parsed.tileTemplate.width, ∀ y < parsed.tileTemplate.height,
      parsed.tileTemplate.getFlags x y = some (parser.tileFlags x y) := by
    intro x inWidth y inHeight
    rw [shows.width] at inWidth
    rw [shows.height] at inHeight
    have row : parser.tmxMap.height - 1 - y < parser.tmxMap.height := by omega
    have flags := shows.getFlags x inWidth _ row
    rwa [MapParser.flipY_eq row, flip_flip inHeight] at flags
  have loads := MapLoader.loadMap_eq parsed shown
  rw [shows.width, shows.height] at loads
  refine ⟨_, (congrArg (·.bind MapLoader.loadMap) parses).trans loads, ?_, ?_⟩
  · rw [MapLoader.loadedWith, drawn.1]
  · rw [MapLoader.loadedWith, drawn.2]

/-- The geometry of a level: parsing a map and loading it adds one body and one caster
for every cell with the wall tile and none elsewhere, on the rectangle on which the cell
is drawn and lit. -/
theorem loadMap_agrees (level : Level)
    (mapHeight : parser.tmxMap.tileHeight = mapTileSize)
    (tileWidth : parser.mapset.tileWidth = mapTileSize)
    (tileHeight : parser.mapset.tileHeight = mapTileSize) :
    ∃ loaded bodies casters, (parser.parseMap level).bind MapLoader.loadMap = some loaded ∧
      loaded.globalBodies = level.globalBodies ++ bodies ∧
        loaded.shadowCasters = level.shadowCasters ++ casters ∧
          Agrees parser bodies casters := by
  rcases parser.exists_loadMap level with ⟨loaded, loads, bodies, casters⟩
  exact ⟨loaded, _, _, loads, bodies, casters, agrees_loaded mapHeight tileWidth tileHeight⟩

end Agreement

/-- A level before anything is parsed. -/
def emptyLevel : Level :=
  ⟨none, none, .new 0 0, [], [], []⟩

/-- A map of two columns and three rows, with a wall in its top right corner. -/
def cornerMap : TmxMap where
  width := 2
  height := 3
  tileHeight := 64
  tilesets := [⟨"mapset", 1, 64, 64, "tileset.png", 128, 64⟩,
    ⟨"objectset", 3, 64, 64, "objtiles.png", 512, 64⟩]
  layers := [⟨"walls", fun x y =>
    if x = 1 ∧ y = 0 then ⟨8, 1, 5, by decide⟩ else ⟨0, -1, 0, fun _ => rfl⟩⟩]
  objectGroups := []

/-- The wall of that map has a body and a caster where it is drawn. -/
theorem loadMap_agrees_corner :
    ∃ parser, MapParser.new (.ok cornerMap) = .ok parser ∧ parser.tmxMap.Walled 1 0 ∧
      ∃ loaded bodies casters,
        (parser.parseMap emptyLevel).bind MapLoader.loadMap = some loaded ∧
          loaded.globalBodies = [] ++ bodies ∧ loaded.shadowCasters = [] ++ casters ∧
            Agrees parser bodies casters :=
  ⟨⟨cornerMap, ⟨"mapset", 1, 64, 64, "tileset.png", 128, 64⟩,
    ⟨"objectset", 3, 64, 64, "objtiles.png", 512, 64⟩⟩, rfl, by decide,
    loadMap_agrees emptyLevel rfl rfl rfl⟩

end LegendOfStealth.Map
