import LegendOfStealth.Client.Map
import LegendOfStealth.Library.FallibleFold
import Mathlib.Data.List.Induction

/-!
# The map parser

`MapParser` turns a TMX map, as the TMX library presents it, into a level: the drawn
layers, the flags of the tiles and the lights.  TMX maps have their origin at the top
left, so rows and pixels are counted from the other end.
-/

namespace LegendOfStealth.Map

open LegendOfStealth.Library LegendOfStealth.Geometry

/-- `Tmx::MapTile`: the global id, the index of the tileset, and the id local to it.
An empty cell has the global id 0 and the local id 0. -/
structure MapTile where
  gid : Nat
  tilesetId : Int
  id : Nat
  empty : gid = 0 → id = 0

/-- `Tmx::Layer`: a name, and a tile for each cell. -/
structure Layer where
  name : String
  tile : Nat → Nat → MapTile

/-- `Tmx::Tileset` with its image. -/
structure Tileset where
  name : String
  firstGid : Int
  tileWidth : Int
  tileHeight : Int
  imageSource : String
  imageWidth : Int
  imageHeight : Int
  deriving DecidableEq

/-- `Tmx::Ellipse`. -/
structure Ellipse where
  centerX : Int
  centerY : Int
  radiusX : Int
  radiusY : Int
  deriving DecidableEq

/-- `Tmx::Object`. -/
structure Object where
  name : String
  type : String
  ellipse : Option Ellipse
  properties : String → Option ℚ

/-- `Tmx::ObjectGroup`. -/
structure ObjectGroup where
  name : String
  objects : List Object

/-- `Tmx::Map`. -/
structure TmxMap where
  width : Nat
  height : Nat
  tileHeight : Int
  tilesets : List Tileset
  layers : List Layer
  objectGroups : List ObjectGroup

/-- `ObjectsetTileID`. -/
inductive ObjectsetTileID
  | idTermA
  | idTermB
  | idTermC
  | idWall
  | idVent
  deriving DecidableEq, Repr

/-- The local id of a tile of the object set. -/
def ObjectsetTileID.toNat : ObjectsetTileID → Nat
  | .idTermA => 0
  | .idTermB => 1
  | .idTermC => 2
  | .idWall => 5
  | .idVent => 6

/-- `MapParser`. -/
structure MapParser where
  tmxMap : TmxMap
  mapset : Tileset
  objset : Tileset

namespace MapParser

/-- The last tileset with a name. -/
def findTileset (name : String) (tilesets : List Tileset) : Option Tileset :=
  tilesets.reverse.find? (·.name = name)

/-- `MapParser::MapParser`, on what the TMX library made of the file: the map or the
text of an error. -/
def new (file : Except String TmxMap) : Except String MapParser :=
  match file with
  | .error errorText => .error ("Failed to parse map: " ++ errorText)
  | .ok tmxMap =>
      match findTileset "mapset" tmxMap.tilesets, findTileset "objectset" tmxMap.tilesets with
      | some mapset, some objset => .ok ⟨tmxMap, mapset, objset⟩
      | _, _ => .error "Failed to find the required tilesets"

/-- `FlipY`. -/
def flipY (parser : MapParser) (mapY : Int) : Int :=
  parser.tmxMap.height - mapY - 1

/-- `FlipPixelY`. -/
def flipPixelY (parser : MapParser) (mapY : Int) : Int :=
  parser.tmxMap.height * parser.tmxMap.tileHeight - mapY

/-- `GetTextureClip`; `none` if a divisor is zero. -/
def getTextureClip (parser : MapParser) (set : Tileset) (gid : Int) : Option Rect :=
  let imgw := parser.mapset.imageWidth
  let imgh := parser.mapset.imageHeight
  if set.tileWidth = 0 ∨ set.tileHeight = 0 then none
  else
    let xcount := imgw.tdiv set.tileWidth
    let ycount := imgh.tdiv set.tileHeight
    if xcount = 0 ∨ ycount = 0 then none
    else
      let id := gid - set.firstGid
      let tilex := id.tmod xcount
      let tiley := ycount - id.tdiv ycount
      some
        { x := (tilex * set.tileWidth : Int) / imgw
          y := (tiley * set.tileHeight : Int) / imgh
          w := set.tileWidth / imgw
          h := set.tileHeight / imgh }

/-- `GetWorldClip`. -/
def getWorldClip (parser : MapParser) (set : Tileset) (x y : Int) : Rect where
  x := (x * set.tileWidth : Int)
  y := (parser.flipY y * set.tileHeight : Int)
  w := set.tileWidth
  h := set.tileHeight

/-- `ParseDrawableLayer`: one drawn tile for each cell that is not empty. -/
def parseDrawableLayer (parser : MapParser) (layer : Layer) : MapLayer where
  imgFile := "res/" ++ parser.mapset.imageSource
  tiles :=
    (cells parser.tmxMap.width parser.tmxMap.height).filterMap fun (x, y) =>
      let gid := (layer.tile x y).gid
      if gid = 0 then none
      else some ⟨parser.getWorldClip parser.mapset x y, parser.getTextureClip parser.mapset gid⟩

/-- The body of the loops of `ParseWallLayer`. -/
def parseWallTile (parser : MapParser) (layer : Layer) (template : TileTemplate)
    (cell : Nat × Nat) : Option TileTemplate :=
  let tile := layer.tile cell.1 cell.2
  if tile.gid = 0 then some template
  else
    let y := parser.flipY cell.2
    if tile.id = ObjectsetTileID.idWall.toNat then
      template.addFlag cell.1 y (TileFlag.tileShadow.bit ||| TileFlag.tileWall.bit)
    else if tile.id = ObjectsetTileID.idVent.toNat then
      template.addFlag cell.1 y TileFlag.tileVent.bit
    else some template

/-- `ParseWallLayer`. -/
def parseWallLayer (parser : MapParser) (layer : Layer) (template : TileTemplate) :
    Option TileTemplate :=
  (cells parser.tmxMap.width parser.tmxMap.height).foldlM (parser.parseWallTile layer) template

/-- The body of the loop of `ParseLightLayer`: lights that are no circles are skipped. -/
def parseLight (parser : MapParser) (object : Object) : Option PlacedLight :=
  match object.ellipse with
  | none => none
  | some ellipse =>
      let rx : ℚ := ellipse.radiusX
      let ry : ℚ := ellipse.radiusY
      if |rx - ry| > 1 / 100 then none
      else
        let color :=
          match object.properties "r", object.properties "g", object.properties "b",
            object.properties "a" with
          | some r, some g, some b, some a => ⟨r, g, b, a⟩
          | _, _, _, _ => ⟨1, 1, 1, 1 / 2⟩
        some ⟨⟨ellipse.centerX, parser.flipPixelY ellipse.centerY⟩, rx, color, object.type⟩

/-- `ParseLightLayer`: every light is added to the game layer. -/
def parseLightLayer (parser : MapParser) (group : ObjectGroup) (level : Level) : Level :=
  { level with lights := level.lights ++ group.objects.filterMap parser.parseLight }

/-- The body of the loop of `ParseMap` over the layers. -/
def parseLayer (parser : MapParser) (state : Level × TileTemplate) (layer : Layer) :
    Option (Level × TileTemplate) :=
  if layer.name = "background" then
    some ({ state.1 with bgLayer := some (parser.parseDrawableLayer layer) }, state.2)
  else if layer.name = "foreground" then
    some ({ state.1 with fgLayer := some (parser.parseDrawableLayer layer) }, state.2)
  else if layer.name = "walls" then
    (parser.parseWallLayer layer state.2).map fun template => (state.1, template)
  else some state

/-- The body of the loop of `ParseMap` over the object groups. -/
def parseObjectGroup (parser : MapParser) (level : Level) (group : ObjectGroup) : Level :=
  if group.name = "lights" then parser.parseLightLayer group level else level

/-- `ParseMap`, which returns true if it returns; `none` if a tile template is accessed
outside its vector. -/
def parseMap (parser : MapParser) (level : Level) : Option Level :=
  let template := TileTemplate.new parser.tmxMap.width parser.tmxMap.height
  (parser.tmxMap.layers.foldlM parser.parseLayer (level, template)).map fun parsed =>
    { parser.tmxMap.objectGroups.foldl parser.parseObjectGroup parsed.1 with
      tileTemplate := parsed.2 }

end MapParser

/-! ## The flags of a cell -/

/-- What `ParseWallLayer` adds for a tile. -/
def MapTile.flags (tile : MapTile) : BitVec 32 :=
  if tile.gid = 0 then 0
  else if tile.id = ObjectsetTileID.idWall.toNat then
    TileFlag.tileShadow.bit ||| TileFlag.tileWall.bit
  else if tile.id = ObjectsetTileID.idVent.toNat then TileFlag.tileVent.bit
  else 0

/-- The flags that a layer adds to a cell of the TMX map. -/
def Layer.flags (layer : Layer) (x y : Nat) : BitVec 32 :=
  if layer.name = "walls" then (layer.tile x y).flags else 0

/-- The flags that some layers add to a cell of the TMX map. -/
def markedBy (layers : List Layer) (x y : Nat) : BitVec 32 :=
  layers.foldl (fun flags layer => flags ||| layer.flags x y) 0

/-- Some walls layer has the wall tile in a cell of the TMX map. -/
def TmxMap.Walled (tmxMap : TmxMap) (x y : Nat) : Prop :=
  ∃ layer ∈ tmxMap.layers, layer.name = "walls" ∧
    (layer.tile x y).id = ObjectsetTileID.idWall.toNat

instance (tmxMap : TmxMap) (x y : Nat) : Decidable (tmxMap.Walled x y) :=
  inferInstanceAs (Decidable (∃ layer ∈ tmxMap.layers, _))

/-- A wall tile casts a shadow and is a wall; no other tile does either. -/
theorem MapTile.hasFlag_flags (tile : MapTile) {flag : TileFlag}
    (solid : flag = .tileWall ∨ flag = .tileShadow) :
    hasFlag tile.flags flag = true ↔ tile.id = ObjectsetTileID.idWall.toNat := by
  rw [MapTile.flags]
  by_cases nothing : tile.gid = 0
  · rw [if_pos nothing, hasFlag_zero, tile.empty nothing]
    exact iff_of_false Bool.false_ne_true (by decide)
  · rw [if_neg nothing]
    by_cases wall : tile.id = ObjectsetTileID.idWall.toNat
    · rw [if_pos wall]
      apply iff_of_true _ wall
      rcases solid with rfl | rfl <;> rfl
    · rw [if_neg wall]
      apply iff_of_false _ wall
      split
      · rcases solid with rfl | rfl <;> exact Bool.false_ne_true
      · rw [hasFlag_zero]
        exact Bool.false_ne_true

theorem hasFlag_markedBy (layers : List Layer) (x y : Nat) (flag : TileFlag) :
    hasFlag (markedBy layers x y) flag =
      layers.any fun layer => hasFlag (layer.flags x y) flag := by
  induction layers using List.reverseRecOn with
  | nil => exact hasFlag_zero flag
  | append_singleton layers layer ih =>
      rw [markedBy, List.foldl_append, ← markedBy, List.any_append, ← ih]
      simp [hasFlag_or]

/-- A cell has a flag exactly if a walls layer has a tile with the flag in it. -/
theorem hasFlag_markedBy_iff_exists (tmxMap : TmxMap) (x y : Nat) (flag : TileFlag) :
    hasFlag (markedBy tmxMap.layers x y) flag = true ↔
      ∃ layer ∈ tmxMap.layers, layer.name = "walls" ∧
        hasFlag (layer.tile x y).flags flag = true := by
  rw [hasFlag_markedBy, List.any_eq_true]
  apply exists_congr
  intro layer
  apply and_congr_right
  intro _
  rw [Layer.flags]
  by_cases walls : layer.name = "walls"
  · rw [if_pos walls, and_iff_right walls]
  · rw [if_neg walls, hasFlag_zero]
    exact iff_of_false Bool.false_ne_true fun both => walls both.1

/-- A cell is a wall and casts a shadow exactly if a walls layer has the wall tile in
it. -/
theorem hasFlag_markedBy_iff (tmxMap : TmxMap) (x y : Nat) {flag : TileFlag}
    (solid : flag = .tileWall ∨ flag = .tileShadow) :
    hasFlag (markedBy tmxMap.layers x y) flag = true ↔ tmxMap.Walled x y := by
  rw [hasFlag_markedBy_iff_exists]
  exact exists_congr fun layer => and_congr_right fun _ => and_congr_right fun _ =>
    MapTile.hasFlag_flags _ solid

/-! ## What the parser leaves in the tile template -/

namespace MapParser

/-- The template has the size of the map and shows given flags for its cells. -/
structure Shows (parser : MapParser) (template : TileTemplate) (flags : Nat → Nat → BitVec 32) :
    Prop where
  width : template.width = parser.tmxMap.width
  height : template.height = parser.tmxMap.height
  getFlags : ∀ x < parser.tmxMap.width, ∀ y < parser.tmxMap.height,
    template.getFlags x (parser.flipY y) = some (flags x y)

variable {parser : MapParser} {template : TileTemplate} {flags other : Nat → Nat → BitVec 32}

/-- A row of the TMX map, counted from the other end. -/
theorem flipY_eq {y : Nat} (inHeight : y < parser.tmxMap.height) :
    parser.flipY y = ((parser.tmxMap.height - 1 - y : Nat) : Int) := by
  rw [flipY]
  omega

theorem Shows.congr (shows : parser.Shows template flags)
    (same : ∀ x < parser.tmxMap.width, ∀ y < parser.tmxMap.height, flags x y = other x y) :
    parser.Shows template other where
  width := shows.width
  height := shows.height
  getFlags x inWidth y inHeight := by
    rw [← same x inWidth y inHeight]
    exact shows.getFlags x inWidth y inHeight

theorem shows_new (parser : MapParser) :
    parser.Shows (.new parser.tmxMap.width parser.tmxMap.height) fun _ _ => 0 where
  width := rfl
  height := rfl
  getFlags x inWidth y inHeight := by
    rw [flipY_eq inHeight]
    exact Grid.get?_filled 0 inWidth (by omega)

/-- A flag is added to the cell that it is meant for, and to no other. -/
theorem Shows.addFlag (shows : parser.Shows template flags) {x y : Nat}
    (inWidth : x < parser.tmxMap.width) (inHeight : y < parser.tmxMap.height)
    (flag : BitVec 32) :
    ∃ next, template.addFlag x (parser.flipY y) flag = some next ∧
      parser.Shows next fun x' y' =>
        if (x', y') = (x, y) then flags x' y' ||| flag else flags x' y' := by
  have inRow : x < template.width := shows.width ▸ inWidth
  have inColumn : parser.tmxMap.height - 1 - y < template.height := by
    rw [shows.height]
    omega
  rcases template.modify_cell inRow inColumn (· ||| flag) with ⟨next, added, width, height, cell⟩
  refine ⟨next, ?_, width.trans shows.width, height.trans shows.height, ?_⟩
  · rw [flipY_eq inHeight]
    exact added
  · intro x' inWidth' y' inHeight'
    have shown := shows.getFlags x' inWidth' y' inHeight'
    rw [flipY_eq inHeight', TileTemplate.getFlags] at shown ⊢
    rw [cell _ _ (shows.width ▸ inWidth'), shown]
    by_cases same : (x', y') = (x, y)
    · cases same
      rw [if_pos ⟨rfl, rfl⟩, if_pos rfl]
      rfl
    · rw [if_neg same, if_neg]
      rintro ⟨rfl, rows⟩
      apply same
      rw [Prod.mk.injEq]
      exact ⟨rfl, by omega⟩

theorem Shows.parseWallTile (shows : parser.Shows template flags) (layer : Layer) {x y : Nat}
    (inWidth : x < parser.tmxMap.width) (inHeight : y < parser.tmxMap.height) :
    ∃ next, parser.parseWallTile layer template (x, y) = some next ∧
      parser.Shows next fun x' y' =>
        if (x', y') = (x, y) then flags x' y' ||| (layer.tile x y).flags else flags x' y' := by
  rw [MapParser.parseWallTile, MapTile.flags]
  have unmarked : parser.Shows template fun x' y' =>
      if (x', y') = (x, y) then flags x' y' ||| 0 else flags x' y' :=
    shows.congr fun x' _ y' _ => by simp
  split
  · exact ⟨template, rfl, unmarked⟩
  · split
    · exact shows.addFlag inWidth inHeight _
    · split
      · exact shows.addFlag inWidth inHeight _
      · exact ⟨template, rfl, unmarked⟩

/-- `ParseWallLayer` adds to every cell what the layer has there. -/
theorem Shows.parseWallLayer (shows : parser.Shows template flags) (layer : Layer) :
    ∃ next, parser.parseWallLayer layer template = some next ∧
      parser.Shows next fun x y => flags x y ||| (layer.tile x y).flags := by
  -- the cells that are done have been marked
  let done (before : List (Nat × Nat)) (template : TileTemplate) : Prop :=
    parser.Shows template fun x y =>
      if (x, y) ∈ before then flags x y ||| (layer.tile x y).flags else flags x y
  have started : done [] template :=
    shows.congr fun x _ y _ => (if_neg List.not_mem_nil).symm
  have turn : ∀ cell ∈ cells parser.tmxMap.width parser.tmxMap.height, ∀ before state,
      done before state → ∃ next, parser.parseWallTile layer state cell = some next ∧
        done (before ++ [cell]) next := by
    rintro ⟨x, y⟩ member before state shown
    rcases mem_cells.mp member with ⟨inWidth, inHeight⟩
    rcases shown.parseWallTile layer inWidth inHeight with ⟨next, stepped, marked⟩
    refine ⟨next, stepped, marked.congr fun x' _ y' _ => ?_⟩
    by_cases same : (x', y') = (x, y)
    · cases same
      rw [if_pos rfl, if_pos (List.mem_append_right _ List.mem_cons_self)]
      split
      · rw [BitVec.or_assoc, BitVec.or_self]
      · rfl
    · rw [if_neg same]
      simp only [List.mem_append, List.mem_singleton, same, or_false]
  rcases exists_foldlM done started turn with ⟨next, folded, marked⟩
  refine ⟨next, folded, marked.congr fun x inWidth y inHeight => ?_⟩
  exact if_pos (mem_cells.mpr ⟨inWidth, inHeight⟩)

/-- The level with other layers to draw. -/
def Draws (level drawn : Level) : Prop :=
  drawn.globalBodies = level.globalBodies ∧ drawn.shadowCasters = level.shadowCasters

theorem Shows.parseLayer (shows : parser.Shows template flags) (level : Level) (layer : Layer) :
    ∃ next, parser.parseLayer (level, template) layer = some next ∧ Draws level next.1 ∧
      parser.Shows next.2 fun x y => flags x y ||| layer.flags x y := by
  have unmarked (other : layer.name ≠ "walls") :
      parser.Shows template fun x y => flags x y ||| layer.flags x y :=
    shows.congr fun x _ y _ => by simp [Layer.flags, other]
  rw [MapParser.parseLayer]
  split
  · rename_i background
    exact ⟨_, rfl, ⟨rfl, rfl⟩, unmarked (by rw [background]; decide)⟩
  · split
    · rename_i foreground
      exact ⟨_, rfl, ⟨rfl, rfl⟩, unmarked (by rw [foreground]; decide)⟩
    · split
      · rename_i walls
        rcases shows.parseWallLayer layer with ⟨next, parsed, marked⟩
        refine ⟨(level, next), by rw [parsed]; rfl, ⟨rfl, rfl⟩, marked.congr ?_⟩
        intro x _ y _
        rw [Layer.flags, if_pos walls]
      · rename_i other
        exact ⟨_, rfl, ⟨rfl, rfl⟩, unmarked other⟩

theorem draws_parseObjectGroups (parser : MapParser) (groups : List ObjectGroup) (level : Level) :
    Draws level (groups.foldl parser.parseObjectGroup level) := by
  induction groups using List.reverseRecOn with
  | nil => exact ⟨rfl, rfl⟩
  | append_singleton groups group ih =>
      rw [List.foldl_append, List.foldl_cons, List.foldl_nil, parseObjectGroup]
      split
      · exact ih
      · exact ih

/-- `ParseMap` returns, with a tile template that shows what the walls layers add. -/
theorem parseMap_shows (parser : MapParser) (level : Level) :
    ∃ parsed, parser.parseMap level = some parsed ∧ Draws level parsed ∧
      parser.Shows parsed.tileTemplate (markedBy parser.tmxMap.layers) := by
  let done (before : List Layer) (state : Level × TileTemplate) : Prop :=
    Draws level state.1 ∧ parser.Shows state.2 (markedBy before)
  have started : done [] (level, .new parser.tmxMap.width parser.tmxMap.height) :=
    ⟨⟨rfl, rfl⟩, shows_new parser⟩
  have turn : ∀ layer ∈ parser.tmxMap.layers, ∀ before state, done before state →
      ∃ next, parser.parseLayer state layer = some next ∧ done (before ++ [layer]) next := by
    rintro layer - before ⟨state, template⟩ ⟨drawn, shows⟩
    rcases shows.parseLayer state layer with ⟨next, stepped, again, marked⟩
    refine ⟨next, stepped, ⟨again.1.trans drawn.1, again.2.trans drawn.2⟩, ?_⟩
    apply marked.congr
    intro x _ y _
    rw [markedBy, markedBy, List.foldl_append]
    rfl
  rcases exists_foldlM done started turn with ⟨state, folded, drawn, shows⟩
  refine ⟨_, Option.map_eq_some_iff.mpr ⟨state, folded, rfl⟩, ?_, ?_⟩
  · rcases draws_parseObjectGroups parser parser.tmxMap.objectGroups state.1 with ⟨bodies, casters⟩
    exact ⟨bodies.trans drawn.1, casters.trans drawn.2⟩
  · exact shows

end MapParser

end LegendOfStealth.Map
