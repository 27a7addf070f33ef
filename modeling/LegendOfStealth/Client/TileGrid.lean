import LegendOfStealth.Client.LevelGeometry

/-!
# The tile template as a grid

`ParseWallLayer` writes the tile template through the rows counted from the other end, and
`LoadMap` reads it.  Every index is in the vector, and every cell shows the flags that were
added for it, however many layers are parsed.
-/

namespace LegendOfStealth.Map

open LegendOfStealth.Library LegendOfStealth.Geometry

/-- The arguments of a call of `AddFlag`. -/
structure FlagCall where
  x : Int
  y : Int
  flag : BitVec 32
  deriving DecidableEq

/-- The call on a template. -/
def FlagCall.perform (template : TileTemplate) (call : FlagCall) : Option TileTemplate :=
  template.addFlag call.x call.y call.flag

/-- The flags that `ParseWallLayer` adds for a tile, if it adds any. -/
def MapTile.addedFlag (tile : MapTile) : Option (BitVec 32) :=
  if tile.gid = 0 then none
  else if tile.id = ObjectsetTileID.idWall.toNat then
    some (TileFlag.tileShadow.bit ||| TileFlag.tileWall.bit)
  else if tile.id = ObjectsetTileID.idVent.toNat then some TileFlag.tileVent.bit
  else none

/-- The bitwise or of the flags that some calls add for a cell. -/
def addedFlags (calls : List FlagCall) (x y : Int) : BitVec 32 :=
  ((calls.filter fun call => call.x = x ∧ call.y = y).map FlagCall.flag).foldl (· ||| ·) 0

/-- The index of a cell is calculated without overflow, and it is in the vector. -/
structure TileTemplate.Indexes (template : TileTemplate) (x y : Int) : Prop where
  row : 0 ≤ y * template.width ∧ y * template.width < 2 ^ 31
  sum : 0 ≤ template.offset x y ∧ template.offset x y < 2 ^ 31
  inside : template.offset x y < template.values.length

namespace TileTemplate

variable {template : TileTemplate} {x y : Int}

theorem indexes_of_contains (small : template.width * template.height < 2 ^ 31)
    (contains : template.Contains x y) : template.Indexes x y := by
  obtain ⟨low, high⟩ := contains.offset_lt
  have size : (template.values.length : Int) < 2 ^ 31 := by
    rw [template.sized]
    exact_mod_cast small
  have row : y * template.width ≤ template.offset x y := le_add_of_nonneg_right contains.1.1
  have nonneg : 0 ≤ y * template.width :=
    mul_nonneg contains.2.1 (Int.natCast_nonneg template.width)
  exact ⟨⟨nonneg, row.trans_lt (high.trans size)⟩, ⟨low, high.trans size⟩, high⟩

/-- Calls for cells of the template succeed, and each cell shows the flags that were added
for it. -/
theorem exists_foldlM_perform {calls : List FlagCall}
    (inside : ∀ call ∈ calls, template.Contains call.x call.y)
    (blank : ∀ x y, template.Contains x y → template.getFlags x y = some 0) :
    ∃ final, calls.foldlM FlagCall.perform template = some final ∧
      (final.width = template.width ∧ final.height = template.height) ∧
        ∀ x y, template.Contains x y → final.getFlags x y = some (addedFlags calls x y) := by
  obtain ⟨final, folded, size, shown⟩ :=
    Grid.exists_foldlM_modify FlagCall.x FlagCall.y (fun call flags => flags ||| call.flag) inside
  refine ⟨final, folded, size, ?_⟩
  intro x y contains
  have cell := shown x y contains
  rw [show template.get? x y = some 0 from blank x y contains] at cell
  rw [getFlags, cell, addedFlags, List.foldl_map]
  rfl

end TileTemplate

namespace MapParser

/-- The calls of `AddFlag` that `ParseWallLayer` makes for a layer. -/
def flagCalls (parser : MapParser) (layer : Layer) : List FlagCall :=
  (cells parser.tmxMap.width parser.tmxMap.height).filterMap fun (x, mapy) =>
    (layer.tile x mapy).addedFlag.map fun flag => ⟨x, parser.flipY mapy, flag⟩

variable {parser : MapParser}

/-- `ParseWallLayer` makes these calls and no others. -/
theorem parseWallLayer_eq (parser : MapParser) (layer : Layer) (template : TileTemplate) :
    parser.parseWallLayer layer template =
      (parser.flagCalls layer).foldlM FlagCall.perform template := by
  rw [flagCalls, List.foldlM_filterMap, parseWallLayer]
  congr 1
  funext state cell
  obtain ⟨x, mapy⟩ := cell
  simp only [parseWallTile, MapTile.addedFlag]
  split
  · rfl
  · split
    · rfl
    · split
      · rfl
      · rfl

theorem contains_of_mem_flagCalls {layer : Layer} {template : TileTemplate}
    (width : template.width = parser.tmxMap.width)
    (height : template.height = parser.tmxMap.height) {call : FlagCall}
    (member : call ∈ parser.flagCalls layer) : template.Contains call.x call.y := by
  obtain ⟨⟨x, mapy⟩, inside, made⟩ := List.mem_filterMap.mp member
  obtain ⟨flag, -, rfl⟩ := Option.map_eq_some_iff.mp made
  obtain ⟨inWidth, inHeight⟩ := mem_cells.mp inside
  rw [flipY_eq inHeight, Grid.contains_natCast, width, height]
  exact ⟨inWidth, by omega⟩

/-- A sequence of `ParseWallLayer` calls makes the calls of its layers. -/
theorem foldlM_parseWallLayer (parser : MapParser) (layers : List Layer)
    (template : TileTemplate) :
    layers.foldlM (fun template layer => parser.parseWallLayer layer template) template =
      (layers.flatMap parser.flagCalls).foldlM FlagCall.perform template := by
  induction layers generalizing template with
  | nil => rfl
  | cons layer rest ih =>
      rw [List.foldlM_cons, List.flatMap_cons, List.foldlM_append, parseWallLayer_eq]
      congr 1
      funext next
      exact ih next

end MapParser

theorem TileTemplate.getFlags_new {width height : Nat} {x y : Int}
    (contains : (TileTemplate.new width height).Contains x y) :
    (TileTemplate.new width height).getFlags x y = some 0 := by
  lift x to Nat using contains.1.1
  lift y to Nat using contains.2.1
  obtain ⟨inWidth, inHeight⟩ := (TileTemplate.new width height).contains_natCast.mp contains
  exact Grid.get?_filled 0 inWidth inHeight

/-- The tile template is a faithful grid: in a sequence of `ParseWallLayer` calls every
`AddFlag` indexes the vector inside its bounds, afterwards every cell shows the flags that
were added for it and no others, and `LoadMap` reads inside the bounds as well. -/
theorem parseWallLayers_faithful (parser : MapParser)
    (small : parser.tmxMap.width * parser.tmxMap.height < 2 ^ 31) (layers : List Layer) :
    ∃ template, layers.foldlM (fun template layer => parser.parseWallLayer layer template)
        (.new parser.tmxMap.width parser.tmxMap.height) = some template ∧
      (template.width = parser.tmxMap.width ∧ template.height = parser.tmxMap.height) ∧
      (∀ call ∈ layers.flatMap parser.flagCalls, template.Indexes call.x call.y) ∧
      (∀ x < parser.tmxMap.width, ∀ y < parser.tmxMap.height,
        template.Indexes x y ∧
          template.getFlags x y = some (addedFlags (layers.flatMap parser.flagCalls) x y)) ∧
      ∀ level : Level, level.tileTemplate = template →
        ∃ loaded, MapLoader.loadMap level = some loaded := by
  have inside : ∀ call ∈ layers.flatMap parser.flagCalls,
      (TileTemplate.new parser.tmxMap.width parser.tmxMap.height).Contains call.x call.y := by
    intro call member
    obtain ⟨layer, -, made⟩ := List.mem_flatMap.mp member
    exact MapParser.contains_of_mem_flagCalls rfl rfl made
  obtain ⟨template, folded, ⟨width, height⟩, shown⟩ :=
    TileTemplate.exists_foldlM_perform inside fun x y => TileTemplate.getFlags_new
  have within : template.width * template.height < 2 ^ 31 := by rwa [width, height]
  refine ⟨template, ?_, ⟨width, height⟩, ?_, ?_, ?_⟩
  · rw [MapParser.foldlM_parseWallLayer]
    exact folded
  · intro call member
    obtain ⟨layer, -, made⟩ := List.mem_flatMap.mp member
    exact TileTemplate.indexes_of_contains within
      (MapParser.contains_of_mem_flagCalls width height made)
  · intro x inWidth y inHeight
    have contains : template.Contains x y :=
      template.contains_natCast.mpr ⟨width ▸ inWidth, height ▸ inHeight⟩
    exact ⟨TileTemplate.indexes_of_contains within contains,
      shown x y ((Grid.contains_natCast _).mpr ⟨inWidth, inHeight⟩)⟩
  · rintro level rfl
    refine ⟨_, @MapLoader.loadMap_eq
      (fun x y => addedFlags (layers.flatMap parser.flagCalls) x y) level ?_⟩
    intro x inWidth y inHeight
    exact shown x y ((Grid.contains_natCast _).mpr ⟨width ▸ inWidth, height ▸ inHeight⟩)

/-- A map of three columns and two rows: its middle column is walled, and a second walls
layer has a vent in the middle of the upper row.  The other tiles are terminals. -/
def crossedMap : TmxMap where
  width := 3
  height := 2
  tileHeight := 64
  tilesets := [⟨"mapset", 1, 64, 64, "tileset.png", 256, 64⟩,
    ⟨"objectset", 5, 64, 64, "../mapdev/objtiles.png", 320, 320⟩]
  layers := [
    ⟨"walls", fun x _ => if x = 1 then ⟨10, 1, 5, by decide⟩ else ⟨5, 1, 0, fun _ => rfl⟩⟩,
    ⟨"walls", fun x y =>
      if x = 1 ∧ y = 0 then ⟨11, 1, 6, by decide⟩ else ⟨5, 1, 0, fun _ => rfl⟩⟩]
  objectGroups := []

/-- The crossing has the flags of both layers. -/
theorem parseWallLayers_faithful_crossed :
    ∃ template, crossedMap.layers.foldlM
        (fun template layer => MapParser.parseWallLayer ⟨crossedMap,
          ⟨"mapset", 1, 64, 64, "tileset.png", 256, 64⟩,
          ⟨"objectset", 5, 64, 64, "../mapdev/objtiles.png", 320, 320⟩⟩ layer template)
        (.new 3 2) = some template ∧
      template.getFlags 1 1 = some 7 ∧ template.getFlags 1 0 = some 5 ∧
        template.getFlags 2 1 = some 0 := by
  obtain ⟨template, folded, -, -, cell, -⟩ := parseWallLayers_faithful ⟨crossedMap,
    ⟨"mapset", 1, 64, 64, "tileset.png", 256, 64⟩,
    ⟨"objectset", 5, 64, 64, "../mapdev/objtiles.png", 320, 320⟩⟩ (by decide) crossedMap.layers
  refine ⟨template, folded, ?_, ?_, ?_⟩
  · exact (cell 1 (by decide) 1 (by decide)).2.trans (by decide)
  · exact (cell 1 (by decide) 0 (by decide)).2.trans (by decide)
  · exact (cell 2 (by decide) 1 (by decide)).2.trans (by decide)

end LegendOfStealth.Map
