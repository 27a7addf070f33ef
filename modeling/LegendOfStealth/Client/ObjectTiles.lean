import LegendOfStealth.Client.WallCategory

/-!
# The tileset of a tile

Local ids repeat in every tileset, and the constructor of the parser looks for the tileset
named `objectset`.  `ParseWallLayer` compares the local id only, so a tile of another
tileset makes a wall or a vent if its id is the right one.
-/

namespace LegendOfStealth.Map

open LegendOfStealth.Library LegendOfStealth.Geometry

/-- A tile holds its global id, the index of its tileset and the id local to it. -/
def MapTile.WellFormed (tilesets : List Tileset) (tile : MapTile) : Prop :=
  tile.gid = 0 ∨ 0 ≤ tile.tilesetId ∧
    tilesets[tile.tilesetId.toNat]?.map (fun set : Tileset => set.firstGid + tile.id) =
      some (tile.gid : Int)

instance (tilesets : List Tileset) (tile : MapTile) : Decidable (tile.WellFormed tilesets) :=
  inferInstanceAs (Decidable (_ ∨ _ ∧ _))

/-- The tile is from the tileset named `objectset`. -/
def MapTile.OfObjectset (tilesets : List Tileset) (tile : MapTile) : Prop :=
  0 ≤ tile.tilesetId ∧ tilesets[tile.tilesetId.toNat]?.map Tileset.name = some "objectset"

instance (tilesets : List Tileset) (tile : MapTile) : Decidable (tile.OfObjectset tilesets) :=
  inferInstanceAs (Decidable (_ ∧ _))

/-- Some walls layer has a tile with a local id in a cell, from any tileset. -/
def TmxMap.HasTile (tmxMap : TmxMap) (tileId : ObjectsetTileID) (x y : Nat) : Prop :=
  ∃ layer ∈ tmxMap.layers, layer.name = "walls" ∧ (layer.tile x y).id = tileId.toNat

/-- Some walls layer has a tile of the object set in a cell. -/
def TmxMap.HasObjectTile (tmxMap : TmxMap) (tileId : ObjectsetTileID) (x y : Nat) : Prop :=
  ∃ layer ∈ tmxMap.layers, layer.name = "walls" ∧
    (layer.tile x y).OfObjectset tmxMap.tilesets ∧ (layer.tile x y).id = tileId.toNat

instance (tmxMap : TmxMap) (tileId : ObjectsetTileID) (x y : Nat) :
    Decidable (tmxMap.HasObjectTile tileId x y) :=
  inferInstanceAs (Decidable (∃ layer ∈ tmxMap.layers, _))

/-- The tile of the object set that stands for a flag. -/
def TileFlag.objectTile : TileFlag → ObjectsetTileID
  | .tileWall => .idWall
  | .tileShadow => .idWall
  | .tileVent => .idVent

/-- Only tiles of the object set make walls and vents: a cell has a flag exactly if some
walls layer has there the tile of the object set that stands for it. -/
def ObjectTilesOnly (parser : MapParser) (template : TileTemplate) : Prop :=
  ∀ x < parser.tmxMap.width, ∀ y < parser.tmxMap.height,
    ∃ flags, template.getFlags x (parser.tmxMap.height - 1 - y) = some flags ∧
      ∀ flag, hasFlag flags flag = true ↔ parser.tmxMap.HasObjectTile flag.objectTile x y

/-- Where a walls layer has a tile with the local id of the wall or the vent, some walls
layer has that tile of the object set. -/
def TmxMap.ObjectTilesCover (tmxMap : TmxMap) : Prop :=
  ∀ x < tmxMap.width, ∀ y < tmxMap.height, ∀ tileId ∈ [.idWall, .idVent],
    tmxMap.HasTile tileId x y → tmxMap.HasObjectTile tileId x y

theorem TmxMap.HasObjectTile.hasTile {tmxMap : TmxMap} {tileId : ObjectsetTileID} {x y : Nat}
    (has : tmxMap.HasObjectTile tileId x y) : tmxMap.HasTile tileId x y := by
  obtain ⟨layer, member, walls, -, same⟩ := has
  exact ⟨layer, member, walls, same⟩

/-- The parser sets a flag for a local id, whatever the tileset. -/
theorem hasFlag_markedBy_iff_hasTile (tmxMap : TmxMap) (x y : Nat) (flag : TileFlag) :
    hasFlag (markedBy tmxMap.layers x y) flag = true ↔ tmxMap.HasTile flag.objectTile x y := by
  cases flag with
  | tileWall => exact hasFlag_markedBy_iff tmxMap x y (.inl rfl)
  | tileVent => exact hasFlag_markedBy_tileVent_iff tmxMap x y
  | tileShadow => exact hasFlag_markedBy_iff tmxMap x y (.inr rfl)

section Parser

variable {parser : MapParser} {template : TileTemplate}

theorem MapParser.Shows.objectTilesOnly_iff
    (shows : parser.Shows template (markedBy parser.tmxMap.layers)) :
    ObjectTilesOnly parser template ↔ parser.tmxMap.ObjectTilesCover := by
  apply forall₂_congr
  intro x inWidth
  apply forall₂_congr
  intro y inHeight
  have shown := shows.getFlags x inWidth y inHeight
  rw [MapParser.flipY, sub_right_comm] at shown
  simp only [shown, Option.some.injEq, exists_eq_left', hasFlag_markedBy_iff_hasTile]
  constructor
  · intro exact' tileId named has
    rcases List.mem_pair.mp named with rfl | rfl
    · exact (exact' .tileWall).mp has
    · exact (exact' .tileVent).mp has
  · intro covered flag
    constructor
    · apply covered
      cases flag <;> decide
    · exact TmxMap.HasObjectTile.hasTile

/-- Only tiles of the object set make walls and vents exactly if each tile that has the
local id of the wall or the vent lies where the object set has that tile as well. -/
theorem parseMap_objectTilesOnly_iff (parser : MapParser) (level : Level) :
    ∃ parsed, parser.parseMap level = some parsed ∧
      (ObjectTilesOnly parser parsed.tileTemplate ↔ parser.tmxMap.ObjectTilesCover) := by
  obtain ⟨parsed, parses, -, shows⟩ := parser.parseMap_shows level
  exact ⟨parsed, parses, shows.objectTilesOnly_iff⟩

end Parser

/-- A map whose walls layer has a tile of a map set of eight tiles: its sixth, with the
local id of the wall. -/
def sixthTileMap : TmxMap where
  width := 1
  height := 1
  tileHeight := 64
  tilesets := [⟨"mapset", 1, 64, 64, "tileset.png", 256, 128⟩,
    ⟨"objectset", 9, 64, 64, "objtiles.png", 512, 64⟩]
  layers := [⟨"walls", fun _ _ => ⟨6, 0, 5, by decide⟩⟩]
  objectGroups := []

/-- That tile of the map set makes a wall. -/
theorem not_objectTilesOnly_sixthTile :
    ¬ ∀ (tmxMap : TmxMap) (parser : MapParser) (level parsed : Level),
      (∀ layer ∈ tmxMap.layers, ∀ x y, (layer.tile x y).WellFormed tmxMap.tilesets) →
        MapParser.new (.ok tmxMap) = .ok parser → parser.parseMap level = some parsed →
          ObjectTilesOnly parser parsed.tileTemplate := by
  intro claimed
  let parser : MapParser := ⟨sixthTileMap, ⟨"mapset", 1, 64, 64, "tileset.png", 256, 128⟩,
    ⟨"objectset", 9, 64, 64, "objtiles.png", 512, 64⟩⟩
  have wellFormed : ∀ layer ∈ sixthTileMap.layers, ∀ x y,
      (layer.tile x y).WellFormed sixthTileMap.tilesets := by
    intro layer member x y
    rcases List.mem_singleton.mp member with rfl
    exact .inr ⟨le_refl 0, rfl⟩
  obtain ⟨parsed, parses, -, shows⟩ := parser.parseMap_shows emptyLevel
  have only := claimed sixthTileMap parser emptyLevel parsed wellFormed rfl parses
  have covered := shows.objectTilesOnly_iff.mp only 0 Nat.zero_lt_one 0 Nat.zero_lt_one .idWall
    List.mem_cons_self ⟨_, List.mem_cons_self, rfl, rfl⟩
  exact absurd covered (by decide)

end LegendOfStealth.Map
