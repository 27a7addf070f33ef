import LegendOfStealth.Client.LevelGeometry

/-!
# The collision category of a tile

A tile is a wall or a ventilation shaft by its id, then by its flags, then by a boolean,
and at last by the category of its body.  On the way the two change places: `LoadWall`
gives the body of a ventilation tile the category of walls, and the body of any other
tile that of ventilation.
-/

namespace LegendOfStealth.Map

open LegendOfStealth.Library LegendOfStealth.Geometry

/-- Some walls layer has the ventilation tile in a cell of the TMX map. -/
def TmxMap.Vented (tmxMap : TmxMap) (x y : Nat) : Prop :=
  ∃ layer ∈ tmxMap.layers, layer.name = "walls" ∧
    (layer.tile x y).id = ObjectsetTileID.idVent.toNat

instance (tmxMap : TmxMap) (x y : Nat) : Decidable (tmxMap.Vented x y) :=
  inferInstanceAs (Decidable (∃ layer ∈ tmxMap.layers, _))

/-- The ventilation tile is the only one that carries the flag. -/
theorem MapTile.hasFlag_tileVent (tile : MapTile) :
    hasFlag tile.flags .tileVent = true ↔ tile.id = ObjectsetTileID.idVent.toNat := by
  rw [MapTile.flags]
  by_cases nothing : tile.gid = 0
  · rw [if_pos nothing, hasFlag_zero, tile.empty nothing]
    exact iff_of_false Bool.false_ne_true (by decide)
  · rw [if_neg nothing]
    by_cases wall : tile.id = ObjectsetTileID.idWall.toNat
    · rw [if_pos wall, wall]
      decide
    · rw [if_neg wall]
      by_cases vent : tile.id = ObjectsetTileID.idVent.toNat
      · rw [if_pos vent]
        exact iff_of_true rfl vent
      · rw [if_neg vent, hasFlag_zero]
        exact iff_of_false Bool.false_ne_true vent

/-- A cell carries `TILE_VENT` exactly if a walls layer has the ventilation tile in it. -/
theorem hasFlag_markedBy_tileVent_iff (tmxMap : TmxMap) (x y : Nat) :
    hasFlag (markedBy tmxMap.layers x y) .tileVent = true ↔ tmxMap.Vented x y := by
  rw [hasFlag_markedBy_iff_exists]
  exact exists_congr fun layer => and_congr_right fun _ => and_congr_right fun _ =>
    (layer.tile x y).hasFlag_tileVent

/-- Every body has the category of its cell: ventilation if the cell has a ventilation
tile, and otherwise wall.  A body belongs to the cell whose rectangle it fills. -/
def Categorised (parser : MapParser) (bodies : List Body) : Prop :=
  ∀ x < parser.tmxMap.width, ∀ y < parser.tmxMap.height, ∀ body ∈ bodies,
    body.pixelBox = parser.tmxMap.cellRect x y →
      body.categoryBits = if parser.tmxMap.Vented x y then .ventilation else .wall

section Categories

variable {parser : MapParser}

theorem categoryBits_of_mem_bodiesOf {body : Body} {x y : Nat}
    (inHeight : y < parser.tmxMap.height)
    (member : body ∈ MapLoader.bodiesOf parser.tileFlags
      (cells parser.tmxMap.width parser.tmxMap.height))
    (fills : body.pixelBox = parser.tmxMap.cellRect x y) :
    body.categoryBits = if parser.tmxMap.Vented x y then .wall else .ventilation := by
  rcases List.mem_map.mp member with ⟨cell, -, rfl⟩
  rw [MapLoader.pixelBox_wallBody, TmxMap.cellRect_eq _ inHeight] at fills
  obtain rfl : cell = (x, parser.tmxMap.height - 1 - y) := tileRect_injective fills
  have vented : hasFlag (parser.tileFlags x (parser.tmxMap.height - 1 - y)) .tileVent = true ↔
      parser.tmxMap.Vented x y := by
    rw [MapParser.tileFlags, flip_flip inHeight]
    exact hasFlag_markedBy_tileVent_iff _ _ _
  simp only [MapLoader.wallBody, vented]

theorem exists_body_of_walled {x y : Nat} (inWidth : x < parser.tmxMap.width)
    (inHeight : y < parser.tmxMap.height) (walled : parser.tmxMap.Walled x y) :
    ∃ body ∈ MapLoader.bodiesOf parser.tileFlags
        (cells parser.tmxMap.width parser.tmxMap.height),
      body.pixelBox = parser.tmxMap.cellRect x y := by
  have once : (((cells parser.tmxMap.width parser.tmxMap.height).filter fun cell =>
      hasFlag (parser.tileFlags cell.1 cell.2) .tileWall).map
        fun cell => id (tileRect cell)).count (parser.tmxMap.cellRect x y) =
      if parser.tmxMap.Walled x y then 1 else 0 :=
    count_solid (.inl rfl) Function.injective_id inWidth inHeight
  rw [if_pos walled] at once
  have present := List.count_pos_iff.mp (once.symm ▸ Nat.zero_lt_one)
  rcases List.mem_map.mp present with ⟨cell, flagged, fills⟩
  refine ⟨_, List.mem_map.mpr ⟨cell, flagged, rfl⟩, ?_⟩
  rw [MapLoader.pixelBox_wallBody]
  exact fills

theorem walled_of_mem_bodiesOf {body : Body}
    (member : body ∈ MapLoader.bodiesOf parser.tileFlags
      (cells parser.tmxMap.width parser.tmxMap.height)) :
    ∃ x < parser.tmxMap.width, ∃ y < parser.tmxMap.height, parser.tmxMap.Walled x y := by
  rcases List.mem_map.mp member with ⟨cell, flagged, rfl⟩
  rcases exists_walled (.inl rfl) flagged with ⟨x, inWidth, y, inHeight, walled, -⟩
  exact ⟨x, inWidth, y, inHeight, walled⟩

/-- Physics categories: every body that loading a map adds has the category of its cell
exactly if it adds none, because no walls layer has a wall tile. -/
theorem categorised_iff (parser : MapParser) (level : Level) :
    ∃ loaded bodies, (parser.parseMap level).bind MapLoader.loadMap = some loaded ∧
      loaded.globalBodies = level.globalBodies ++ bodies ∧
        (Categorised parser bodies ↔
          ∀ x < parser.tmxMap.width, ∀ y < parser.tmxMap.height, ¬ parser.tmxMap.Walled x y) := by
  rcases parser.exists_loadMap level with ⟨loaded, loads, bodies, -⟩
  refine ⟨loaded, _, loads, bodies, ?_, ?_⟩
  · intro categorised x inWidth y inHeight walled
    rcases exists_body_of_walled inWidth inHeight walled with ⟨body, member, fills⟩
    have right := categorised x inWidth y inHeight body member fills
    rw [categoryBits_of_mem_bodiesOf inHeight member fills] at right
    split at right
    · contradiction
    · contradiction
  · intro unwalled x _ y _ body member
    rcases walled_of_mem_bodiesOf member with ⟨column, inWidth, row, inHeight, walled⟩
    exact absurd walled (unwalled column inWidth row inHeight)

end Categories

/-- The wall in the corner collides as ventilation. -/
theorem not_categorised_corner :
    ¬ ∀ (parser : MapParser) (level loaded : Level) (bodies : List Body),
      (parser.parseMap level).bind MapLoader.loadMap = some loaded →
        loaded.globalBodies = level.globalBodies ++ bodies → Categorised parser bodies := by
  intro claimed
  let parser : MapParser := ⟨cornerMap, ⟨"mapset", 1, 64, 64, "tileset.png", 128, 64⟩,
    ⟨"objectset", 3, 64, 64, "objtiles.png", 512, 64⟩⟩
  rcases parser.exists_loadMap emptyLevel with ⟨loaded, loads, added, -⟩
  have categorised := claimed parser emptyLevel loaded _ loads added
  have inWidth : 1 < parser.tmxMap.width := by decide
  have inHeight : 0 < parser.tmxMap.height := by decide
  rcases exists_body_of_walled inWidth inHeight (by decide) with ⟨body, member, fills⟩
  have right := categorised 1 inWidth 0 inHeight body member fills
  rw [categoryBits_of_mem_bodiesOf inHeight member fills] at right
  exact absurd right (by decide)

end LegendOfStealth.Map
