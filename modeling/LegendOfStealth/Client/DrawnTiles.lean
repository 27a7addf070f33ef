import LegendOfStealth.Client.MapParser

/-!
# The tiles of the drawable layers

`ParseDrawableLayer` skips empty cells only and looks every other gid up in the map set.
The constructor of the parser asks for the tilesets and not for what they hold, so a layer
may name a tile of another tileset, and the image may be smaller than a tile.
-/

namespace LegendOfStealth.Map

open LegendOfStealth.Library LegendOfStealth.Geometry

/-- The layer is drawn. -/
def Layer.Drawable (layer : Layer) : Prop :=
  layer.name = "background" ∨ layer.name = "foreground"

namespace MapParser

/-- The gids with which `ParseDrawableLayer` calls `GetTextureClip`. -/
def drawnGids (parser : MapParser) (layer : Layer) : List Int :=
  (cells parser.tmxMap.width parser.tmxMap.height).filterMap fun (x, y) =>
    let gid := (layer.tile x y).gid
    if gid = 0 then none else some (gid : Int)

/-- What `GetTextureClip` divides by: integers first, then the dimensions of the image. -/
def divisors (parser : MapParser) (set : Tileset) : List Int :=
  let imgw := parser.mapset.imageWidth
  let imgh := parser.mapset.imageHeight
  [set.tileWidth, set.tileHeight, imgw.tdiv set.tileWidth, imgh.tdiv set.tileHeight, imgw, imgh]

/-- The number of tiles in the image of the map set. -/
def tileCount (parser : MapParser) : Int :=
  parser.mapset.imageWidth.tdiv parser.mapset.tileWidth *
    parser.mapset.imageHeight.tdiv parser.mapset.tileHeight

/-- No call that is made for a layer divides by zero, and each is made with a gid in the
grid of the map set. -/
def SafelyDrawn (parser : MapParser) (layer : Layer) : Prop :=
  ∀ gid ∈ parser.drawnGids layer, 0 ∉ parser.divisors parser.mapset ∧
    0 ≤ gid - parser.mapset.firstGid ∧ gid - parser.mapset.firstGid < parser.tileCount

/-- Every cell of a layer is empty or holds a tile of the image of the map set. -/
def HoldsMapTiles (parser : MapParser) (layer : Layer) : Prop :=
  ∀ x < parser.tmxMap.width, ∀ y < parser.tmxMap.height, (layer.tile x y).gid ≠ 0 →
    parser.mapset.firstGid ≤ (layer.tile x y).gid ∧
      (layer.tile x y).gid < parser.mapset.firstGid + parser.tileCount

variable {parser : MapParser} {layer : Layer}

theorem texClip_parseDrawableLayer (parser : MapParser) (layer : Layer) :
    (parser.parseDrawableLayer layer).tiles.map (·.texClip) =
      (parser.drawnGids layer).map (parser.getTextureClip parser.mapset) := by
  rw [parseDrawableLayer, drawnGids, List.map_filterMap, List.map_filterMap]
  apply List.filterMap_congr
  rintro ⟨x, y⟩ -
  dsimp only
  split
  · rfl
  · rfl

/-- `GetTextureClip` returns exactly if nothing that it divides by is zero. -/
theorem isSome_getTextureClip_iff (parser : MapParser) (set : Tileset) (gid : Int) :
    (parser.getTextureClip set gid).isSome ↔ 0 ∉ parser.divisors set := by
  simp only [divisors, List.mem_cons, List.not_mem_nil, or_false, not_or]
  rw [getTextureClip]
  dsimp only
  split
  · rename_i unsized
    refine iff_of_false Bool.false_ne_true ?_
    rintro ⟨width, height, -⟩
    exact unsized.elim (width ∘ Eq.symm) (height ∘ Eq.symm)
  · rename_i sized
    split
    · rename_i uncounted
      refine iff_of_false Bool.false_ne_true ?_
      rintro ⟨-, -, columns, rows, -⟩
      exact uncounted.elim (columns ∘ Eq.symm) (rows ∘ Eq.symm)
    · rename_i counted
      refine iff_of_true rfl ⟨?_, ?_, ?_, ?_, ?_, ?_⟩
      · exact fun zero => sized (.inl zero.symm)
      · exact fun zero => sized (.inr zero.symm)
      · exact fun zero => counted (.inl zero.symm)
      · exact fun zero => counted (.inr zero.symm)
      -- an image without width has no columns
      · exact fun zero => counted (.inl (by rw [← zero, Int.zero_tdiv]))
      · exact fun zero => counted (.inr (by rw [← zero, Int.zero_tdiv]))

theorem zero_not_mem_divisors (tiles : parser.tileCount ≠ 0) :
    0 ∉ parser.divisors parser.mapset := by
  obtain ⟨columns, rows⟩ := mul_ne_zero_iff.mp tiles
  simp only [divisors, List.mem_cons, List.not_mem_nil, or_false, not_or]
  refine ⟨?_, ?_, columns.symm, rows.symm, ?_, ?_⟩
  · exact fun zero => columns (by rw [← zero, Int.tdiv_zero])
  · exact fun zero => rows (by rw [← zero, Int.tdiv_zero])
  · exact fun zero => columns (by rw [← zero, Int.zero_tdiv])
  · exact fun zero => rows (by rw [← zero, Int.zero_tdiv])

theorem mem_drawnGids {gid : Int} :
    gid ∈ parser.drawnGids layer ↔
      ∃ x < parser.tmxMap.width, ∃ y < parser.tmxMap.height,
        (layer.tile x y).gid ≠ 0 ∧ ((layer.tile x y).gid : Int) = gid := by
  rw [drawnGids, List.mem_filterMap]
  constructor
  · rintro ⟨⟨x, y⟩, member, called⟩
    obtain ⟨inWidth, inHeight⟩ := mem_cells.mp member
    obtain ⟨filled, same⟩ := Option.ite_none_left_eq_some.mp called
    exact ⟨x, inWidth, y, inHeight, filled, Option.some.inj same⟩
  · rintro ⟨x, inWidth, y, inHeight, filled, same⟩
    refine ⟨(x, y), mem_cells.mpr ⟨inWidth, inHeight⟩, ?_⟩
    exact Option.ite_none_left_eq_some.mpr ⟨filled, congrArg some same⟩

/-- One layer is drawn safely exactly if its cells are empty or hold tiles of the map
set. -/
theorem safelyDrawn_iff_holdsMapTiles (parser : MapParser) (layer : Layer) :
    parser.SafelyDrawn layer ↔ parser.HoldsMapTiles layer := by
  constructor
  · intro safely x inWidth y inHeight filled
    obtain ⟨-, low, high⟩ :=
      safely _ (mem_drawnGids.mpr ⟨x, inWidth, y, inHeight, filled, rfl⟩)
    exact ⟨by omega, by omega⟩
  · intro holds gid member
    obtain ⟨x, inWidth, y, inHeight, filled, rfl⟩ := mem_drawnGids.mp member
    obtain ⟨low, high⟩ := holds x inWidth y inHeight filled
    exact ⟨zero_not_mem_divisors (by omega), by omega, by omega⟩

/-- The clips of all tiles of a layer can be calculated exactly if no call that is made for
it divides by zero. -/
theorem isSome_texClip_iff (parser : MapParser) (layer : Layer) :
    (∀ tile ∈ (parser.parseDrawableLayer layer).tiles, tile.texClip.isSome) ↔
      ∀ gid ∈ parser.drawnGids layer, 0 ∉ parser.divisors parser.mapset := by
  have clips : (∀ tile ∈ (parser.parseDrawableLayer layer).tiles, tile.texClip.isSome) ↔
      ∀ clip ∈ (parser.parseDrawableLayer layer).tiles.map (·.texClip), clip.isSome := by
    rw [List.forall_mem_map]
  rw [clips, texClip_parseDrawableLayer, List.forall_mem_map]
  exact forall₂_congr fun gid _ => parser.isSome_getTextureClip_iff parser.mapset gid

/-- Drawable layers: the clips of a layer are what `GetTextureClip` returns for the gids that
it is called with, it returns exactly if nothing that it divides by is zero, and every call
for the layers of a map is safe exactly if the layers that are drawn hold tiles of the map
set only. -/
theorem forall_safelyDrawn_iff (parser : MapParser) :
    (∀ layer, (parser.parseDrawableLayer layer).tiles.map (·.texClip) =
      (parser.drawnGids layer).map (parser.getTextureClip parser.mapset)) ∧
    (∀ gid, (parser.getTextureClip parser.mapset gid).isSome ↔
      0 ∉ parser.divisors parser.mapset) ∧
    ((∀ layer ∈ parser.tmxMap.layers, layer.Drawable → parser.SafelyDrawn layer) ↔
      ∀ layer ∈ parser.tmxMap.layers, layer.Drawable → parser.HoldsMapTiles layer) := by
  refine ⟨parser.texClip_parseDrawableLayer, parser.isSome_getTextureClip_iff parser.mapset, ?_⟩
  apply forall₂_congr
  intro layer _
  apply imp_congr_right
  intro _
  exact parser.safelyDrawn_iff_holdsMapTiles layer

end MapParser

/-- A map that has the ventilation tile of the object set in its background. -/
def ventBackgroundMap : TmxMap where
  width := 1
  height := 1
  tileHeight := 64
  tilesets := [⟨"mapset", 1, 64, 64, "tileset.png", 128, 64⟩,
    ⟨"objectset", 3, 64, 64, "../mapdev/objtiles.png", 320, 320⟩]
  layers := [⟨"background", fun _ _ => ⟨9, 1, 6, by decide⟩⟩]
  objectGroups := []

/-- Its gid is looked up in the map set, which has two tiles. -/
theorem not_safelyDrawn_ventBackground :
    ¬ ∀ (tmxMap : TmxMap) (parser : MapParser), MapParser.new (.ok tmxMap) = .ok parser →
      (1 ≤ parser.mapset.tileWidth ∧ 1 ≤ parser.mapset.tileHeight) →
        (0 ≤ parser.mapset.imageWidth ∧ 0 ≤ parser.mapset.imageHeight) →
          ∀ layer ∈ tmxMap.layers, layer.Drawable → parser.SafelyDrawn layer := by
  intro claimed
  let parser : MapParser := ⟨ventBackgroundMap, ⟨"mapset", 1, 64, 64, "tileset.png", 128, 64⟩,
    ⟨"objectset", 3, 64, 64, "../mapdev/objtiles.png", 320, 320⟩⟩
  have safely := claimed ventBackgroundMap parser rfl (by decide) (by decide) _
    List.mem_cons_self (.inl rfl)
  have called : 9 ∈ parser.drawnGids (ventBackgroundMap.layers.head (List.cons_ne_nil _ _)) := by
    decide
  exact absurd (safely 9 called).2.2 (by decide)

end LegendOfStealth.Map
