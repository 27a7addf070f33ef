import LegendOfStealth.Client.LineOfSight
import LegendOfStealth.Client.StaleArrays
import LegendOfStealth.Client.Upload

/-!
# What a map layer shows

A map layer is drawn with one call for all its tiles, from the buffers that were filled when
the map was parsed.  The rectangles of the cells meet on their sides only, so a pixel inside
a cell shows the tile of the cell, once, and the pixels of an empty cell stay as they are.
-/

namespace LegendOfStealth.Drawing

open LegendOfStealth.Library LegendOfStealth.Library.Pipeline LegendOfStealth.Geometry
open LegendOfStealth.Map (MapParser)

variable {Matrix Pixel : Type}

section Rectangles

variable {rect : Rect}

theorem sides_corners (rect : Rect) (q : Vec2) :
    sides (rect.corners.map point) (point q) =
      [rect.w * (q.y - rect.y), rect.h * (rect.x + rect.w - q.x),
        rect.w * (rect.y + rect.h - q.y), rect.h * (q.x - rect.x)] := by
  simp only [sides, Rect.corners, point, cross, List.map_cons, List.map_nil,
    List.rotate_cons_succ, List.rotate_zero, List.cons_append, List.nil_append,
    List.zip_cons_cons, List.zip_nil_right, Prod.mk_sub_mk, List.cons.injEq, and_true]
  refine ⟨?_, ?_, ?_, ?_⟩ <;> ring

theorem convex_corners (wide : 0 < rect.w) (high : 0 < rect.h) :
    ConvexPolygon (rect.corners.map point) := by
  have area : 0 < rect.w * rect.h := mul_pos wide high
  left
  simp only [turns, Rect.corners, point, cross, List.map_cons, List.map_nil,
    List.rotate_cons_succ, List.rotate_zero, List.cons_append, List.nil_append,
    List.zip_cons_cons, List.zip_nil_right, Prod.mk_sub_mk, List.forall_mem_cons]
  refine ⟨?_, ?_, ?_, ?_, fun _ member => absurd member List.not_mem_nil⟩ <;> linarith

theorem interior_corners {q : Vec2} (inside : rect.StrictlyInside q) :
    Interior (rect.corners.map point) (point q) := by
  obtain ⟨left, right, bottom, top⟩ := inside
  have wide : 0 < rect.w := by linarith
  have high : 0 < rect.h := by linarith
  left
  simp only [sides_corners, List.forall_mem_cons]
  exact ⟨mul_pos wide (by linarith), mul_pos high (by linarith), mul_pos wide (by linarith),
    mul_pos high (by linarith), fun _ member => absurd member List.not_mem_nil⟩

theorem contains_of_within {q : Vec2} (wide : 0 < rect.w) (high : 0 < rect.h)
    (within : Within (rect.corners.map point) (point q)) : rect.Contains q := by
  rw [Within, WeaklyOneSided, sides_corners] at within
  simp only [List.forall_mem_cons] at within
  rcases within with ⟨bottom, right, top, left, -⟩ | ⟨bottom, right, top, left, -⟩
  · have bottom := nonneg_of_mul_nonneg_right bottom wide
    have right := nonneg_of_mul_nonneg_right right high
    have top := nonneg_of_mul_nonneg_right top wide
    have left := nonneg_of_mul_nonneg_right left high
    exact ⟨⟨by linarith, by linarith⟩, by linarith, by linarith⟩
  · -- nothing is on the right of all sides
    have bottom := nonpos_of_mul_nonpos_right bottom wide
    have top := nonpos_of_mul_nonpos_right top wide
    linarith

end Rectangles

/-- Two floats are a vertex. -/
def vertexPairs : List ℚ → List Vec2
  | x :: y :: rest => ⟨x, y⟩ :: vertexPairs rest
  | _ => []

/-- What the buffers hold when they are read as vertices. -/
def Buffers.arrays (buffers : Buffers) (name : Nat) : List Vec2 :=
  vertexPairs ((buffers name).getD [])

theorem vertexPairs_pushedAll (rects : List Rect) :
    vertexPairs (pushedAll rects) = rects.flatMap Rect.corners := by
  induction rects with
  | nil => rfl
  | cons rect rest ih =>
      rw [List.flatMap_cons, ← ih]
      rfl

theorem length_flatMap_corners (rects : List Rect) :
    (rects.flatMap Rect.corners).length = rects.length * 4 := by
  induction rects with
  | nil => rfl
  | cons rect rest ih =>
      rw [List.flatMap_cons, List.length_append, ih, List.length_cons]
      simp only [Rect.corners, List.length_cons, List.length_nil]
      omega

theorem quadsOf_corners (rects : List Rect) :
    quadsOf (rects.flatMap Rect.corners) = rects.map Rect.corners :=
  quadsOf_flatMap (fun _ => ⟨_, _, _, _, rfl⟩) rects

/-- The point of the image that is shown at a point of a tile. -/
def tilePoint (world clip : Rect) (q : Vec2) : Vec2 :=
  ⟨clip.x + clip.w * ((q.x - world.x) / world.w), clip.y + clip.h * ((q.y - world.y) / world.h)⟩

/-- A device that samples textures: without a program a point of a rectangle has the colour
of the texture at the corresponding point, if no other quad covers it. -/
structure Textures (device : Device Matrix Vec2 Color Pixel) (place : Matrix → Pixel → Vec2)
    (texel : Nat → Vec2 → Color → Color) : Prop extends Samples device place where
  fragment : ∀ (world clip : Rect) {call : Pipeline.Draw Matrix Vec2 Color} {pixel texture coords},
    call.mode = .quads → call.program = 0 → call.texture = some texture →
      call.texCoords = some coords → world.StrictlyInside (place call.matrix pixel) →
        (world.corners, clip.corners) ∈ (quadsOf call.vertices).zip (quadsOf coords) →
          (∀ quad ∈ (quadsOf call.vertices).zip (quadsOf coords),
            device.covers call.matrix .quads quad.1 pixel = true →
              quad = (world.corners, clip.corners)) →
            device.fragment call pixel =
              texel texture (tilePoint world clip (place call.matrix pixel)) call.color

section Tiles

variable [Mul Matrix] [One Matrix] {device : Device Matrix Vec2 Color Pixel}
  {place : Matrix → Pixel → Vec2} {texel : Nat → Vec2 → Color → Color}
  {toolkit : Toolkit Matrix} {context : GlContext Matrix} {tiles : List (Rect × Rect)}
  {layer : MapLayer} {buffers : Buffers} {pixel : Pixel}

theorem events_of_filled (lawful : toolkit.Lawful) (context : GlContext Matrix)
    (filled : Filled tiles layer buffers) (some : tiles ≠ []) (texture : Nat) :
    ∃ call, events buffers.arrays (renderMapLayer toolkit texture layer) context = [.draw call] ∧
      call.target = context.framebuffer ∧ call.matrix = context.matrix ∧ call.mode = .quads ∧
        call.vertices = (tiles.map Prod.fst).flatMap Rect.corners ∧
          call.texCoords = Option.some ((tiles.map Prod.snd).flatMap Rect.corners) ∧
            call.texture = Option.some texture ∧ call.program = context.program ∧
              call.color = context.color ∧
                call.stencil = (if context.stencilTest then Option.some context.stencil else none) ∧
                  call.blend = context.blend := by
  obtain ⟨vertNonzero, vertices⟩ := filled.vertices some
  obtain ⟨texNonzero, texCoords⟩ := filled.texCoords some
  have tiled : layer.numTiles ≠ 0 := by
    rw [filled.numTiles]
    exact mt List.eq_nil_of_length_eq_zero some
  have held {name : Nat} (nonzero : name ≠ 0) {rects : List Rect}
      (holds : buffers name = Option.some (pushedAll rects)) (count : rects.length = layer.numTiles) :
      ((bufferSource name).elements buffers.arrays).take (layer.numTiles * 4) =
        rects.flatMap Rect.corners := by
    rw [bufferSource, if_neg nonzero, Source.elements, Buffers.arrays, holds, Option.getD_some,
      vertexPairs_pushedAll, ← count, ← length_flatMap_corners, List.take_length]
  refine ⟨_, events_renderMapLayer lawful texture tiled, rfl, rfl, rfl, ?_, ?_, rfl, rfl, rfl, rfl,
    rfl⟩
  · exact held vertNonzero vertices (by rw [List.length_map, filled.numTiles])
  · exact congrArg Option.some
      (held texNonzero texCoords (by rw [List.length_map, filled.numTiles]))

/-- The tiles that cover a pixel are blended over it. -/
theorem paint_of_filled (textures : Textures device place texel) (lawful : toolkit.Lawful)
    (untested : context.stencilTest = false) (unprogrammed : context.program = 0)
    (filled : Filled tiles layer buffers) (texture : Nat) (pixel : Pixel) :
    ∃ fragment,
      (∀ cell, paint device context.framebuffer pixel
          (events buffers.arrays (renderMapLayer toolkit texture layer) context) cell =
        (tiles.filter fun tile => device.covers context.matrix .quads tile.1.corners pixel).foldl
          (fun cell _ => { cell with color := device.blend context.blend fragment cell.color })
          cell) ∧
      ∀ tile ∈ tiles, tile.1.StrictlyInside (place context.matrix pixel) →
        (∀ other ∈ tiles,
          device.covers context.matrix .quads other.1.corners pixel = true → other = tile) →
          fragment =
            texel texture (tilePoint tile.1 tile.2 (place context.matrix pixel)) context.color := by
  by_cases none : tiles = []
  · subst none
    refine ⟨context.color, fun cell => ?_, fun _ member => absurd member List.not_mem_nil⟩
    rw [renderMapLayer_of_empty filled.numTiles]
    rfl
  · obtain ⟨call, seen, target, matrix, mode, vertices, texCoords, textured, program, color,
      stencil, blend⟩ := events_of_filled lawful context filled none texture
    have primitives : call.primitives = (tiles.map Prod.fst).map Rect.corners := by
      rw [Pipeline.Draw.primitives, if_pos mode, vertices, quadsOf_corners]
    refine ⟨device.fragment call pixel, ?_, ?_⟩
    · intro cell
      rw [seen, paint_cons, paint_nil, Event.paint, if_pos target, paint_eq_foldl_filter,
        primitives, List.map_map, List.filter_map, List.foldl_map, matrix, mode]
      congr 1
      funext cell _
      rw [Draw.shade, stencil, untested]
      simp only [Bool.false_eq_true, if_false, Draw.blended, blend]
    · intro tile member inside unique
      have quads : (quadsOf call.vertices).zip
          (quadsOf ((tiles.map Prod.snd).flatMap Rect.corners)) =
            tiles.map fun tile => (tile.1.corners, tile.2.corners) := by
        rw [vertices, quadsOf_corners, quadsOf_corners, List.map_map, List.map_map, List.zip_map']
        rfl
      have same := textures.fragment tile.1 tile.2 mode
        (program.trans unprogrammed) textured texCoords (matrix.symm ▸ inside)
        (by rw [quads]; exact List.mem_map_of_mem member) ?_
      · rw [same, matrix, color]
      · rw [quads]
        intro quad found covers
        obtain ⟨other, among, rfl⟩ := List.mem_map.mp found
        rw [unique other among (matrix ▸ covers)]

end Tiles

section Cells

variable {parser : MapParser} {x y x' y' : Nat} {q : Vec2}

theorem index_le {size : ℚ} {first second : Int} (positive : 0 < size)
    (below : (first : ℚ) * size < second * size + size) : first ≤ second := by
  have less : (first : ℚ) < second + 1 := by
    apply lt_of_mul_lt_mul_right _ positive.le
    linarith
  exact Int.lt_add_one_iff.mp (by exact_mod_cast less)

theorem cell_eq_of_contains
    (inside : (parser.getWorldClip parser.mapset x y).StrictlyInside q)
    (contains : (parser.getWorldClip parser.mapset x' y').Contains q) : (x', y') = (x, y) := by
  simp only [MapParser.getWorldClip, Rect.StrictlyInside, Int.cast_mul] at inside
  simp only [MapParser.getWorldClip, Rect.Contains, Int.cast_mul] at contains
  obtain ⟨left, right, bottom, top⟩ := inside
  obtain ⟨⟨left', right'⟩, bottom', top'⟩ := contains
  have wide : (0 : ℚ) < parser.mapset.tileWidth := by linarith
  have high : (0 : ℚ) < parser.mapset.tileHeight := by linarith
  have column : (x' : Int) = x :=
    le_antisymm (index_le wide (left'.trans_lt right)) (index_le wide (left.trans_le right'))
  have row : parser.flipY y' = parser.flipY y :=
    le_antisymm (index_le high (bottom'.trans_lt top)) (index_le high (bottom.trans_le top'))
  rw [MapParser.flipY, MapParser.flipY] at row
  rw [Prod.mk.injEq]
  exact ⟨by exact_mod_cast column, by omega⟩

/-- The tile that is added for a cell. -/
def cellTile (parser : MapParser) (layer : Map.Layer) (cell : Nat × Nat) : Option (Rect × Rect) :=
  let gid := (layer.tile cell.1 cell.2).gid
  if gid = 0 then none
  else (parser.getTextureClip parser.mapset gid).map
    (parser.getWorldClip parser.mapset cell.1 cell.2, ·)

theorem tileRects_parseDrawableLayer (parser : MapParser) (layer : Map.Layer) :
    tileRects (parser.parseDrawableLayer layer) =
      (cells parser.tmxMap.width parser.tmxMap.height).filterMap (cellTile parser layer) := by
  rw [tileRects, MapParser.parseDrawableLayer, List.filterMap_filterMap]
  apply List.filterMap_congr
  rintro ⟨x, y⟩ -
  dsimp only [cellTile]
  split
  · rfl
  · rfl

theorem fst_of_mem_cellTile {layer : Map.Layer} {cell : Nat × Nat} {tile : Rect × Rect}
    (added : cellTile parser layer cell = some tile) :
    tile.1 = parser.getWorldClip parser.mapset cell.1 cell.2 := by
  obtain ⟨-, made⟩ := Option.ite_none_left_eq_some.mp added
  obtain ⟨clip, -, rfl⟩ := Option.map_eq_some_iff.mp made
  rfl

/-- If only one element of a list is selected, its image is all that is left. -/
theorem filterMap_eq_toList {α β : Type} {elements : List α} (distinct : elements.Nodup)
    {image : α → Option β} {x : α} (member : x ∈ elements)
    (only : ∀ other ∈ elements, other ≠ x → image other = none) :
    elements.filterMap image = (image x).toList := by
  obtain ⟨before, after, rfl⟩ := List.append_of_mem member
  obtain ⟨-, ⟨notAfter, -⟩, apart⟩ : before.Nodup ∧ (x ∉ after ∧ after.Nodup) ∧
      ∀ other ∈ before, other ≠ x := by
    rw [List.nodup_append, List.nodup_cons] at distinct
    exact ⟨distinct.1, distinct.2.1, fun other among => distinct.2.2 other among x List.mem_cons_self⟩
  have unselected {part : List α} (among : ∀ other ∈ part, other ∈ before ++ x :: after)
      (different : ∀ other ∈ part, other ≠ x) : part.filterMap image = [] := by
    rw [List.filterMap_eq_nil_iff]
    exact fun other found => only other (among other found) (different other found)
  rw [List.filterMap_append, unselected (fun _ => List.mem_append_left _) apart,
    List.nil_append, List.filterMap_cons,
    unselected (fun _ found => List.mem_append_right _ (List.mem_cons_of_mem _ found))
      (fun _ found same => notAfter (same ▸ found))]
  cases image x with
  | none => rfl
  | some _ => rfl

variable {device : Device Matrix Vec2 Color Pixel} {place : Matrix → Pixel → Vec2}
  {matrix : Matrix} {pixel : Pixel} {layer : Map.Layer}

/-- The tile of a cell covers the pixels inside that cell, and none inside another one. -/
theorem covers_worldClip_iff (samples : Samples device place)
    (inside : (parser.getWorldClip parser.mapset x y).StrictlyInside (place matrix pixel))
    (x' y' : Nat) :
    device.covers matrix .quads (parser.getWorldClip parser.mapset x' y').corners pixel = true ↔
      (x', y') = (x, y) := by
  -- all cells are as large
  have wide : 0 < (parser.getWorldClip parser.mapset x' y').w :=
    (lt_add_iff_pos_right _).mp (inside.1.trans inside.2.1)
  have high : 0 < (parser.getWorldClip parser.mapset x' y').h :=
    (lt_add_iff_pos_right _).mp (inside.2.2.1.trans inside.2.2.2)
  have convex := convex_corners wide high
  constructor
  · intro covers
    exact cell_eq_of_contains inside (contains_of_within wide high (samples.within rfl convex covers))
  · intro same
    cases same
    exact samples.interior rfl convex (interior_corners inside)

/-- What covers a pixel inside a cell is the tile of the cell. -/
theorem filter_tileRects (samples : Samples device place) (inWidth : x < parser.tmxMap.width)
    (inHeight : y < parser.tmxMap.height)
    (inside : (parser.getWorldClip parser.mapset x y).StrictlyInside (place matrix pixel))
    (layer : Map.Layer) :
    ((tileRects (parser.parseDrawableLayer layer)).filter fun tile =>
        device.covers matrix .quads tile.1.corners pixel) =
      (cellTile parser layer (x, y)).toList := by
  have covers {cell : Nat × Nat} {tile : Rect × Rect}
      (added : cellTile parser layer cell = some tile) :
      device.covers matrix .quads tile.1.corners pixel = true ↔ cell = (x, y) := by
    rw [fst_of_mem_cellTile added]
    exact covers_worldClip_iff samples inside cell.1 cell.2
  rw [tileRects_parseDrawableLayer, List.filter_filterMap,
    filterMap_eq_toList (nodup_cells _ _) (mem_cells.mpr ⟨inWidth, inHeight⟩)]
  · cases added : cellTile parser layer (x, y) with
    | none => rfl
    | some tile => exact congrArg Option.toList (Option.filter_some_pos ((covers added).mpr rfl))
  · intro cell _ different
    cases added : cellTile parser layer cell with
    | none => rfl
    | some tile =>
        exact Option.filter_some_neg (Bool.eq_false_iff.mpr (mt (covers added).mp different))

end Cells

/-! ## The map on the screen -/

section Picture

variable [Mul Matrix] [One Matrix] {device : Device Matrix Vec2 Color Pixel}
  {place : Matrix → Pixel → Vec2} {texel : Nat → Vec2 → Color → Color}
  {toolkit : Toolkit Matrix} {context : GlContext Matrix} {parser : MapParser} {buffers : Buffers}
  {made : MapLayer} {layer : Map.Layer}

/-- What a pixel inside a cell shows after a layer has been drawn. -/
theorem paint_cell (textures : Textures device place texel) (lawful : toolkit.Lawful)
    (untested : context.stencilTest = false) (unprogrammed : context.program = 0)
    (madeOf : Screen.MadeOf parser buffers made layer) {x y : Nat}
    (inWidth : x < parser.tmxMap.width) (inHeight : y < parser.tmxMap.height) {pixel : Pixel}
    (inside : (parser.getWorldClip parser.mapset x y).StrictlyInside (place context.matrix pixel))
    (texture : Nat) (cell : Cell Color) :
    let painted := paint device context.framebuffer pixel
      (events buffers.arrays (renderMapLayer toolkit texture made) context) cell
    let q := place context.matrix pixel
    ((layer.tile x y).gid = 0 → painted = cell) ∧
      ((layer.tile x y).gid ≠ 0 →
        ∃ clip, parser.getTextureClip parser.mapset (layer.tile x y).gid = some clip ∧
          painted = { cell with
            color := device.blend context.blend
              (texel texture (tilePoint (parser.getWorldClip parser.mapset x y) clip q)
                context.color)
              cell.color }) := by
  intro painted q
  obtain ⟨fragment, blended, shown⟩ :=
    paint_of_filled textures lawful untested unprogrammed madeOf.filled texture pixel
  have only := filter_tileRects textures.toSamples inWidth inHeight inside layer
  have painted_eq : painted = ((cellTile parser layer (x, y)).toList).foldl
      (fun cell _ => { cell with color := device.blend context.blend fragment cell.color }) cell :=
    (blended cell).trans (by rw [only])
  constructor
  · intro empty
    rw [painted_eq, cellTile, if_pos empty]
    rfl
  · intro full
    have parsed : ⟨parser.getWorldClip parser.mapset x y,
        parser.getTextureClip parser.mapset (layer.tile x y).gid⟩ ∈
          (parser.parseDrawableLayer layer).tiles :=
      List.mem_filterMap.mpr ⟨(x, y), mem_cells.mpr ⟨inWidth, inHeight⟩, if_neg full⟩
    obtain ⟨clip, calculated⟩ : ∃ clip,
        parser.getTextureClip parser.mapset (layer.tile x y).gid = some clip :=
      Option.isSome_iff_exists.mp (madeOf.safe _ parsed)
    have added : cellTile parser layer (x, y) =
        some (parser.getWorldClip parser.mapset x y, clip) :=
      (if_neg full).trans (congrArg (Option.map _) calculated)
    rw [added, Option.toList_some] at only painted_eq
    have found (tile : Rect × Rect) :
        (tile ∈ tileRects (parser.parseDrawableLayer layer) ∧
            device.covers context.matrix .quads tile.1.corners pixel = true) ↔
          tile = (parser.getWorldClip parser.mapset x y, clip) := by
      rw [← List.mem_singleton (a := tile), ← only, List.mem_filter]
    have sampled := shown _ ((found _).mpr rfl).1 inside fun other member covers =>
      (found other).mp ⟨member, covers⟩
    refine ⟨clip, calculated, ?_⟩
    rw [painted_eq, sampled]
    rfl

theorem paint_outside (textures : Textures device place texel) (lawful : toolkit.Lawful)
    (untested : context.stencilTest = false) (unprogrammed : context.program = 0)
    (madeOf : Screen.MadeOf parser buffers made layer)
    (wide : 0 < parser.mapset.tileWidth) (high : 0 < parser.mapset.tileHeight) {pixel : Pixel}
    (outside : ∀ x < parser.tmxMap.width, ∀ y < parser.tmxMap.height,
      ¬ (parser.getWorldClip parser.mapset x y).Contains (place context.matrix pixel))
    (texture : Nat) (cell : Cell Color) :
    paint device context.framebuffer pixel
      (events buffers.arrays (renderMapLayer toolkit texture made) context) cell = cell := by
  obtain ⟨fragment, blended, -⟩ :=
    paint_of_filled textures lawful untested unprogrammed madeOf.filled texture pixel
  have uncovered : ((tileRects (parser.parseDrawableLayer layer)).filter fun tile =>
      device.covers context.matrix .quads tile.1.corners pixel) = [] := by
    rw [List.filter_eq_nil_iff, tileRects_parseDrawableLayer]
    intro tile member covers
    obtain ⟨⟨x, y⟩, among, added⟩ := List.mem_filterMap.mp member
    obtain ⟨inWidth, inHeight⟩ := mem_cells.mp among
    rw [fst_of_mem_cellTile added] at covers
    have wide : 0 < (parser.getWorldClip parser.mapset x y).w := Int.cast_pos.mpr wide
    have high : 0 < (parser.getWorldClip parser.mapset x y).h := Int.cast_pos.mpr high
    exact outside x inWidth y inHeight (contains_of_within wide high
      (textures.within rfl (convex_corners wide high) covers))
  rw [blended, uncovered]
  rfl

/-- The map on the screen: when a map has been parsed, drawing its background or its
foreground shows in every cell the tile that the last layer of that name has there, sampled
from the clip that was calculated for its gid, and changes neither the empty cells nor
anything outside the map. -/
theorem paint_parsedMap (textures : Textures device place texel) (lawful : toolkit.Lawful)
    (untested : context.stencilTest = false) (unprogrammed : context.program = 0)
    (wide : 0 < parser.mapset.tileWidth) (high : 0 < parser.mapset.tileHeight)
    {layers : List (Map.Layer × Nat × Nat)} (whole : layers.map Prod.fst = parser.tmxMap.layers)
    {screen : Screen} (parsed : (Screen.start buffers).parseMap parser layers = some screen)
    {name : String} (slot : name = "background" ∧ screen.bgLayer = some made ∨
      name = "foreground" ∧ screen.fgLayer = some made)
    (texture : Nat) :
    ∃ layer, latest name parser.tmxMap.layers = some layer ∧ ∀ (pixel : Pixel) (cell : Cell Color),
      let painted := paint device context.framebuffer pixel
        (events screen.buffers.arrays (renderMapLayer toolkit texture made) context) cell
      let q := place context.matrix pixel
      (∀ x < parser.tmxMap.width, ∀ y < parser.tmxMap.height,
        let world := parser.getWorldClip parser.mapset x y
        world.StrictlyInside q →
          ((layer.tile x y).gid = 0 → painted = cell) ∧
            ((layer.tile x y).gid ≠ 0 →
              ∃ clip, parser.getTextureClip parser.mapset (layer.tile x y).gid = some clip ∧
                painted = { cell with
                  color := device.blend context.blend
                    (texel texture (tilePoint world clip q) context.color) cell.color })) ∧
      ((∀ x < parser.tmxMap.width, ∀ y < parser.tmxMap.height,
        ¬ (parser.getWorldClip parser.mapset x y).Contains q) → painted = cell) := by
  have shows := (Screen.shows_of_parseMap parsed).1
  rw [whole] at shows
  obtain ⟨layer, last, madeOf⟩ : ∃ layer, latest name parser.tmxMap.layers = some layer ∧
      Screen.MadeOf parser screen.buffers made layer := by
    rcases slot with ⟨rfl, shown⟩ | ⟨rfl, shown⟩
    · exact Screen.MadeOf.of_slot (shown ▸ shows.background)
    · exact Screen.MadeOf.of_slot (shown ▸ shows.foreground)
  refine ⟨layer, last, fun pixel cell => ⟨?_, ?_⟩⟩
  · intro x inWidth y inHeight world inside
    exact paint_cell textures lawful untested unprogrammed madeOf inWidth inHeight inside texture cell
  · intro outside
    exact paint_outside textures lawful untested unprogrammed madeOf wide high outside texture cell

end Picture

/-! ## Exact sampling -/

/-- The rectangle with given corners. -/
def boundsOf : List Vec2 → Rect
  | [first, _, third, _] => ⟨first.x, first.y, third.x - first.x, third.y - first.y⟩
  | _ => ⟨0, 0, 0, 0⟩

theorem boundsOf_corners (rect : Rect) : boundsOf rect.corners = rect := by
  simp [boundsOf, Rect.corners]

/-- A picture in which the colour tells the place. -/
def gradient (texture : Nat) (p : Vec2) (color : Color) : Color :=
  ⟨p.x, p.y, texture, color.a⟩

/-- The first quad that covers a pixel is sampled. -/
def Device.texturing : Device Translation Vec2 Color Vec2 :=
  { Device.sampling with
    fragment := fun call pixel =>
      match call.texture, call.texCoords with
      | some texture, some coords =>
          (((quadsOf call.vertices).zip (quadsOf coords)).find? fun quad =>
              Device.sampling.covers call.matrix .quads quad.1 pixel).elim call.color fun quad =>
            gradient texture
              (tilePoint (boundsOf quad.1) (boundsOf quad.2) (placeOf call.matrix pixel)) call.color
      | _, _ => call.color }

theorem textures_texturing : Textures Device.texturing placeOf gradient where
  interior := samples_sampling.interior
  within := samples_sampling.within
  flat := samples_sampling.flat
  fragment := by
    intro world clip call pixel texture coords _ _ textured coordinates inside member unique
    have covers : Device.sampling.covers call.matrix .quads world.corners pixel = true :=
      (sampling_covers_iff _ _ _ _).mpr (interior_corners inside)
    let covering (quad : List Vec2 × List Vec2) : Bool :=
      Device.sampling.covers call.matrix .quads quad.1 pixel
    obtain ⟨quad, first⟩ :
        ∃ quad, ((quadsOf call.vertices).zip (quadsOf coords)).find? covering = some quad :=
      Option.isSome_iff_exists.mp (List.find?_isSome.mpr ⟨_, member, covers⟩)
    have chosen : covering quad = true := List.find?_some first
    have same := unique quad (List.mem_of_find?_eq_some first) chosen
    simp only [covering] at first
    simp only [Device.texturing, textured, coordinates, first, same, Option.elim_some,
      boundsOf_corners]

/-- A quarter of the way into the tile, the image is white up to the height of the pixel. -/
theorem paint_parsedMap_meadow :
    ∃ screen made,
      (Screen.start fun _ => none).parseMap Screen.meadow
          (Screen.meadow.tmxMap.layers.map fun layer => (layer, 1, 2)) = some screen ∧
        screen.bgLayer = some made ∧
          (paint Device.texturing 0 ⟨16, 16⟩
            (events screen.buffers.arrays (renderMapLayer .translations 1 made) Context.atRest)
              ⟨⟨0, 0, 0, 0⟩, 0⟩).color = ⟨5 / 8, 1 / 4, 1, 1⟩ := by
  have parses : ((Screen.start fun _ => none).parseMap Screen.meadow
      (Screen.meadow.tmxMap.layers.map fun layer => (layer, 1, 2))).isSome = true := by
    decide +kernel
  obtain ⟨screen, parsed⟩ := Option.isSome_iff_exists.mp parses
  have shown : (((Screen.start fun _ => none).parseMap Screen.meadow
      (Screen.meadow.tmxMap.layers.map fun layer => (layer, 1, 2))).bind Screen.bgLayer).isSome = true := by
    decide +kernel
  rw [parsed, Option.bind_some] at shown
  obtain ⟨made, shown⟩ := Option.isSome_iff_exists.mp shown
  refine ⟨screen, made, parsed, shown, ?_⟩
  have untested : Context.atRest.stencilTest = false := rfl
  obtain ⟨layer, last, picture⟩ := paint_parsedMap textures_texturing Toolkit.lawful_translations
    untested rfl (by decide) (by decide) rfl parsed (.inl ⟨rfl, shown⟩) 1
  cases last
  obtain ⟨-, full⟩ := (picture ⟨16, 16⟩ ⟨⟨0, 0, 0, 0⟩, 0⟩).1 0 (by decide) 0 (by decide)
    (by rw [Rect.StrictlyInside]; decide +kernel)
  obtain ⟨clip, calculated, painted⟩ := full (by decide)
  cases calculated
  refine (congrArg Cell.color painted).trans ?_
  decide +kernel

end LegendOfStealth.Drawing
