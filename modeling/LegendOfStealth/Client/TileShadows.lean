import LegendOfStealth.Client.BoundingBox
import LegendOfStealth.Client.LevelGeometry
import LegendOfStealth.Client.LineOfSight
import Mathlib.Analysis.Convex.Basic

/-!
# The shadows of a map

The casters that `MapLoader` makes of a map are squares, and `GetShadowVertices` leaves out
those whose square does not overlap the square of the light.  Inside the square of the light
this makes no difference: what hides a pixel from the light meets the line between them, so
it lies in the square as well.  What is marked there depends on the walls of the TMX map.
-/

namespace LegendOfStealth.Drawing

open LegendOfStealth.Library LegendOfStealth.Library.Pipeline LegendOfStealth.Geometry
open LegendOfStealth.Map (MapParser MapLoader.placedCaster MapLoader.castersOf Level PlacedCaster
  tileRect)
open LegendOfStealth.Shadow (AttachedLight AttachedCaster ShadowCaster ShadowLayer edges)
open LegendOfStealth.Shadow.ShadowLayer (hits shapeOf litShapes)

section Rectangles

variable {rect : Rect} {v w : Vec2}

instance (rect : Rect) (v : Vec2) : Decidable (rect.StrictlyInside v) :=
  inferInstanceAs (Decidable (_ ∧ _ ∧ _ ∧ _))

/-- The point that divides a segment. -/
def between (v w : Vec2) (s : ℚ) : Vec2 :=
  ⟨v.x + s * (w.x - v.x), v.y + s * (w.y - v.y)⟩

theorem contains_between (first : rect.Contains v) (second : rect.Contains w) {s : ℚ}
    (inside : 0 ≤ s ∧ s ≤ 1) : rect.Contains (between v w s) := by
  obtain ⟨⟨left, right⟩, bottom, top⟩ := first
  obtain ⟨⟨left', right'⟩, bottom', top'⟩ := second
  constructor
  · exact (convex_Icc _ _).add_smul_sub_mem ⟨left, right⟩ ⟨left', right'⟩ inside
  · exact (convex_Icc _ _).add_smul_sub_mem ⟨bottom, top⟩ ⟨bottom', top'⟩ inside

theorem strictlyInside_between (first : rect.StrictlyInside v) (second : rect.StrictlyInside w)
    {s : ℚ} (inside : 0 ≤ s ∧ s ≤ 1) : rect.StrictlyInside (between v w s) := by
  obtain ⟨left, right, bottom, top⟩ := first
  obtain ⟨left', right', bottom', top'⟩ := second
  have x : (between v w s).x ∈ Set.Ioo rect.x (rect.x + rect.w) :=
    (convex_Ioo _ _).add_smul_sub_mem ⟨left, right⟩ ⟨left', right'⟩ inside
  have y : (between v w s).y ∈ Set.Ioo rect.y (rect.y + rect.h) :=
    (convex_Ioo _ _).add_smul_sub_mem ⟨bottom, top⟩ ⟨bottom', top'⟩ inside
  exact ⟨x.1, x.2, y.1, y.2⟩

end Rectangles

section Culling

variable {engine : Engine} {touching : Bool} {source : AttachedLight} {attached : AttachedCaster}

/-- A caster of which some point of an edge is inside the square of the light is not culled. -/
theorem hits_of_strictlyInside (tests : engine.TestsIntersection touching)
    (placed : attached.caster.localVerts.map (· + attached.object.worldPosition) =
      shapeOf engine attached) {edge : Vec2 × Vec2} (member : edge ∈ edges (shapeOf engine attached))
    {s : ℚ} (inside : 0 ≤ s ∧ s ≤ 1)
    (lit : source.getAABB.StrictlyInside (between edge.1 edge.2 s)) :
    hits engine source attached = true := by
  have shaped : attached.caster.localVerts ≠ [] := by
    rintro none
    rw [none, List.map_nil] at placed
    rw [← placed] at member
    contradiction
  obtain ⟨box, bounds⟩ := ShadowCaster.exists_getAABB attached.object shaped
  have encloses := ShadowCaster.encloses_getAABB bounds
  rw [placed] at encloses
  obtain ⟨first, second⟩ := Shadow.forall_mem_edges_iff.mpr encloses.contains edge member
  obtain ⟨⟨left, right⟩, bottom, top⟩ := contains_between first second inside
  obtain ⟨fromLeft, fromRight, fromBottom, fromTop⟩ := lit
  rw [hits, bounds, Option.any_some, tests]
  refine ⟨⟨?_, ?_⟩, ?_, ?_⟩
  · exact precedes_of_lt (fromLeft.trans_le right)
  · exact precedes_of_lt (left.trans_lt fromRight)
  · exact precedes_of_lt (fromBottom.trans_le top)
  · exact precedes_of_lt (bottom.trans_lt fromTop)

/-- An edge that hides a point of the square from a point of the square belongs to no caster
that is culled. -/
theorem hits_of_strictlyHides (tests : engine.TestsIntersection touching)
    (placed : attached.caster.localVerts.map (· + attached.object.worldPosition) =
      shapeOf engine attached) {edge : Vec2 × Vec2} (member : edge ∈ edges (shapeOf engine attached))
    {p q : Vec2} (hidden : StrictlyHides p edge q)
    (near : source.getAABB.StrictlyInside (displaced p)) (lit : source.getAABB.StrictlyInside q) :
    hits engine source attached = true := by
  obtain ⟨-, s, t, ⟨first, last⟩, ⟨behind, before⟩, meets⟩ := hidden
  have same : between (displaced p) q t = between edge.1 edge.2 s := by
    obtain ⟨x, y⟩ := Prod.ext_iff.mp meets
    exact Vec2.ext x y
  have forward : 0 ≤ t := by linarith
  apply hits_of_strictlyInside tests placed member ⟨first.le, last.le⟩
  rw [← same]
  exact strictlyInside_between near lit ⟨forward, before.le⟩

end Culling

/-- A loaded caster on its game object. -/
def attach (placed : PlacedCaster) : AttachedCaster :=
  ⟨placed.caster, ⟨placed.position, placed.position, ⟨0, 0⟩, ⟨1, 1⟩, none⟩⟩

section Tiles

variable {engine : Engine} {source : AttachedLight} {cell : Nat × Nat}

theorem localVerts_placedCaster (cell : Nat × Nat) :
    let attached := attach (MapLoader.placedCaster cell.1 cell.2)
    attached.caster.localVerts.map (· + attached.object.worldPosition) =
      (tileRect cell).corners :=
  Map.MapLoader.globalVerts_placedCaster cell.1 cell.2

theorem shaped_placedCaster (cell : Nat × Nat) :
    (MapLoader.placedCaster cell.1 cell.2).caster.localVerts ≠ [] := by
  simp [MapLoader.placedCaster, ShadowCaster.setShadowRectangle,
    ShadowCaster.calculateGlobalVertices, Rect.corners]

theorem shapeOf_placedCaster (engine : Engine) (cell : Nat × Nat) :
    shapeOf engine (attach (MapLoader.placedCaster cell.1 cell.2)) = (tileRect cell).corners := by
  have drawn := Map.MapLoader.globalVerts_placedCaster cell.1 cell.2
  rw [ShadowLayer.shapeOf_of_shaped (shaped_placedCaster cell), ShadowLayer.refreshed]
  dsimp only [attach]
  rw [ShadowCaster.refresh]
  split
  · exact drawn
  · exact drawn

end Tiles

/-! ## Maps -/

section Maps

variable {parser : MapParser} {level loaded : Level}

/-- An edge of a walled cell of the map. -/
def WallEdge (parser : MapParser) (edge : Vec2 × Vec2) : Prop :=
  ∃ x < parser.tmxMap.width, ∃ y < parser.tmxMap.height,
    parser.tmxMap.Walled x y ∧ edge ∈ edges (parser.tmxMap.cellRect x y).corners

theorem eq_placedCaster_of_mem {placed : PlacedCaster} {visited : List (Nat × Nat)}
    {flags : Nat → Nat → BitVec 32} (member : placed ∈ MapLoader.castersOf flags visited) :
    ∃ cell : Nat × Nat, placed = MapLoader.placedCaster cell.1 cell.2 := by
  obtain ⟨cell, -, rfl⟩ := List.mem_map.mp member
  exact ⟨cell, rfl⟩

/-- The edges of the loaded casters are those of the walls. -/
theorem wallEdge_iff (engine : Engine) {edge : Vec2 × Vec2} :
    WallEdge parser edge ↔
      ∃ placed ∈ MapLoader.castersOf parser.tileFlags
          (cells parser.tmxMap.width parser.tmxMap.height),
        edge ∈ edges (shapeOf engine (attach placed)) := by
  constructor
  · rintro ⟨x, inWidth, y, inHeight, walled, member⟩
    let cell : Nat × Nat := (x, parser.tmxMap.height - 1 - y)
    refine ⟨MapLoader.placedCaster cell.1 cell.2, ?_, ?_⟩
    · apply List.mem_map.mpr
      refine ⟨cell, List.mem_filter.mpr ⟨mem_cells.mpr ⟨inWidth, by omega⟩, ?_⟩, rfl⟩
      exact (parser.hasFlag_tileFlags inHeight (.inr rfl)).mpr walled
    · rwa [shapeOf_placedCaster, ← Map.TmxMap.cellRect_eq _ inHeight]
  · rintro ⟨placed, member, side⟩
    obtain ⟨cell, flagged, rfl⟩ := List.mem_map.mp member
    obtain ⟨x, inWidth, y, inHeight, walled, same⟩ := Map.exists_walled (.inr rfl) flagged
    rw [shapeOf_placedCaster, same] at side
    exact ⟨x, inWidth, y, inHeight, walled, side⟩

variable {Matrix Light Caster Pixel : Type} [DecidableEq Caster] [Mul Matrix] [One Matrix]
  {engine : Engine} {touching : Bool} {device : Device Matrix Vec2 Color Pixel}
  {place : Matrix → Pixel → Vec2} {opened context : GlContext Matrix} {source : AttachedLight}
  {casters : Caster → AttachedCaster}

/-- The walls and the light: when a map has been loaded, `RenderShadows` marks only pixels
that an edge of a walled cell hides from the displaced light, and inside the square of the
light it marks all that such an edge strictly hides. -/
theorem stencil_loadMap (samples : Samples device place) (zero : engine.ZeroInitialises)
    (tests : engine.TestsIntersection touching)
    (inside : InLoop opened context) (unbound : opened.buffer = 0)
    (tested : opened.stencilTest = true)
    (loads : (parser.parseMap level).bind Map.MapLoader.loadMap = some loaded)
    (bare : level.shadowCasters = []) (layer : ShadowLayer Light Caster)
    (holds : layer.shadowCasters.map casters = loaded.shadowCasters.map attach)
    (near : source.getAABB.StrictlyInside (displaced source.object.worldPosition))
    (surface : ShadowSurface) (buffers : Nat → List Vec2) :
    ∃ shadowverts after,
      layer.getShadowVertices engine source casters = some (shadowverts, after) ∧
        ∀ (pixel : Pixel) (cell : Cell Color),
          let marked := (paint device opened.framebuffer pixel
            (events buffers (surface.renderShadows shadowverts) context) cell).stencil = 1
          let p := source.object.worldPosition
          let q := place opened.matrix pixel
          (marked → ∃ edge, WallEdge parser edge ∧ Hides p edge q) ∧
            (source.getAABB.StrictlyInside q →
              (∃ edge, WallEdge parser edge ∧ StrictlyHides p edge q) → marked) := by
  obtain ⟨_, loads', -, placed⟩ := parser.exists_loadMap level
  cases loads.symm.trans loads'
  rw [bare, List.nil_append] at placed
  have present (attached : AttachedCaster) :
      (∃ obj ∈ layer.shadowCasters, casters obj = attached) ↔
        ∃ tile ∈ MapLoader.castersOf parser.tileFlags
          (cells parser.tmxMap.width parser.tmxMap.height), attach tile = attached := by
    rw [← List.mem_map, holds, placed, List.mem_map]
  have tile {obj : Caster} (member : obj ∈ layer.shadowCasters) :
      ∃ cell : Nat × Nat, casters obj = attach (MapLoader.placedCaster cell.1 cell.2) := by
    obtain ⟨_, member, same⟩ := (present _).mp ⟨obj, member, rfl⟩
    obtain ⟨cell, rfl⟩ := eq_placedCaster_of_mem member
    exact ⟨cell, same.symm⟩
  have shaped : ∀ obj ∈ layer.shadowCasters, (casters obj).caster.localVerts ≠ [] := by
    intro obj member
    obtain ⟨cell, same⟩ := tile member
    rw [same]
    exact shaped_placedCaster cell
  obtain ⟨⟨shadowverts, after⟩, returned⟩ := Option.isSome_iff_exists.mp
    (ShadowLayer.isSome_getShadowVertices_iff.mpr shaped :
      (layer.getShadowVertices engine source casters).isSome)
  refine ⟨shadowverts, after, returned, ?_⟩
  intro pixel cell marked p q
  have shadow : marked ↔ InShadow engine device opened.matrix source casters layer pixel :=
    stencil_eq_one_iff_inShadow inside unbound tested returned surface buffers pixel cell
  obtain ⟨hides, hidden⟩ := samples.inShadow zero opened.matrix source casters layer pixel
  rw [shadow]
  constructor
  · intro dark
    obtain ⟨edge, lit, hides⟩ := hides dark
    obtain ⟨obj, member, -, side⟩ := mem_lit_iff.mp lit
    obtain ⟨tile, loaded, same⟩ := (present _).mp ⟨obj, member, rfl⟩
    exact ⟨edge, (wallEdge_iff engine).mpr ⟨tile, loaded, same ▸ side⟩, hides⟩
  · rintro within ⟨edge, wall, hides⟩
    obtain ⟨tile, loaded, side⟩ := (wallEdge_iff engine).mp wall
    obtain ⟨obj, member, same⟩ := (present _).mpr ⟨tile, loaded, rfl⟩
    obtain ⟨cell, rfl⟩ := eq_placedCaster_of_mem loaded
    have struck : hits engine source (attach (MapLoader.placedCaster cell.1 cell.2)) = true :=
      hits_of_strictlyHides tests
        ((localVerts_placedCaster cell).trans (shapeOf_placedCaster engine cell).symm) side hides
        near within
    exact hidden ⟨edge, mem_lit_iff.mpr ⟨obj, member, same ▸ struck, same ▸ side⟩, hides⟩

end Maps

/-- A light to the left of the wall in the top right corner of a map. -/
theorem stencil_loadMap_corner :
    ∃ parser, MapParser.new (.ok Map.cornerMap) = .ok parser ∧
      ∃ loaded, (parser.parseMap Map.emptyLevel).bind Map.MapLoader.loadMap = some loaded ∧
        ∃ shadowverts after,
          (⟨[()], [()]⟩ : ShadowLayer Unit Unit).getShadowVertices (.exact false)
              (ShadowLayer.lightAt ⟨32, 160⟩)
              (fun _ => attach (MapLoader.placedCaster 1 2)) = some (shadowverts, after) ∧
            (paint Device.sampling 0 ⟨150, 160⟩
              (events (fun _ => []) (ShadowSurface.initial.renderShadows shadowverts)
                { Context.atRest with stencilTest := true }) ⟨white, 0⟩).stencil = 1 := by
  let parser : MapParser := ⟨Map.cornerMap, ⟨"mapset", 1, 64, 64, "tileset.png", 128, 64⟩,
    ⟨"objectset", 3, 64, 64, "objtiles.png", 512, 64⟩⟩
  obtain ⟨loaded, loads, -, placed⟩ := parser.exists_loadMap Map.emptyLevel
  have tiles : MapLoader.castersOf parser.tileFlags
      (cells parser.tmxMap.width parser.tmxMap.height) = [MapLoader.placedCaster 1 2] := by
    decide +kernel
  have holds : [()].map (fun _ => attach (MapLoader.placedCaster 1 2)) =
      loaded.shadowCasters.map attach := by
    rw [placed, tiles]
    rfl
  have source : displaced (ShadowLayer.lightAt ⟨32, 160⟩).object.worldPosition =
      ⟨32000 / 999, 160000 / 999⟩ := by
    decide +kernel
  obtain ⟨shadowverts, after, returned, marks⟩ := stencil_loadMap samples_sampling
    (Engine.zeroInitialises_exact false) (Engine.testsIntersection_exact false)
    (inLoop_refl { Context.atRest with stencilTest := true }) rfl rfl loads rfl ⟨[()], [()]⟩ holds
    (by rw [source]; decide +kernel) .initial (fun _ => [])
  refine ⟨parser, rfl, loaded, loads, shadowverts, after, returned, ?_⟩
  apply (marks ⟨150, 160⟩ ⟨white, 0⟩).2 (by decide +kernel)
  refine ⟨(⟨64, 192⟩, ⟨64, 128⟩), ⟨1, by decide, 0, by decide, by decide, by decide +kernel⟩, ?_, ?_⟩
  · rw [EndOn, source]
    decide +kernel
  · rw [source]
    refine ⟨5871 / 11785, 15968 / 58925, ?_⟩
    norm_num [point, placeOf, Context.atRest]

end LegendOfStealth.Drawing
