import LegendOfStealth.Client.Lighting
import LegendOfStealth.Library.Projection

/-!
# Lines of sight

`RenderShadows` marks the pixels over which the casters throw a shadow.  The far side of a
quad lies where the near side is projected to from a point that is a little further from the
origin than the light.  So the shadows are those of a light at that point: a pixel is marked
if an edge hides it from there, up to a thousand times the distance of the edge.
-/

namespace LegendOfStealth.Drawing

open LegendOfStealth.Library LegendOfStealth.Library.Pipeline LegendOfStealth.Geometry
open LegendOfStealth.Shadow (AttachedLight AttachedCaster ShadowLayer edges)
open LegendOfStealth.Shadow.ShadowLayer (edgeQuad litShapes projected)

variable {Matrix Light Caster Pixel : Type}

/-- The coordinates of a vector. -/
def point (v : Vec2) : ℚ × ℚ :=
  (v.x, v.y)

/-- Where the light is that the shadows are thrown from. -/
def displaced (p : Vec2) : Vec2 :=
  ⟨1000 / 999 * p.x, 1000 / 999 * p.y⟩

/-- The quad of an edge is the edge and its image. -/
theorem edgeQuad_eq_castQuad {engine : Engine} (zero : engine.ZeroInitialises) (p : Vec2)
    (edge : Vec2 × Vec2) :
    (edgeQuad engine p edge).map point =
      castQuad 1000 (point (displaced p)) (point edge.1) (point edge.2) := by
  have image (v : Vec2) : point (projected engine p v) =
      point (displaced p) + (1000 : ℚ) • (point v - point (displaced p)) := by
    rw [Engine.ZeroInitialises] at zero
    ext
    · simp only [point, projected, displaced, zero, Prod.fst_add, Prod.smul_fst, Prod.fst_sub,
        smul_eq_mul]
      ring
    · simp only [point, projected, displaced, zero, Prod.snd_add, Prod.smul_snd, Prod.snd_sub,
        smul_eq_mul]
      ring
  simp only [edgeQuad, List.map_cons, List.map_nil, image, castQuad]

/-- Quads are filled by sampling: a pixel has a place in the coordinates of the vertices; a
convex quad covers it if the place is inside, does not if it is outside, and may do either
on an edge.  A quad without area covers nothing. -/
structure Samples (device : Device Matrix Vec2 Color Pixel)
    (place : Matrix → Pixel → Vec2) : Prop where
  interior : ∀ {matrix quad pixel}, quad.length = 4 → ConvexPolygon (quad.map point) →
    Interior (quad.map point) (point (place matrix pixel)) →
      device.covers matrix .quads quad pixel = true
  within : ∀ {matrix quad pixel}, quad.length = 4 → ConvexPolygon (quad.map point) →
    device.covers matrix .quads quad pixel = true →
      Within (quad.map point) (point (place matrix pixel))
  flat : ∀ {matrix quad pixel}, quad.length = 4 → FlatPolygon (quad.map point) →
    device.covers matrix .quads quad pixel = false

/-- The edge is seen from its end. -/
def EndOn (p : Vec2) (edge : Vec2 × Vec2) : Prop :=
  cross (point edge.1 - point (displaced p)) (point edge.2 - point (displaced p)) = 0

/-- The edge meets the line of sight from the displaced light. -/
def Hides (p : Vec2) (edge : Vec2 × Vec2) (q : Vec2) : Prop :=
  ¬ EndOn p edge ∧ Blocks 1000 (point (displaced p)) (point edge.1) (point edge.2) (point q)

/-- It meets it between its ends, and what is hidden is behind it. -/
def StrictlyHides (p : Vec2) (edge : Vec2 × Vec2) (q : Vec2) : Prop :=
  ¬ EndOn p edge ∧
    StrictlyBlocks 1000 (point (displaced p)) (point edge.1) (point edge.2) (point q)

section Sight

variable {engine : Engine} {device : Device Matrix Vec2 Color Pixel}
  {place : Matrix → Pixel → Vec2} {matrix : Matrix} {pixel : Pixel} {p : Vec2}

theorem Samples.hides (samples : Samples device place) (zero : engine.ZeroInitialises)
    {edge : Vec2 × Vec2}
    (covers : device.covers matrix .quads (edgeQuad engine p edge) pixel = true) :
    Hides p edge (place matrix pixel) := by
  have apart : ¬ EndOn p edge := by
    intro aligned
    have bare : device.covers matrix .quads (edgeQuad engine p edge) pixel = false :=
      samples.flat rfl ((edgeQuad_eq_castQuad zero p edge).symm ▸ flat_castQuad aligned)
    exact Bool.false_ne_true (bare.symm.trans covers)
  have convex : ConvexPolygon ((edgeQuad engine p edge).map point) :=
    (edgeQuad_eq_castQuad zero p edge).symm ▸ convex_castQuad (by norm_num) apart
  have inside := samples.within rfl convex covers
  rw [edgeQuad_eq_castQuad zero, within_castQuad_iff (by norm_num) apart] at inside
  exact ⟨apart, inside⟩

theorem Samples.covers (samples : Samples device place) (zero : engine.ZeroInitialises)
    {edge : Vec2 × Vec2} (hidden : StrictlyHides p edge (place matrix pixel)) :
    device.covers matrix .quads (edgeQuad engine p edge) pixel = true := by
  obtain ⟨apart, blocked⟩ := hidden
  have convex : ConvexPolygon ((edgeQuad engine p edge).map point) :=
    (edgeQuad_eq_castQuad zero p edge).symm ▸ convex_castQuad (by norm_num) apart
  have inside : Interior ((edgeQuad engine p edge).map point) (point (place matrix pixel)) := by
    rwa [edgeQuad_eq_castQuad zero, interior_castQuad_iff (by norm_num) apart]
  exact samples.interior rfl convex inside

variable {source : AttachedLight} {casters : Caster → AttachedCaster}
  {layer : ShadowLayer Light Caster}

theorem mem_lit_iff {edge : Vec2 × Vec2} :
    edge ∈ (layer.litShapes engine source casters).flatMap edges ↔
      ∃ obj ∈ layer.shadowCasters, ShadowLayer.hits engine source (casters obj) = true ∧
        edge ∈ edges (ShadowLayer.shapeOf engine (casters obj)) := by
  simp [litShapes, and_assoc]

/-- What is in shadow is hidden by an edge, and what an edge hides is in shadow. -/
theorem Samples.inShadow (samples : Samples device place) (zero : engine.ZeroInitialises)
    (matrix : Matrix) (source : AttachedLight) (casters : Caster → AttachedCaster)
    (layer : ShadowLayer Light Caster) (pixel : Pixel) :
    let lit := (layer.litShapes engine source casters).flatMap edges
    let p := source.object.worldPosition
    (InShadow engine device matrix source casters layer pixel →
        ∃ edge ∈ lit, Hides p edge (place matrix pixel)) ∧
      ((∃ edge ∈ lit, StrictlyHides p edge (place matrix pixel)) →
        InShadow engine device matrix source casters layer pixel) := by
  intro lit p
  constructor
  · rintro ⟨edge, member, covers⟩
    exact ⟨edge, member, samples.hides zero covers⟩
  · rintro ⟨edge, member, hidden⟩
    exact ⟨edge, member, samples.covers zero hidden⟩

variable [DecidableEq Caster] [Mul Matrix] [One Matrix] {opened context : GlContext Matrix}
  {shadowverts : List Vec2} {after : Caster → AttachedCaster}

/-- `RenderShadows` marks the pixels in shadow. -/
theorem stencil_eq_one_iff_inShadow (inside : InLoop opened context) (unbound : opened.buffer = 0)
    (tested : opened.stencilTest = true)
    (returned : layer.getShadowVertices engine source casters = some (shadowverts, after))
    (surface : ShadowSurface) (buffers : Nat → List Vec2) (pixel : Pixel) (cell : Cell Color) :
    (paint device opened.framebuffer pixel
        (events buffers (surface.renderShadows shadowverts) context) cell).stencil = 1 ↔
      InShadow engine device opened.matrix source casters layer pixel := by
  obtain ⟨-, shaped⟩ := ShadowLayer.refreshed_of_getShadowVertices returned
  obtain ⟨_, returned', -⟩ := ShadowLayer.getShadowVertices_of_shaped shaped
  cases returned.symm.trans returned'
  rw [inside.paint_renderShadows unbound tested, ← marked_iff_inShadow]
  split
  · simpa
  · simpa

/-- Lines of sight: for the vertices of a light, `RenderShadows` marks only pixels that an
edge of a lit caster hides from the displaced light, and it marks all that an edge strictly
hides. -/
theorem stencil_renderShadows (samples : Samples device place) (zero : engine.ZeroInitialises)
    (inside : InLoop opened context) (unbound : opened.buffer = 0)
    (tested : opened.stencilTest = true)
    (returned : layer.getShadowVertices engine source casters = some (shadowverts, after))
    (surface : ShadowSurface) (buffers : Nat → List Vec2) (pixel : Pixel) (cell : Cell Color) :
    let marked := (paint device opened.framebuffer pixel
      (events buffers (surface.renderShadows shadowverts) context) cell).stencil = 1
    let lit := (layer.litShapes engine source casters).flatMap edges
    let p := source.object.worldPosition
    let q := place opened.matrix pixel
    (marked → ∃ edge ∈ lit, Hides p edge q) ∧ ((∃ edge ∈ lit, StrictlyHides p edge q) → marked) := by
  intro marked lit p q
  simp only [marked]
  rw [stencil_eq_one_iff_inShadow inside unbound tested returned]
  exact samples.inShadow zero opened.matrix source casters layer pixel

end Sight

/-- Quads cover the points that are strictly on the same side of all their edges. -/
def Device.sampling : Device Translation Vec2 Color Vec2 :=
  { Device.convex with
    covers := fun matrix _ vertices pixel =>
      let sides := sides (vertices.map point) (point pixel - matrix.toAdd)
      sides.all (0 < ·) || sides.all (· < 0) }

/-- The place of a pixel in a layer that is moved. -/
def placeOf (matrix : Translation) (pixel : Vec2) : Vec2 :=
  ⟨pixel.x - matrix.toAdd.1, pixel.y - matrix.toAdd.2⟩

theorem sampling_covers_iff (matrix : Translation) (mode : Mode) (vertices : List Vec2)
    (pixel : Vec2) :
    Device.sampling.covers matrix mode vertices pixel = true ↔
      Interior (vertices.map point) (point (placeOf matrix pixel)) := by
  have place : point pixel - matrix.toAdd = point (placeOf matrix pixel) := rfl
  simp [Device.sampling, Interior, OneSided, place]

theorem samples_sampling : Samples Device.sampling placeOf where
  interior _ _ inside := (sampling_covers_iff _ _ _ _).mpr inside
  within _ _ covers := by
    rcases (sampling_covers_iff _ _ _ _).mp covers with positive | negative
    · exact .inl fun side member => (positive side member).le
    · exact .inr fun side member => (negative side member).le
  flat four level := by
    obtain ⟨a, b, c, d, rfl⟩ := List.length_eq_four.mp four
    rw [← Bool.not_eq_true, sampling_covers_iff]
    exact not_interior_of_flat level _

/-- The box hides a pixel from the torch. -/
theorem stencil_renderShadows_torch :
    ∃ shadowverts after,
      (⟨[()], [()]⟩ : ShadowLayer Unit Unit).getShadowVertices (.exact false) torch
          (fun _ => ShadowLayer.box) = some (shadowverts, after) ∧
        (paint Device.sampling 0 ⟨20, 32⟩
          (events (fun _ => []) (ShadowSurface.initial.renderShadows shadowverts)
            { Context.atRest with stencilTest := true }) ⟨white, 0⟩).stencil = 1 := by
  obtain ⟨⟨shadowverts, after⟩, returned⟩ := Option.isSome_iff_exists.mp (by decide +kernel :
    ((⟨[()], [()]⟩ : ShadowLayer Unit Unit).getShadowVertices (.exact false) torch
          (fun _ => ShadowLayer.box)).isSome = true)
  refine ⟨shadowverts, after, returned, ?_⟩
  have marks := (stencil_renderShadows samples_sampling (Engine.zeroInitialises_exact false)
    (inLoop_refl { Context.atRest with stencilTest := true }) rfl rfl returned .initial
    (fun _ => []) ⟨20, 32⟩ ⟨white, 0⟩).2
  apply marks
  have source : displaced torch.object.worldPosition = ⟨100000 / 999, 32000 / 999⟩ := by
    decide +kernel
  refine ⟨(⟨64, 0⟩, ⟨64, 64⟩), by decide +kernel, ?_, ?_⟩
  · rw [EndOn, source]
    decide +kernel
  · rw [source]
    refine ⟨10008 / 20005, 9016 / 20005, ?_⟩
    norm_num [point, placeOf, Context.atRest]

end LegendOfStealth.Drawing
