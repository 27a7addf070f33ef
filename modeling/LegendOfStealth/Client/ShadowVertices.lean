import LegendOfStealth.Client.LevelGeometry
import LegendOfStealth.Client.ShadowLayer
import Mathlib.Tactic.LinearCombination

/-!
# Shadow vertices

`GetShadowVertices` pushes one quad for every edge of every caster that the light hits.
The far side of a quad lies a thousand times as far from the origin as the near side lies
from the light; the position of the light is not added again.

Before the shape of a caster is created, its bounds are asked for, and they are read off
the first vertex.
-/

namespace LegendOfStealth.Shadow

open LegendOfStealth.Library LegendOfStealth.Geometry

/-- The edges of a shape: each vertex and the next one, the first after the last. -/
def edges (shape : List Vec2) : List (Vec2 × Vec2) :=
  (List.finRange shape.length).map fun j =>
    (shape.get j, shape.get ⟨(j + 1) % shape.length, Nat.mod_lt _ j.pos⟩)

theorem forall_mem_edges_iff {shape : List Vec2} {property : Vec2 → Prop} :
    (∀ edge ∈ edges shape, property edge.1 ∧ property edge.2) ↔ ∀ v ∈ shape, property v := by
  rw [edges, List.forall_mem_map]
  constructor
  · intro ends v member
    rcases List.get_of_mem member with ⟨j, rfl⟩
    exact (ends j (List.mem_finRange j)).1
  · intro vertices j _
    exact ⟨vertices _ (List.get_mem _ _), vertices _ (List.get_mem _ _)⟩

/-- A point lies on the ray from `p` through a vertex, not before the vertex. -/
def Beyond (p vertex far : Vec2) : Prop :=
  ∃ t : ℚ, 1 ≤ t ∧ far = ⟨p.x + t * (vertex.x - p.x), p.y + t * (vertex.y - p.y)⟩

/-- A quad is the shadow of an edge: the edge itself, and its ends cast away from `p`. -/
def CastFrom (p : Vec2) (edge : Vec2 × Vec2) (quad : List Vec2) : Prop :=
  ∃ far far', quad = [edge.1, edge.2, far', far] ∧ Beyond p edge.1 far ∧ Beyond p edge.2 far'

/-- The origin lies on the line through `p` and a vertex, at most 999 times their distance
behind `p`. -/
def Aligned (p vertex : Vec2) : Prop :=
  ∃ s : ℚ, -999 ≤ s ∧ p.x + s * (vertex.x - p.x) = 0 ∧ p.y + s * (vertex.y - p.y) = 0

theorem aligned_origin (vertex : Vec2) : Aligned ⟨0, 0⟩ vertex :=
  ⟨0, by norm_num, by norm_num, by norm_num⟩

/-- A light that is aligned with two vertices in different directions is at the origin. -/
theorem eq_origin_of_aligned {p first second : Vec2}
    (apart : (first.x - p.x) * (second.y - p.y) ≠ (first.y - p.y) * (second.x - p.x))
    (firstAligned : Aligned p first) (secondAligned : Aligned p second) : p = ⟨0, 0⟩ := by
  rcases firstAligned with ⟨s, -, firstX, firstY⟩
  rcases secondAligned with ⟨t, -, secondX, secondY⟩
  have product : s * t = 0 := by
    have both : s * t * ((first.x - p.x) * (second.y - p.y) -
        (first.y - p.y) * (second.x - p.x)) = 0 := by
      linear_combination (t * (second.y - p.y)) * firstX - (t * (second.x - p.x)) * firstY -
        p.x * secondY + p.y * secondX
    exact (mul_eq_zero.mp both).resolve_right (sub_ne_zero.mpr apart)
  have origin : p.x = 0 ∧ p.y = 0 := by
    rcases mul_eq_zero.mp product with rfl | rfl
    · exact ⟨by linarith, by linarith⟩
    · exact ⟨by linarith, by linarith⟩
  exact congrArg₂ Vec2.mk origin.1 origin.2

namespace ShadowLayer

section Quads

variable {engine : Engine} {p : Vec2} {shape : List Vec2}

/-- The far end of a quad lies on the ray exactly if the origin is aligned. -/
theorem beyond_projected_iff (zero : engine.ZeroInitialises) (vertex : Vec2) :
    Beyond p vertex (projected engine p vertex) ↔ Aligned p vertex := by
  rw [Engine.ZeroInitialises] at zero
  simp only [Beyond, Aligned, projected, zero, zero_add, Vec2.mk.injEq]
  constructor
  · rintro ⟨t, long, x, y⟩
    exact ⟨t - 1000, by linarith, by linarith, by linarith⟩
  · rintro ⟨s, short, x, y⟩
    exact ⟨s + 1000, by linarith, by linarith, by linarith⟩

/-- The quad of an edge. -/
def edgeQuad (engine : Engine) (p : Vec2) (edge : Vec2 × Vec2) : List Vec2 :=
  [edge.1, edge.2, projected engine p edge.2, projected engine p edge.1]

theorem castFrom_edgeQuad_iff (zero : engine.ZeroInitialises) (edge : Vec2 × Vec2) :
    CastFrom p edge (edgeQuad engine p edge) ↔ Aligned p edge.1 ∧ Aligned p edge.2 := by
  rw [← beyond_projected_iff zero, ← beyond_projected_iff zero, CastFrom]
  constructor
  · rintro ⟨far, far', same, first, second⟩
    simp only [edgeQuad, List.cons.injEq, true_and, and_true] at same
    rcases same with ⟨rfl, rfl⟩
    exact ⟨first, second⟩
  · rintro ⟨first, second⟩
    exact ⟨_, _, rfl, first, second⟩

theorem quad_eq (engine : Engine) (shape : List Vec2) (p : Vec2) (j : Fin shape.length) :
    quad engine shape p j = some (edgeQuad engine p
      (shape.get j, shape.get ⟨(j + 1) % shape.length, Nat.mod_lt _ j.pos⟩)) := by
  have first : shape[(0 + j.val) % shape.length]? = some (shape.get j) := by
    rw [Nat.zero_add, Nat.mod_eq_of_lt j.isLt]
    exact List.getElem?_eq_getElem j.isLt
  have second : shape[(1 + j.val) % shape.length]? =
      some (shape.get ⟨(j + 1) % shape.length, Nat.mod_lt _ j.pos⟩) := by
    rw [Nat.add_comm 1]
    exact List.getElem?_eq_getElem _
  have turns : List.range 2 = [0, 1] := rfl
  simp only [quad, turns, List.foldlM_cons, List.foldlM_nil, fillQuad, first, second,
    Option.map_some, Option.bind_eq_bind, Option.bind_some]
  rfl

theorem range_eq_map_finRange (n : Nat) : List.range n = (List.finRange n).map Fin.val := by
  apply List.ext_getElem
  · simp
  · simp

/-- The loop over the edges pushes the quad of each edge. -/
theorem foldlM_pushQuad (engine : Engine) (shape : List Vec2) (p : Vec2) (shadow : List Vec2) :
    (List.range shape.length).foldlM (pushQuad engine shape p) shadow =
      some (shadow ++ (edges shape).flatMap (edgeQuad engine p)) := by
  rw [range_eq_map_finRange, List.foldlM_map, edges, List.flatMap_map]
  apply foldlM_append
  intro j _ done
  rw [pushQuad, quad_eq]
  rfl

end Quads

/-! ## One caster -/

section Casters

variable {engine : Engine} {source : AttachedLight} {attached : AttachedCaster}

/-- The rectangle of the light overlaps that of the caster. -/
def hits (engine : Engine) (source : AttachedLight) (attached : AttachedCaster) : Bool :=
  (attached.caster.getAABB attached.object).any (engine.overlaps source.getAABB)

/-- The shape that `GetShadowShape` returns for the caster. -/
def shapeOf (engine : Engine) (attached : AttachedCaster) : List Vec2 :=
  ((attached.caster.getShadowShape engine attached.object).map Prod.fst).getD []

/-- The vertices that are pushed for a caster. -/
def shadowOf (engine : Engine) (source : AttachedLight) (attached : AttachedCaster) :
    List Vec2 :=
  if hits engine source attached then
    (edges (shapeOf engine attached)).flatMap (edgeQuad engine source.object.worldPosition)
  else []

/-- The caster after its shape has been returned. -/
def refreshed (engine : Engine) (attached : AttachedCaster) : AttachedCaster :=
  { attached with caster := attached.caster.refresh engine attached.object.worldPosition }

/-- The caster is as it was, or its shape has been returned since. -/
def Refreshed (engine : Engine) (before after : AttachedCaster) : Prop :=
  after = before ∨ after = refreshed engine before

theorem Refreshed.trans_refreshed {before after : AttachedCaster}
    (same : Refreshed engine before after) :
    refreshed engine after = refreshed engine before := by
  rcases same with rfl | rfl
  · rfl
  · simp only [refreshed, ShadowCaster.refresh_refresh]

theorem Refreshed.localVerts {before after : AttachedCaster}
    (same : Refreshed engine before after) :
    after.caster.localVerts = before.caster.localVerts := by
  rcases same with rfl | rfl
  · rfl
  · exact ShadowCaster.localVerts_refresh

theorem Refreshed.object {before after : AttachedCaster} (same : Refreshed engine before after) :
    after.object = before.object := by
  rcases same with rfl | rfl
  · rfl
  · rfl

theorem hits_eq_of_getAABB {box : Rect}
    (bounds : attached.caster.getAABB attached.object = some box) :
    willLightHitCaster engine source attached = some (hits engine source attached) := by
  rw [willLightHitCaster, hits, bounds]
  rfl

theorem shapeOf_of_shaped (shaped : attached.caster.localVerts ≠ []) :
    shapeOf engine attached = (refreshed engine attached).caster.globalVerts := by
  rw [shapeOf, ShadowCaster.getShadowShape_of_shaped shaped]
  rfl

/-- A refresh changes neither what is hit nor what is cast. -/
theorem Refreshed.shadowOf {before after : AttachedCaster} (same : Refreshed engine before after)
    (shaped : before.caster.localVerts ≠ []) :
    shadowOf engine source after = shadowOf engine source before := by
  have shapedAfter : after.caster.localVerts ≠ [] := by rwa [same.localVerts]
  have bounds : after.caster.getAABB after.object = before.caster.getAABB before.object := by
    rw [same.object]
    exact ShadowCaster.getAABB_congr same.localVerts
  rw [ShadowLayer.shadowOf, ShadowLayer.shadowOf, hits, hits, bounds,
    shapeOf_of_shaped shapedAfter, shapeOf_of_shaped shaped, same.trans_refreshed]

variable {Caster : Type} [DecidableEq Caster] {casters : Caster → AttachedCaster}
  {state : List Vec2 × (Caster → AttachedCaster)} {obj : Caster}

theorem castShadow_of_shapeless (shapeless : (state.2 obj).caster.localVerts = []) :
    castShadow engine source state obj = none := by
  have unbounded : (state.2 obj).caster.getAABB (state.2 obj).object = none :=
    ShadowCaster.getAABB_eq_none_iff.mpr shapeless
  rw [castShadow, willLightHitCaster, unbounded]
  rfl

theorem castShadow_of_shaped (same : ∀ other, Refreshed engine (casters other) (state.2 other))
    (shaped : (casters obj).caster.localVerts ≠ []) :
    ∃ next, castShadow engine source state obj =
        some (state.1 ++ shadowOf engine source (casters obj), next) ∧
      ∀ other, Refreshed engine (casters other) (next other) := by
  have shapedNow : (state.2 obj).caster.localVerts ≠ [] := by rwa [(same obj).localVerts]
  rcases Option.ne_none_iff_exists'.mp
    (mt ShadowCaster.getAABB_eq_none_iff.mp shapedNow) with ⟨box, bounds⟩
  rw [← (same obj).shadowOf shaped, shadowOf, castShadow, hits_eq_of_getAABB bounds]
  cases hit : hits engine source (state.2 obj) with
  | false =>
      refine ⟨state.2, ?_, same⟩
      simp
  | true =>
      refine ⟨Function.update state.2 obj (refreshed engine (state.2 obj)), ?_, ?_⟩
      · simp only [ShadowCaster.getShadowShape_of_shaped shapedNow, shapeOf_of_shaped shapedNow,
          Option.bind_eq_bind, Option.bind_some, foldlM_pushQuad]
        rfl
      · intro other
        by_cases this : other = obj
        · subst this
          rw [Function.update_self, (same other).trans_refreshed]
          exact .inr rfl
        · rw [Function.update_of_ne this]
          exact same other

end Casters

/-! ## All casters -/

section Layer

variable {Light Caster : Type} {engine : Engine} {source : AttachedLight}
  {casters : Caster → AttachedCaster} {layer : ShadowLayer Light Caster}

/-- The shapes of the casters that the light hits, in order. -/
def litShapes (engine : Engine) (source : AttachedLight) (casters : Caster → AttachedCaster)
    (layer : ShadowLayer Light Caster) : List (List Vec2) :=
  (layer.shadowCasters.filter fun obj => hits engine source (casters obj)).map fun obj =>
    shapeOf engine (casters obj)

/-- The vertices of one quad for each edge, cast away from `p`, and nothing else. -/
def Shadows (p : Vec2) (edges : List (Vec2 × Vec2)) (vertices : List Vec2) : Prop :=
  ∃ quads : List (List Vec2), vertices = quads.flatten ∧ List.Forall₂ (CastFrom p) edges quads

/-- Quads have four vertices, so a list of vertices is cut into quads in one way. -/
theorem shadows_flatMap_edgeQuad_iff {p : Vec2} (zero : engine.ZeroInitialises)
    (edges : List (Vec2 × Vec2)) :
    Shadows p edges (edges.flatMap (edgeQuad engine p)) ↔
      ∀ edge ∈ edges, Aligned p edge.1 ∧ Aligned p edge.2 := by
  have cast : List.Forall₂ (CastFrom p) edges (edges.map (edgeQuad engine p)) ↔
      ∀ edge ∈ edges, Aligned p edge.1 ∧ Aligned p edge.2 := by
    rw [List.forall₂_map_right_iff, List.forall₂_same]
    exact forall₂_congr fun edge _ => castFrom_edgeQuad_iff zero edge
  rw [← cast]
  constructor
  · rintro ⟨quads, flat, casts⟩
    have lengths : quads.map List.length = (edges.map (edgeQuad engine p)).map List.length := by
      rw [List.map_map, ← List.forall₂_eq_eq_eq, List.forall₂_map_right_iff,
        List.forall₂_map_left_iff]
      exact casts.flip.imp fun quad edge ⟨_, _, same, _⟩ => by rw [same]; rfl
    have same : quads = edges.map (edgeQuad engine p) :=
      List.eq_iff_flatten_eq.mpr ⟨flat.symm, lengths⟩
    exact same ▸ casts
  · exact fun casts => ⟨_, List.flatMap_def, casts⟩

/-- What is pushed are the quads of the edges of the shapes that are lit. -/
theorem flatMap_shadowOf :
    (layer.shadowCasters.flatMap fun obj => shadowOf engine source (casters obj)) =
      ((layer.litShapes engine source casters).flatMap edges).flatMap
        (edgeQuad engine source.object.worldPosition) := by
  rw [litShapes, List.flatMap_map, List.flatMap_assoc]
  induction layer.shadowCasters with
  | nil => rfl
  | cons obj rest ih =>
      rw [List.flatMap_cons, ih, List.filter_cons, shadowOf]
      split
      · rw [List.flatMap_cons]
      · rw [List.nil_append]

variable [DecidableEq Caster]

/-- If every caster has vertices, each is processed. -/
theorem getShadowVertices_of_shaped
    (shaped : ∀ obj ∈ layer.shadowCasters, (casters obj).caster.localVerts ≠ []) :
    ∃ after, layer.getShadowVertices engine source casters =
        some (layer.shadowCasters.flatMap fun obj => shadowOf engine source (casters obj), after) ∧
      ∀ obj, Refreshed engine (casters obj) (after obj) := by
  let done (before : List Caster) (state : List Vec2 × (Caster → AttachedCaster)) : Prop :=
    state.1 = (before.flatMap fun obj => shadowOf engine source (casters obj)) ∧
      ∀ obj, Refreshed engine (casters obj) (state.2 obj)
  have turn : ∀ obj ∈ layer.shadowCasters, ∀ before state, done before state →
      ∃ next, castShadow engine source state obj = some next ∧ done (before ++ [obj]) next := by
    rintro obj member before state ⟨pushed, same⟩
    rcases castShadow_of_shaped same (shaped obj member) with ⟨next, cast, still⟩
    refine ⟨_, cast, ?_, still⟩
    rw [List.flatMap_append, List.flatMap_singleton, ← pushed]
  have started : done [] ([], casters) := ⟨rfl, fun _ => .inl rfl⟩
  rcases exists_foldlM done started turn with ⟨⟨_, after⟩, folded, rfl, same⟩
  exact ⟨after, folded, same⟩

/-- A call that returns has refreshed casters at most, and every caster on the list has
vertices. -/
theorem refreshed_of_getShadowVertices {result : List Vec2 × (Caster → AttachedCaster)}
    (returned : layer.getShadowVertices engine source casters = some result) :
    (∀ obj, Refreshed engine (casters obj) (result.2 obj)) ∧
      ∀ obj ∈ layer.shadowCasters, (casters obj).caster.localVerts ≠ [] := by
  let done (before : List Caster) (state : List Vec2 × (Caster → AttachedCaster)) : Prop :=
    (∀ obj, Refreshed engine (casters obj) (state.2 obj)) ∧
      ∀ obj ∈ before, (casters obj).caster.localVerts ≠ []
  have turn : ∀ obj ∈ layer.shadowCasters, ∀ before state next, done before state →
      castShadow engine source state obj = some next → done (before ++ [obj]) next := by
    rintro obj _ before state next ⟨same, shaped⟩ cast
    have shapedNow : (casters obj).caster.localVerts ≠ [] := by
      intro none
      rw [castShadow_of_shapeless ((same obj).localVerts.trans none)] at cast
      contradiction
    rcases castShadow_of_shaped same shapedNow with ⟨_, cast', still⟩
    cases cast.symm.trans cast'
    exact ⟨still, List.forall_mem_append.mpr ⟨shaped, List.forall_mem_singleton.mpr shapedNow⟩⟩
  exact done_of_foldlM done ⟨fun _ => .inl rfl, fun _ => nofun⟩ turn returned

/-- `GetShadowVertices` stays inside the vectors exactly if every caster has vertices. -/
theorem isSome_getShadowVertices_iff :
    (layer.getShadowVertices engine source casters).isSome ↔
      ∀ obj ∈ layer.shadowCasters, (casters obj).caster.localVerts ≠ [] := by
  constructor
  · intro returned
    rcases Option.isSome_iff_exists.mp returned with ⟨result, same⟩
    exact (refreshed_of_getShadowVertices same).2
  · intro shaped
    rcases getShadowVertices_of_shaped shaped with ⟨after, returned, -⟩
    rw [returned]
    rfl

/-- Shadow quads: `GetShadowVertices` returns one quad cast away from the light for every
edge of every caster that it hits, and nothing else, exactly if every caster has vertices
and every vertex of a caster that is hit is aligned. -/
theorem shadows_iff_aligned (zero : engine.ZeroInitialises) (source : AttachedLight)
    (casters : Caster → AttachedCaster) (layer : ShadowLayer Light Caster) :
    (∃ vertices after, layer.getShadowVertices engine source casters = some (vertices, after) ∧
        Shadows source.object.worldPosition
          ((layer.litShapes engine source casters).flatMap edges) vertices) ↔
      ∀ obj ∈ layer.shadowCasters, (casters obj).caster.localVerts ≠ [] ∧
        (hits engine source (casters obj) = true →
          ∀ v ∈ shapeOf engine (casters obj), Aligned source.object.worldPosition v) := by
  have aligned : (∀ edge ∈ (layer.litShapes engine source casters).flatMap edges,
        Aligned source.object.worldPosition edge.1 ∧
          Aligned source.object.worldPosition edge.2) ↔
      ∀ obj ∈ layer.shadowCasters, hits engine source (casters obj) = true →
        ∀ v ∈ shapeOf engine (casters obj), Aligned source.object.worldPosition v := by
    simp only [List.forall_mem_flatMap, forall_mem_edges_iff, litShapes, List.forall_mem_map,
      List.mem_filter, and_imp]
  have returns : (layer.getShadowVertices engine source casters).isSome ↔
      ∀ obj ∈ layer.shadowCasters, (casters obj).caster.localVerts ≠ [] :=
    isSome_getShadowVertices_iff
  rw [forall₂_and, ← aligned, ← shadows_flatMap_edgeQuad_iff zero, ← flatMap_shadowOf, ← returns]
  constructor
  · rintro ⟨vertices, after, returned, shadows⟩
    have some := Option.isSome_of_mem returned
    rcases getShadowVertices_of_shaped (returns.mp some) with ⟨_, returned', -⟩
    cases returned.symm.trans returned'
    exact ⟨some, shadows⟩
  · rintro ⟨some, shadows⟩
    rcases getShadowVertices_of_shaped (returns.mp some) with ⟨after, returned, -⟩
    exact ⟨_, after, returned, shadows⟩

end Layer

/-- A box that fills a tile, with its corner at the origin of its layer. -/
def box : AttachedCaster :=
  ⟨ShadowCaster.new.setShadowRectangle ⟨0, 0⟩ ⟨0, 0, 64, 64⟩,
    ⟨⟨0, 0⟩, ⟨0, 0⟩, ⟨0, 0⟩, ⟨1, 1⟩, none⟩⟩

/-- A light of radius 256 at a position. -/
def lightAt (position : Vec2) : AttachedLight :=
  ⟨⟨none, none, ⟨true, 256, ⟨1, 1, 1, 1⟩⟩⟩, ⟨position, position, ⟨0, 0⟩, ⟨1, 1⟩, none⟩⟩

/-- A layer with one caster. -/
def single : ShadowLayer Unit Unit :=
  ⟨[], [()]⟩

/-- The light is at the corner of the box. -/
theorem shadows_box :
    ∃ vertices after, single.getShadowVertices (.exact false) (lightAt ⟨0, 0⟩) (fun _ => box) =
        some (vertices, after) ∧
      Shadows ⟨0, 0⟩
        ((single.litShapes (.exact false) (lightAt ⟨0, 0⟩) fun _ => box).flatMap edges) vertices :=
  (shadows_iff_aligned (Engine.zeroInitialises_exact false) (lightAt ⟨0, 0⟩) (fun _ => box)
    single).mpr fun _ _ => ⟨List.cons_ne_nil _ _, fun _ v _ => aligned_origin v⟩

/-- Away from the origin the ends of a quad are not behind the box. -/
theorem not_shadows_box :
    ¬ ∀ (engine : Engine), engine.ZeroInitialises →
      ∀ (Light Caster : Type) [DecidableEq Caster] (source : AttachedLight)
        (casters : Caster → AttachedCaster) (layer : ShadowLayer Light Caster),
        (∀ obj ∈ layer.shadowCasters, (casters obj).caster.localVerts ≠ []) →
          ∃ vertices after,
            layer.getShadowVertices engine source casters = some (vertices, after) ∧
              Shadows source.object.worldPosition
                ((layer.litShapes engine source casters).flatMap edges) vertices := by
  intro claimed
  have zero := Engine.zeroInitialises_exact false
  have shaped : ∀ obj ∈ single.shadowCasters, box.caster.localVerts ≠ [] :=
    fun _ _ => List.cons_ne_nil _ _
  rcases claimed (.exact false) zero Unit Unit (lightAt ⟨100, 100⟩) (fun _ => box) single shaped
    with ⟨vertices, after, returned, shadows⟩
  rcases getShadowVertices_of_shaped shaped with ⟨_, returned', -⟩
  cases returned.symm.trans returned'
  rw [flatMap_shadowOf, shadows_flatMap_edgeQuad_iff zero] at shadows
  have right : ((⟨64, 0⟩, ⟨64, 64⟩) : Vec2 × Vec2) ∈
      (single.litShapes (.exact false) (lightAt ⟨100, 100⟩) fun _ => box).flatMap edges := by
    decide +kernel
  rcases shadows _ right with ⟨first, second⟩
  have origin := eq_origin_of_aligned (by decide +kernel) first second
  exact absurd origin (by decide +kernel)

end ShadowLayer

end LegendOfStealth.Shadow
