import LegendOfStealth.Client.Frame

/-!
# Arrays that are left enabled

A draw call reads every array that is enabled, whether it set it or not.  The shadows, the
filling and the shapes set their vertices only.  What they read of texture coordinates has
been left by a map layer.

A light with a texture sets the array and disables it, so the shadows are concerned up to
the first light that has one.
-/

namespace LegendOfStealth.Drawing

open LegendOfStealth.Library LegendOfStealth.Library.Pipeline LegendOfStealth.Geometry

variable {Matrix Light : Type}

/-- How many elements the draw calls of `ShadowLayer::Render` read of an array that it has
not set. -/
def staleReads (toolkit : Toolkit Matrix) (objects : LitObjects Light) :
    List (Light × List Vec2) → List Nat
  | [] => [4]
  | (obj, shadowverts) :: rest =>
      shadowverts.length ::
        if (sprite toolkit (objects.lights obj)).isSome then [] else staleReads toolkit objects rest

section Shadows

variable [Mul Matrix] [One Matrix] {toolkit : Toolkit Matrix} {surface : ShadowSurface}
  {objects : LitObjects Light} {opened context : GlContext Matrix} {buffers : Nat → List Vec2}

/-- The shadows of a light are read with what is left of texture coordinates. -/
theorem readable_renderShadows_iff (unbound : context.buffer = 0) (shadowverts : List Vec2) :
    Readable buffers (surface.renderShadows shadowverts) context ↔
      context.texCoords.Holds buffers shadowverts.length := by
  rw [Readable, events_renderShadows shadowverts unbound]
  refine List.forall_mem_singleton.trans ((readable_draw_iff ..).trans ?_)
  exact and_iff_right fun _ => le_rfl

theorem readable_renderLightSource (source : Shadow.AttachedLight) (rotation : ℚ)
    (unbound : context.buffer = 0) :
    Readable buffers (renderLightSource toolkit source rotation) context := by
  cases textured : sprite toolkit source with
  | none =>
      rw [renderLightSource_of_none textured]
      exact readable_of_events_eq_nil rfl
  | some found =>
      obtain ⟨tex, v⟩ := found
      obtain ⟨first, second, third, fourth, rfl⟩ := sprite_corners textured
      rw [readable_of_events_eq_draw (events_renderLightSource textured rotation unbound),
        readable_draw_iff]
      exact ⟨fun _ => le_rfl, fun _ => le_rfl⟩

/-- What is left of texture coordinates after a light. -/
theorem texCoords_after_renderLit (unbound : context.buffer = 0) (drawn : Light × List Vec2) :
    (after (surface.renderLit toolkit objects drawn) context).texCoords =
      if (sprite toolkit (objects.lights drawn.1)).isSome then ⟨false, .memory unitSquare⟩
      else context.texCoords := by
  rw [renderLit_eq, after_renderShadows drawn.2 unbound]
  cases textured : sprite toolkit (objects.lights drawn.1) with
  | none =>
      rw [renderLightSource_of_none textured]
      rfl
  | some found =>
      rw [after_renderLightSource textured _ (by exact unbound)]
      rfl

/-- A light is readable if its shadows are. -/
theorem readable_renderLit_iff (unbound : context.buffer = 0) (drawn : Light × List Vec2) :
    Readable buffers (surface.renderLit toolkit objects drawn) context ↔
      context.texCoords.Holds buffers drawn.2.length := by
  rw [ShadowSurface.renderLit, ShadowSurface.renderLight, readable_append_iff,
    readable_append_iff, readable_renderShadows_iff unbound, after_renderShadows drawn.2 unbound]
  exact and_iff_left ⟨readable_of_events_eq_nil rfl,
    readable_renderLightSource _ _ (by exact unbound)⟩

/-- The loop of `Render` and the filling. -/
theorem InLoop.readable_iff (toolkit : Toolkit Matrix) (surface : ShadowSurface)
    (objects : LitObjects Light) (buffers : Nat → List Vec2) (inside : InLoop opened context) (unbound : opened.buffer = 0)
    (untextured : opened.texture2D = false) (drawn : List (Light × List Vec2)) :
    Readable buffers (drawn.flatMap (surface.renderLit toolkit objects)) context ∧
        (after (drawn.flatMap (surface.renderLit toolkit objects)) context).texCoords.Holds
          buffers 4 ↔
      ∀ count ∈ staleReads toolkit objects drawn, context.texCoords.Holds buffers count := by
  induction drawn generalizing context with
  | nil =>
      rw [staleReads, List.forall_mem_singleton]
      exact and_iff_right (readable_of_events_eq_nil rfl)
  | cons lit rest ih =>
      have still : InLoop opened (after (surface.renderLit toolkit objects lit) context) :=
        inside.renderLit unbound untextured lit
      rw [List.flatMap_cons, readable_append_iff, after_append, and_assoc, ih still,
        readable_renderLit_iff (inside.buffer.trans unbound),
        texCoords_after_renderLit (inside.buffer.trans unbound), staleReads, List.forall_mem_cons]
      split
      · simp [ClientArray.Holds]
      · rfl

/-- `ShadowLayer::Render` reads no further than its arrays reach exactly if what is left of
texture coordinates reaches as far as the shadows up to the first light with a texture, or
as far as the filling if there is none. -/
theorem readable_renderShadowLayer_iff (lawful : toolkit.Lawful) (resting : Resting context)
    (drawn : List (Light × List Vec2)) :
    Readable buffers (surface.render toolkit objects drawn) context ↔
      ∀ count ∈ staleReads toolkit objects drawn, context.texCoords.Holds buffers count := by
  obtain ⟨matrix, saved, opens, closes⟩ := lawful.brackets surface context
  have unbound := (congrArg Context.buffer opens).trans resting.buffer
  have untextured := (congrArg Context.texture2D opens).trans resting.texture2D
  have looped := InLoop.readable_iff toolkit surface objects buffers (inLoop_refl _) unbound
    untextured drawn
  obtain ⟨texture, vertices, texCoords, stencil, color, inside⟩ :=
    inLoop_renderLits toolkit surface objects unbound untextured drawn
  obtain ⟨closed, shown⟩ := closes
    { after (surface.beginRender toolkit) context with
      texture, vertices, texCoords, stencil, color }
    (congrArg Context.matrix opens) (congrArg Context.saved opens) unbound
  have filled : Readable buffers (surface.endRender toolkit)
      { after (surface.beginRender toolkit) context with
        texture, vertices, texCoords, stencil, color } ↔ texCoords.Holds buffers 4 := by
    rw [readable_of_events_eq_draw (shown buffers), readable_draw_iff]
    exact and_iff_right fun _ => le_rfl
  have begun : Readable buffers (surface.beginRender toolkit) context := by
    rw [Readable, events_beginRender lawful]
    simp [Event.draw?]
  have presented (context : GlContext Matrix) (unbound : context.buffer = 0) :
      Readable buffers (surface.present toolkit) context := by
    rw [readable_of_events_eq_draw (events_present lawful buffers unbound), readable_draw_iff]
    exact ⟨fun _ => le_rfl, fun _ => le_rfl⟩
  have same : (after (surface.beginRender toolkit) context).texCoords = context.texCoords := by
    rw [opens]
  rw [ShadowSurface.render, readable_append_iff, readable_append_iff, readable_append_iff,
    after_append, after_append, and_iff_right begun]
  rw [inside, same] at looped
  rw [inside, filled, looped]
  refine and_iff_left (presented _ ?_)
  rw [after_append, inside, closed]
  exact unbound

end Shadows

/-- The buffers of a layer hold four elements of each kind for every tile. -/
def Uploaded (buffers : Nat → List Vec2) (layer : MapLayer) : Prop :=
  layer.numTiles * 4 ≤ ((bufferSource layer.vertBuf).elements buffers).length ∧
    layer.numTiles * 4 ≤ ((bufferSource layer.texBuf).elements buffers).length

/-- How many vertices a shape has. -/
def DebugShape.count : DebugShape → Nat
  | .solidPolygon vertices _ => vertices.length
  | .solidCircle _ rim _ => rim.length

section Foreground

variable [Mul Matrix] [One Matrix] {toolkit : Toolkit Matrix} {context : GlContext Matrix}
  {buffers : Nat → List Vec2}

theorem events_renderMapLayer (lawful : toolkit.Lawful) (texture : Nat) {layer : MapLayer}
    (tiles : layer.numTiles ≠ 0) :
    events buffers (renderMapLayer toolkit texture layer) context =
      [.draw (Context.draw buffers
        { context with
          saved := context.matrix :: context.saved
          texture2D := true
          texture := texture
          buffer := layer.texBuf
          vertices := ⟨true, bufferSource layer.vertBuf⟩
          texCoords := ⟨true, bufferSource layer.texBuf⟩ } .quads (layer.numTiles * 4))] := by
  rw [renderMapLayer, if_neg tiles]
  simp [Command.effect, Command.emitted, Context.setArray, Context.setCapability, Context.resolve,
    lawful.bind, bufferSource]

theorem readable_renderMapLayer_iff (lawful : toolkit.Lawful) (texture : Nat) (layer : MapLayer) :
    Readable buffers (renderMapLayer toolkit texture layer) context ↔
      (layer.numTiles ≠ 0 → Uploaded buffers layer) := by
  by_cases empty : layer.numTiles = 0
  · rw [renderMapLayer_of_empty empty]
    exact iff_of_true (readable_of_events_eq_nil rfl) fun tiles => absurd empty tiles
  · rw [readable_of_events_eq_draw (events_renderMapLayer lawful texture empty),
      readable_draw_iff]
    simp [ClientArray.Holds, Uploaded, empty]

theorem events_drawShape (toolkit : Toolkit Matrix) (buffers : Nat → List Vec2)
    (unbound : context.buffer = 0) (shape : DebugShape) :
    ∃ drawing : GlContext Matrix, ∃ mode elements,
      events buffers (drawShape toolkit shape) context =
          [.draw (Context.draw buffers drawing mode shape.count)] ∧
        drawing.vertices = ⟨true, .memory elements⟩ ∧ elements.length = shape.count ∧
          drawing.texCoords = context.texCoords := by
  cases shape with
  | solidPolygon vertices color =>
      refine ⟨{ context with
        matrix := context.matrix * toolkit.scaling pixelsPerMetre pixelsPerMetre
        saved := context.matrix :: context.saved
        texture2D := false
        color := { color with a := 2 / 5 }
        vertices := ⟨true, .memory vertices⟩ }, .polygon, vertices, ?_, rfl, rfl, rfl⟩
      simp [drawShape, commonPreRender, commonPostRender, Command.effect, Command.emitted,
        Context.setArray, Context.setCapability, Context.resolve, unbound, DebugShape.count]
  | solidCircle center rim color =>
      refine ⟨{ context with
        matrix := context.matrix * toolkit.scaling pixelsPerMetre pixelsPerMetre *
          toolkit.translation center
        saved := context.matrix :: context.saved
        texture2D := false
        color := { color with a := 2 / 5 }
        vertices := ⟨true, .memory rim⟩ }, .lineLoop, rim, ?_, rfl, rfl, rfl⟩
      simp [drawShape, commonPreRender, commonPostRender, Command.effect, Command.emitted,
        Context.setArray, Context.setCapability, Context.resolve, unbound, DebugShape.count]

theorem readable_drawShape_iff (unbound : context.buffer = 0) (shape : DebugShape) :
    Readable buffers (drawShape toolkit shape) context ↔
      context.texCoords.Holds buffers shape.count := by
  obtain ⟨drawing, mode, elements, drawn, vertices, length, texCoords⟩ :=
    events_drawShape toolkit buffers unbound shape
  rw [readable_of_events_eq_draw drawn, readable_draw_iff, vertices, texCoords]
  exact and_iff_right fun _ => length.ge

theorem readable_drawShapes_iff (unbound : context.buffer = 0) (shapes : List DebugShape) :
    Readable buffers (shapes.flatMap (drawShape toolkit)) context ↔
      ∀ shape ∈ shapes, context.texCoords.Holds buffers shape.count := by
  apply readable_flatMap_iff buffers fun later =>
    later.buffer = 0 ∧ later.texCoords = context.texCoords
  · rintro shape - later ⟨still, same⟩
    obtain ⟨elements, drawn⟩ := after_drawShape toolkit still shape
    rw [drawn, readable_drawShape_iff still, same]
    exact ⟨⟨still, rfl⟩, Iff.rfl⟩
  · exact ⟨unbound, rfl⟩

end Foreground

/-! ## Frames -/

namespace Frame

variable [Mul Matrix] [One Matrix] {toolkit : Toolkit Matrix} {frame : Frame Light}
  {context : GlContext Matrix} {buffers : Nat → List Vec2}

theorem readable_renderForegroundLayer_iff (lawful : toolkit.Lawful) (unbound : context.buffer = 0)
    (disabled : context.texCoords.enabled = false) :
    Readable buffers (frame.renderForegroundLayer toolkit) context ↔
      ∀ drawn ∈ frame.fgLayer, drawn.1.numTiles ≠ 0 →
        Uploaded buffers drawn.1 ∧ ∀ shape ∈ frame.shapes,
          shape.count ≤ ((bufferSource drawn.1.texBuf).elements buffers).length := by
  have free (shape : DebugShape) : context.texCoords.Holds buffers shape.count := by
    simp [ClientArray.Holds, disabled]
  rw [renderForegroundLayer, readable_append_iff]
  cases frame.fgLayer with
  | none =>
      have shapes : Readable buffers (frame.shapes.flatMap (drawShape toolkit)) context :=
        (readable_drawShapes_iff unbound _).mpr fun shape _ => free shape
      simp only [Option.elim_none, Option.not_mem_none, false_implies, implies_true, iff_true]
      exact ⟨readable_of_events_eq_nil rfl, shapes⟩
  | some drawn =>
      obtain ⟨layer, texture⟩ := drawn
      rw [Option.elim_some, readable_renderMapLayer_iff lawful]
      dsimp only
      by_cases empty : layer.numTiles = 0
      · rw [renderMapLayer_of_empty empty, after_nil, readable_drawShapes_iff unbound]
        simp [empty, free]
      · rw [after_renderMapLayer lawful unbound texture empty,
          readable_drawShapes_iff (by exact unbound)]
        simp [empty, ClientArray.Holds]

theorem readable_behind_iff (lawful : toolkit.Lawful) :
    Readable buffers (frame.behind toolkit) context ↔
      ∀ drawn ∈ frame.bgLayer, drawn.1.numTiles ≠ 0 → Uploaded buffers drawn.1 := by
  rw [behind, readable_append_iff, readable_append_iff, readable_append_iff,
    and_iff_left (readable_of_events_eq_nil rfl), and_iff_left (readable_of_events_eq_nil rfl),
    and_iff_right (readable_of_events_eq_nil rfl), renderBackgroundLayer]
  cases frame.bgLayer with
  | none => simpa using readable_of_events_eq_nil rfl
  | some drawn => simp [readable_renderMapLayer_iff lawful]

/-- A frame reads no further than its arrays reach exactly if the buffers of the map layers
hold their tiles, what is left of texture coordinates when the shadows are drawn reaches as
far as they do, and no shape has more vertices than the foreground has texture coordinates. -/
theorem readable_render_iff (lawful : toolkit.Lawful) (unobtrusive : toolkit.Unobtrusive)
    (resting : Resting context) :
    Readable buffers (frame.render toolkit) context ↔
      (∀ drawn ∈ frame.bgLayer, drawn.1.numTiles ≠ 0 → Uploaded buffers drawn.1) ∧
        (∀ count ∈ staleReads toolkit frame.objects frame.drawn,
          (after (frame.behind toolkit) context).texCoords.Holds buffers count) ∧
        ∀ drawn ∈ frame.fgLayer, drawn.1.numTiles ≠ 0 →
          Uploaded buffers drawn.1 ∧ ∀ shape ∈ frame.shapes,
            shape.count ≤ ((bufferSource drawn.1.texBuf).elements buffers).length := by
  have first := undisturbed_behind frame lawful unobtrusive resting
  have between := first.resting_iff.mpr resting
  rw [render_eq, readable_append_iff, readable_behind_iff lawful]
  refine and_congr_right fun _ => ?_
  obtain ⟨matrix, saved, pushed, -⟩ :=
    lawful.transforms (after (frame.behind toolkit) context)
  have opened : after [.call toolkit.pushTransform, .call toolkit.applyTransform]
      (after (frame.behind toolkit) context) =
        { after (frame.behind toolkit) context with matrix, saved } := pushed
  have inside : Resting { after (frame.behind toolkit) context with matrix, saved } :=
    ⟨between.1, between.2, between.3, between.4, between.5, between.6⟩
  obtain ⟨stencil, shadows⟩ :=
    after_render lawful inside frame.surface frame.objects frame.drawn
  rw [inFront, readable_append_iff, readable_append_iff, readable_append_iff, readable_append_iff,
    and_iff_left (readable_of_events_eq_nil rfl), and_iff_left (readable_of_events_eq_nil rfl),
    and_iff_right (readable_of_events_eq_nil rfl), opened, readable_renderShadowLayer_iff lawful inside,
    shadows, readable_renderForegroundLayer_iff lawful (by exact inside.buffer) rfl]

/-- The sixteen vertices of the shadows are read with the four texture coordinates of the
background's tile. -/
theorem not_readable_tile :
    ¬ Readable (fun _ => List.replicate 4 ⟨0, 0⟩) (tile.render .translations) Context.atRest := by
  rw [readable_render_iff Toolkit.lawful_translations unobtrusive_translations
    Context.resting_atRest]
  rintro ⟨-, shadows, -⟩
  exact absurd (shadows 16 (by decide)) (by decide)

end Frame

end LegendOfStealth.Drawing
