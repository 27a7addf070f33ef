import LegendOfStealth.Client.Lighting
import LegendOfStealth.Library.Transition

/-!
# Frames

A frame is drawn in the context that the frame before it has left.  `DrawRenderTexture`
enables texturing and does not disable it again: the foreground layer does if it has a tile,
and so does the drawer of the physics world for every shape.

`MapLayer::Render` leaves its arrays enabled.  The array of the texture coordinates is still
enabled when shadows and shapes are drawn, which do not set it.
-/

namespace LegendOfStealth.Drawing

open LegendOfStealth.Library LegendOfStealth.Library.Pipeline LegendOfStealth.Geometry

variable {Matrix Light : Type}

/-- Up to what is set for every drawing the context is as it was. -/
def Undisturbed (before after : GlContext Matrix) : Prop :=
  ∃ texture vertices texCoords stencil color clearColor,
    after = { before with texture, vertices, texCoords, stencil, color, clearColor }

section Undisturbed

variable {first second third context : GlContext Matrix}

theorem undisturbed_refl (context : GlContext Matrix) : Undisturbed context context :=
  ⟨_, _, _, _, _, _, rfl⟩

theorem Undisturbed.trans (earlier : Undisturbed first second) (later : Undisturbed second third) :
    Undisturbed first third := by
  obtain ⟨_, _, _, _, _, _, rfl⟩ := earlier
  obtain ⟨_, _, _, _, _, _, rfl⟩ := later
  exact ⟨_, _, _, _, _, _, rfl⟩

theorem Undisturbed.buffer (same : Undisturbed first second) : second.buffer = first.buffer := by
  obtain ⟨_, _, _, _, _, _, rfl⟩ := same
  rfl

theorem Undisturbed.texture2D (same : Undisturbed first second) :
    second.texture2D = first.texture2D := by
  obtain ⟨_, _, _, _, _, _, rfl⟩ := same
  rfl

theorem Undisturbed.matrices (same : Undisturbed first second) :
    second.matrix = first.matrix ∧ second.saved = first.saved := by
  obtain ⟨_, _, _, _, _, _, rfl⟩ := same
  exact ⟨rfl, rfl⟩

theorem Undisturbed.switch (earlier : Undisturbed first second) (on : Bool) :
    Undisturbed { first with texture2D := on } { second with texture2D := on } := by
  obtain ⟨_, _, _, _, _, _, rfl⟩ := earlier
  exact ⟨_, _, _, _, _, _, rfl⟩

/-- Nothing but the matrices and texturing decides whether the context is at rest. -/
theorem Undisturbed.resting_iff (same : Undisturbed first second) :
    Resting second ↔ Resting first := by
  obtain ⟨_, _, _, _, _, _, rfl⟩ := same
  exact ⟨fun ⟨h₁, h₂, h₃, h₄, h₅, h₆⟩ => ⟨h₁, h₂, h₃, h₄, h₅, h₆⟩,
    fun ⟨h₁, h₂, h₃, h₄, h₅, h₆⟩ => ⟨h₁, h₂, h₃, h₄, h₅, h₆⟩⟩

end Undisturbed

/-- Children and user interface are drawn without disturbing the context. -/
structure Toolkit.Unobtrusive (toolkit : Toolkit Matrix) : Prop where
  renderChildren : ∀ context, Undisturbed context (toolkit.renderChildren context)
  renderUi : ∀ context, Undisturbed context (toolkit.renderUi context)

/-- Where an array is read after a pointer command with null. -/
def bufferSource (name : Nat) : Source Vec2 :=
  if name = 0 then .nowhere else .buffer name

/-- Something in the foreground disables texturing. -/
def Frame.Clears (frame : Frame Light) : Prop :=
  (∃ drawn ∈ frame.fgLayer, drawn.1.numTiles ≠ 0) ∨ frame.shapes ≠ []

section Parts

variable [Mul Matrix] [One Matrix] {toolkit : Toolkit Matrix} {context : GlContext Matrix}

/-- What is drawn between the engine's transformations. -/
theorem Toolkit.Lawful.transformed (lawful : toolkit.Lawful)
    (commands : List (GlCommand Matrix)) {on : Bool}
    (drawn : ∀ matrix saved, Undisturbed { context with matrix, saved, texture2D := on }
      (after commands { context with matrix, saved })) :
    Undisturbed { context with texture2D := on }
      (after ([.call toolkit.pushTransform, .call toolkit.applyTransform] ++ commands ++
        [.call toolkit.popTransform]) context) := by
  obtain ⟨matrix, saved, pushed, pop⟩ := lawful.transforms context
  have opened : after [.call toolkit.pushTransform, .call toolkit.applyTransform] context =
      { context with matrix, saved } := pushed
  obtain ⟨_, _, _, _, _, _, inside⟩ := drawn matrix saved
  rw [after_append, after_append, opened, inside, after_cons, after_nil, Command.effect, pop]
  · exact ⟨_, _, _, _, _, _, rfl⟩
  · rfl
  · rfl

/-- A map layer with tiles leaves its arrays enabled. -/
theorem after_renderMapLayer (lawful : toolkit.Lawful) (unbound : context.buffer = 0)
    (texture : Nat) {layer : MapLayer} (tiles : layer.numTiles ≠ 0) :
    after (renderMapLayer toolkit texture layer) context =
      { context with
        texture2D := false
        texture := 0
        vertices := ⟨true, bufferSource layer.vertBuf⟩
        texCoords := ⟨true, bufferSource layer.texBuf⟩ } := by
  rw [renderMapLayer, if_neg tiles]
  simp [Command.effect, Context.setArray, Context.setCapability, Context.resolve, lawful.bind,
    unbound, bufferSource]

omit [Mul Matrix] [One Matrix] in
theorem renderMapLayer_of_empty {texture : Nat} {layer : MapLayer} (empty : layer.numTiles = 0) :
    renderMapLayer toolkit texture layer = [] :=
  if_pos empty

theorem after_drawShape (toolkit : Toolkit Matrix) (unbound : context.buffer = 0) (shape : DebugShape) :
    ∃ elements, after (drawShape toolkit shape) context =
      { context with
        texture2D := false
        color := white
        vertices := ⟨false, .memory elements⟩ } := by
  cases shape with
  | solidPolygon vertices color =>
      refine ⟨vertices, ?_⟩
      simp [drawShape, commonPreRender, commonPostRender, Command.effect, Context.setArray,
        Context.setCapability, Context.resolve, unbound]
  | solidCircle center rim color =>
      refine ⟨rim, ?_⟩
      simp [drawShape, commonPreRender, commonPostRender, Command.effect, Context.setArray,
        Context.setCapability, Context.resolve, unbound]

theorem undisturbed_renderMapLayer (lawful : toolkit.Lawful) (unbound : context.buffer = 0)
    (texture : Nat) (layer : MapLayer) :
    Undisturbed
      { context with texture2D := if layer.numTiles = 0 then context.texture2D else false }
      (after (renderMapLayer toolkit texture layer) context) := by
  by_cases empty : layer.numTiles = 0
  · rw [renderMapLayer_of_empty empty, if_pos empty]
    exact undisturbed_refl context
  · rw [after_renderMapLayer lawful unbound texture empty, if_neg empty]
    exact ⟨_, _, _, _, _, _, rfl⟩

theorem undisturbed_drawShapes (toolkit : Toolkit Matrix) (unbound : context.buffer = 0)
    (shapes : List DebugShape) :
    Undisturbed { context with texture2D := if shapes = [] then context.texture2D else false }
      (after (shapes.flatMap (drawShape toolkit)) context) := by
  cases shapes with
  | nil => exact undisturbed_refl context
  | cons shape rest =>
      obtain ⟨elements, drawn⟩ := after_drawShape toolkit unbound shape
      rw [List.flatMap_cons, after_append, drawn, if_neg (List.cons_ne_nil _ _)]
      refine after_flatMap (Undisturbed { context with texture2D := false }) ?_
        ⟨_, _, _, _, _, _, rfl⟩
      rintro shape - between same
      have still : between.buffer = 0 := by
        obtain ⟨_, _, _, _, _, _, rfl⟩ := same
        exact unbound
      obtain ⟨elements, drawn⟩ := after_drawShape toolkit still shape
      rw [drawn]
      obtain ⟨_, _, _, _, _, _, rfl⟩ := same
      exact ⟨_, _, _, _, _, _, rfl⟩

/-- `ShadowLayer::Render` leaves texturing enabled. -/
theorem after_render (lawful : toolkit.Lawful) (resting : Resting context)
    (surface : ShadowSurface) (objects : LitObjects Light) (drawn : List (Light × List Vec2)) :
    ∃ stencil, after (surface.render toolkit objects drawn) context =
      { context with
        texture2D := true
        texture := surface.renderTexture
        color := white
        clearColor := ⟨0, 0, 0, 0⟩
        stencil
        vertices := ⟨false, .memory surface.wholeTexture⟩
        texCoords := ⟨false, .memory unitSquare⟩ } := by
  obtain ⟨matrix, saved, opens, closes⟩ := lawful.brackets surface context
  have unbound := (congrArg Context.buffer opens).trans resting.buffer
  obtain ⟨texture, vertices, texCoords, stencil, color, inside⟩ :=
    inLoop_renderLits toolkit surface objects unbound
      ((congrArg Context.texture2D opens).trans resting.texture2D) drawn
  obtain ⟨closed, -⟩ := closes
    { after (surface.beginRender toolkit) context with
      texture, vertices, texCoords, stencil, color }
    (congrArg Context.matrix opens) (congrArg Context.saved opens) unbound
  refine ⟨stencil, ?_⟩
  simp only [ShadowSurface.render, after_append]
  rw [inside, closed, after_present lawful (by exact unbound), opens]
  obtain ⟨-, stencilTest, -, program, framebuffer, blend⟩ := resting
  cases context
  dsimp only at blend framebuffer stencilTest program
  subst blend framebuffer stencilTest program
  rfl

end Parts

/-! ## One frame after the other -/

namespace Frame

variable [Mul Matrix] [One Matrix] {toolkit : Toolkit Matrix} {frame : Frame Light}
  {context : GlContext Matrix}

instance (frame : Frame Light) : Decidable frame.Clears :=
  inferInstanceAs (Decidable (_ ∨ _))

theorem undisturbed_renderBackgroundLayer (lawful : toolkit.Lawful)
    (untextured : context.texture2D = false) (unbound : context.buffer = 0) :
    Undisturbed context (after (frame.renderBackgroundLayer toolkit) context) := by
  rw [renderBackgroundLayer]
  cases frame.bgLayer with
  | none => exact undisturbed_refl context
  | some drawn =>
      have same := undisturbed_renderMapLayer lawful unbound drawn.2 drawn.1
      rw [untextured, ite_self, ← untextured] at same
      exact same

theorem undisturbed_renderForegroundLayer (frame : Frame Light) (lawful : toolkit.Lawful)
    (unbound : context.buffer = 0) :
    Undisturbed { context with texture2D := if frame.Clears then false else context.texture2D }
      (after (frame.renderForegroundLayer toolkit) context) := by
  have tiled : Undisturbed
      { context with
        texture2D :=
          if ∃ drawn ∈ frame.fgLayer, drawn.1.numTiles ≠ 0 then false else context.texture2D }
      (after (frame.fgLayer.elim [] fun drawn => renderMapLayer toolkit drawn.2 drawn.1)
        context) := by
    cases frame.fgLayer with
    | none => simpa using undisturbed_refl context
    | some drawn =>
        simpa [ite_not] using undisturbed_renderMapLayer lawful unbound drawn.2 drawn.1
  have shown := undisturbed_drawShapes toolkit (tiled.buffer.trans unbound)
    frame.shapes
  rw [tiled.texture2D] at shown
  have switches : (if frame.Clears then false else context.texture2D) =
      if frame.shapes = [] then
        if ∃ drawn ∈ frame.fgLayer, drawn.1.numTiles ≠ 0 then false else context.texture2D
      else false := by
    by_cases shapes : frame.shapes = []
    · simp only [Clears, shapes, ne_eq, not_true_eq_false, or_false, if_true]
    · simp only [Clears, shapes, ne_eq, not_false_eq_true, or_true, if_true, if_false]
  rw [renderForegroundLayer, after_append, switches]
  exact (tiled.switch _).trans shown

/-- What `GameLayer::Render` draws before the second `PushTransform`. -/
def behind (toolkit : Toolkit Matrix) (frame : Frame Light) : List (GlCommand Matrix) :=
  [.call toolkit.pushTransform, .call toolkit.applyTransform] ++
    frame.renderBackgroundLayer toolkit ++ [.call toolkit.popTransform] ++
    [.call toolkit.renderChildren]

/-- What it draws from there on. -/
def inFront (toolkit : Toolkit Matrix) (frame : Frame Light) : List (GlCommand Matrix) :=
  [.call toolkit.pushTransform, .call toolkit.applyTransform] ++
    (frame.surface.render toolkit frame.objects frame.drawn ++
      frame.renderForegroundLayer toolkit ++ [.call toolkit.renderUi]) ++
    [.call toolkit.popTransform]

omit [Mul Matrix] [One Matrix] in
theorem render_eq (toolkit : Toolkit Matrix) (frame : Frame Light) :
    frame.render toolkit = frame.behind toolkit ++ frame.inFront toolkit := by
  simp only [Frame.render, behind, inFront, List.append_assoc]

theorem undisturbed_behind (frame : Frame Light) (lawful : toolkit.Lawful) (unobtrusive : toolkit.Unobtrusive)
    (resting : Resting context) : Undisturbed context (after (frame.behind toolkit) context) := by
  rw [behind, after_append]
  refine Undisturbed.trans ?_ (unobtrusive.renderChildren _)
  exact lawful.transformed _ fun _ _ =>
    undisturbed_renderBackgroundLayer lawful resting.texture2D resting.buffer

theorem undisturbed_inFront (lawful : toolkit.Lawful) (unobtrusive : toolkit.Unobtrusive)
    (resting : Resting context) :
    Undisturbed { context with texture2D := !frame.Clears }
      (after (frame.inFront toolkit) context) := by
  refine lawful.transformed _ fun matrix saved => ?_
  have inside : Resting { context with matrix, saved } := ⟨resting.1, resting.2, resting.3,
    resting.4, resting.5, resting.6⟩
  obtain ⟨stencil, drawn⟩ :=
    after_render lawful inside frame.surface frame.objects frame.drawn
  have shadows : Undisturbed { context with matrix, saved, texture2D := true }
      (after (frame.surface.render toolkit frame.objects frame.drawn)
        { context with matrix, saved }) :=
    drawn ▸ ⟨_, _, _, _, _, _, rfl⟩
  have foreground := undisturbed_renderForegroundLayer frame lawful
    (shadows.buffer.trans inside.buffer)
  have enabled : (if frame.Clears then false else true) = !decide frame.Clears := by
    by_cases clears : frame.Clears
    · simp [clears]
    · simp [clears]
  rw [shadows.texture2D, enabled] at foreground
  rw [after_append, after_append]
  exact ((shadows.switch _).trans foreground).trans (unobtrusive.renderUi _)

/-- A frame restores the matrices, and texturing stays enabled unless something in the
foreground disables it. -/
theorem undisturbed_render (frame : Frame Light) (lawful : toolkit.Lawful) (unobtrusive : toolkit.Unobtrusive)
    (resting : Resting context) :
    Undisturbed { context with texture2D := !frame.Clears }
      (after (frame.render toolkit) context) := by
  have first := undisturbed_behind frame lawful unobtrusive resting
  rw [render_eq, after_append]
  exact (first.switch _).trans
    (undisturbed_inFront lawful unobtrusive (first.resting_iff.mpr resting))

/-- The next frame. -/
def step (toolkit : Toolkit Matrix) : Step (Frame Light) (GlContext Matrix) :=
  fun frame context => some (after (frame.render toolkit) context)

/-- Frame after frame the context is at rest and the matrices are as they were, exactly if
something in the foreground of every frame disables texturing. -/
theorem always_resting_iff (lawful : toolkit.Lawful) (unobtrusive : toolkit.Unobtrusive)
    (resting : Resting context) (frames : List (Frame Light)) :
    Always (step toolkit)
        (fun later => Resting later ∧ later.matrix = context.matrix ∧ later.saved = context.saved)
        frames context ↔
      Meets (step toolkit) (fun _ frame => frame.Clears) frames context := by
  apply always_iff_meets fun later =>
    later.matrix = context.matrix ∧ later.saved = context.saved
  · rintro later frame next - ⟨still, matrix, saved⟩ ⟨⟩
    have same := undisturbed_render frame lawful unobtrusive still
    refine ⟨⟨same.matrices.1.trans matrix, same.matrices.2.trans saved⟩, ?_⟩
    rw [same.resting_iff, same.matrices.1, same.matrices.2]
    constructor
    · rintro ⟨quiet, -⟩
      exact by simpa using quiet.texture2D
    · intro clears
      refine ⟨⟨by simpa using clears, still.2, still.3, still.4, still.5, still.6⟩, matrix, saved⟩
  · exact ⟨rfl, rfl⟩
  · exact ⟨resting, rfl, rfl⟩

/-- A frame with one tile in the background, a light without a texture that a box is in the
way of, and a shape. -/
def tile : Frame Unit where
  bgLayer := some (⟨[], [], 1, 2, 1⟩, 3)
  fgLayer := none
  surface := .initial
  objects := ⟨fun _ => Shadow.ShadowLayer.lightAt ⟨0, 0⟩, fun _ => 0⟩
  drawn := [((), List.replicate 16 ⟨0, 0⟩)]
  shapes := [.solidPolygon [⟨0, 0⟩, ⟨1, 0⟩, ⟨1, 1⟩] white]

theorem unobtrusive_translations : Toolkit.translations.Unobtrusive :=
  ⟨undisturbed_refl, undisturbed_refl⟩

/-- Two such frames. -/
theorem always_resting_tile :
    Always (step .translations)
      (fun later => Resting later ∧ later.matrix = 1 ∧ later.saved = []) [tile, tile]
      Context.atRest :=
  (always_resting_iff Toolkit.lawful_translations unobtrusive_translations Context.resting_atRest
    [tile, tile]).mpr fun _ _ => ⟨.inr (by decide), fun _ _ => ⟨.inr (by decide), trivial⟩⟩

end Frame

end LegendOfStealth.Drawing
