import LegendOfStealth.Client.Rendering
import LegendOfStealth.Client.ShadowVertices

/-!
# What the shadow layer draws

A pixel of the render texture is lit by the lights whose square covers it and for which no
caster throws a shadow over it.  What `Render` makes of a pixel is the blend of the lights
that light it, in the order of the list, filled up with the colour of the shadow.

The stencil is cleared for every light, so the shadows of one light do not concern another.
-/

namespace LegendOfStealth.Drawing

open LegendOfStealth.Library LegendOfStealth.Library.Pipeline LegendOfStealth.Geometry
open LegendOfStealth.Shadow (AttachedLight AttachedCaster ShadowLayer edges)
open LegendOfStealth.Shadow.ShadowLayer (edgeQuad litShapes shadowOf Refreshed)

variable {Matrix Light Caster Pixel : Type}

/-- What drawing relies on: the transformations and the render texture's framebuffer are
undone by their counterparts, if the matrices are then as they left them, and the textures
are bound.  Nothing else is changed. -/
structure Toolkit.Lawful (toolkit : Toolkit Matrix) : Prop where
  transforms : ∀ context, ∃ matrix saved,
    toolkit.applyTransform (toolkit.pushTransform context) = { context with matrix, saved } ∧
      ∀ inner : GlContext Matrix, inner.matrix = matrix → inner.saved = saved →
        toolkit.popTransform inner =
          { inner with matrix := context.matrix, saved := context.saved }
  surfaces : ∀ name context, ∃ matrix saved,
    toolkit.bindFBO name context = { context with framebuffer := name, matrix, saved } ∧
      ∀ inner : GlContext Matrix, inner.matrix = matrix → inner.saved = saved →
        toolkit.unbindFBO name inner =
          { inner with framebuffer := 0, matrix := context.matrix, saved := context.saved }
  bindTex : ∀ name context, toolkit.bindTex name context = { context with texture := name }
  bind : ∀ name context, toolkit.bind name context = { context with texture := name }

/-- The stencil of `RenderShadows`. -/
def marking : Stencil :=
  ⟨.never, 1, 0, .replace, .replace, .replace⟩

/-- The stencil of `RenderLight`. -/
def masking : Stencil :=
  ⟨.notEqual, 1, 1, .keep, .keep, .keep⟩

/-- A caster that the light hits throws a shadow over the pixel. -/
def InShadow (engine : Engine) (device : Device Matrix Vec2 Color Pixel) (matrix : Matrix)
    (source : AttachedLight) (casters : Caster → AttachedCaster) (layer : ShadowLayer Light Caster)
    (pixel : Pixel) : Prop :=
  ∃ edge ∈ (layer.litShapes engine source casters).flatMap edges,
    device.covers matrix .quads (edgeQuad engine source.object.worldPosition edge) pixel = true

instance (engine : Engine) (device : Device Matrix Vec2 Color Pixel) (matrix : Matrix)
    (source : AttachedLight) (casters : Caster → AttachedCaster) (layer : ShadowLayer Light Caster)
    (pixel : Pixel) : Decidable (InShadow engine device matrix source casters layer pixel) :=
  inferInstanceAs (Decidable (∃ edge ∈ List.flatMap _ _, _))

section Lit

variable [Mul Matrix] (toolkit : Toolkit Matrix) (objects : LitObjects Light)
  (device : Device Matrix Vec2 Color Pixel) (opened : GlContext Matrix) (pixel : Pixel)

/-- The draw call of a light, if it has a texture, in the context in which the loop of
`Render` begins. -/
def lightDraw (obj : Light) : Option (Pipeline.Draw Matrix Vec2 Color) :=
  (sprite toolkit (objects.lights obj)).map fun (tex, v) =>
    { target := opened.framebuffer
      matrix := opened.matrix *
        toolkit.translation (objects.lights obj).object.worldPosition *
          toolkit.rotation (objects.worldRotation obj)
      mode := .quads
      vertices := v
      texCoords := some unitSquare
      texture := some tex
      program := opened.program
      color := white
      stencil := some masking
      blend := opened.blend
      readable := true }

/-- Some quad of the shadow vertices covers the pixel. -/
def Marked (shadowverts : List Vec2) : Prop :=
  ((quadsOf shadowverts).any fun quad => device.covers opened.matrix .quads quad pixel) = true

instance (shadowverts : List Vec2) : Decidable (Marked device opened pixel shadowverts) :=
  inferInstanceAs (Decidable (_ = true))

/-- The colour of a pixel after a light, which lights it if its square covers it and it is
not in shadow. -/
def illuminate (shadowed : Light → Prop) [DecidablePred shadowed] (color : Color) (obj : Light) :
    Color :=
  match lightDraw toolkit objects opened obj with
  | some call =>
      if call.covers device pixel ∧ ¬ shadowed obj then call.blended device pixel color else color
  | none => color

end Lit

section Sprites

variable {toolkit : Toolkit Matrix} {source : AttachedLight}

theorem renderLightSource_of_none (untextured : sprite toolkit source = none) (rotation : ℚ) :
    renderLightSource toolkit source rotation = [] := by
  rw [renderLightSource, untextured]

theorem sprite_corners {tex : Nat} {v : List Vec2}
    (textured : sprite toolkit source = some (tex, v)) :
    ∃ first second third fourth, v = [first, second, third, fourth] := by
  rw [sprite] at textured
  split at textured
  · cases textured
    exact ⟨_, _, _, _, rfl⟩
  · obtain ⟨texture, -, made⟩ := Option.map_eq_some_iff.mp textured
    cases made
    exact ⟨_, _, _, _, rfl⟩

end Sprites

section Commands

variable [Mul Matrix] [One Matrix] {buffers : Nat → List Vec2} {toolkit : Toolkit Matrix}
  {surface : ShadowSurface} {source : AttachedLight} {context : GlContext Matrix}

theorem after_renderShadows (shadowverts : List Vec2) (unbound : context.buffer = 0) :
    after (surface.renderShadows shadowverts) context =
      { context with
        stencil := marking
        color := white
        vertices := ⟨false, .memory shadowverts⟩ } := by
  simp [ShadowSurface.renderShadows, Command.effect, Context.setArray, Context.resolve, unbound,
    marking]

theorem events_renderShadows (shadowverts : List Vec2) (unbound : context.buffer = 0) :
    events buffers (surface.renderShadows shadowverts) context =
      [.clear context.framebuffer none true,
        .draw (Context.draw buffers
          { context with
            stencil := marking
            color := { surface.shadowColor with a := 1 }
            vertices := ⟨true, .memory shadowverts⟩ } .quads shadowverts.length)] := by
  simp [ShadowSurface.renderShadows, Command.effect, Command.emitted, Context.setArray,
    Context.resolve, unbound, marking]

variable {tex : Nat} {v : List Vec2}

theorem after_renderLightSource (textured : sprite toolkit source = some (tex, v)) (rotation : ℚ)
    (unbound : context.buffer = 0) :
    after (renderLightSource toolkit source rotation) context =
      { context with
        texture2D := false
        texture := 0
        color := white
        vertices := ⟨false, .memory v⟩
        texCoords := ⟨false, .memory unitSquare⟩ } := by
  simp [renderLightSource, textured, Command.effect, Context.setArray, Context.setCapability,
    Context.resolve, unbound]

theorem events_renderLightSource (textured : sprite toolkit source = some (tex, v)) (rotation : ℚ)
    (unbound : context.buffer = 0) :
    events buffers (renderLightSource toolkit source rotation) context =
      [.draw (Context.draw buffers
        { context with
          matrix := context.matrix * toolkit.translation source.object.worldPosition *
            toolkit.rotation rotation
          texture2D := true
          texture := tex
          color := white
          vertices := ⟨true, .memory v⟩
          texCoords := ⟨true, .memory unitSquare⟩ } .quads 4)] := by
  simp [renderLightSource, textured, Command.effect, Command.emitted, Context.setArray,
    Context.setCapability, Context.resolve, unbound]
  rfl

end Commands

/-- Inside the loop of `Render` the context is that in which it began, up to what is set for
every light. -/
def InLoop (opened context : GlContext Matrix) : Prop :=
  ∃ texture vertices texCoords stencil color,
    context = { opened with texture, vertices, texCoords, stencil, color }

section Loop

variable {toolkit : Toolkit Matrix} {surface : ShadowSurface} {objects : LitObjects Light}
  {opened context : GlContext Matrix}

theorem InLoop.buffer (inside : InLoop opened context) : context.buffer = opened.buffer := by
  obtain ⟨_, _, _, _, _, rfl⟩ := inside
  rfl

/-- The context in which the square of a light is drawn. -/
theorem InLoop.mask (inside : InLoop opened context) :
    InLoop opened { context with stencil := masking } := by
  obtain ⟨_, _, _, _, _, rfl⟩ := inside
  exact ⟨_, _, _, _, _, rfl⟩

variable [Mul Matrix] [One Matrix]

theorem InLoop.renderShadows (inside : InLoop opened context) (unbound : opened.buffer = 0)
    (shadowverts : List Vec2) :
    InLoop opened (after (surface.renderShadows shadowverts) context) := by
  rw [after_renderShadows shadowverts (inside.buffer.trans unbound)]
  obtain ⟨_, _, _, _, _, rfl⟩ := inside
  exact ⟨_, _, _, _, _, rfl⟩

theorem InLoop.renderLightSource (inside : InLoop opened context) (unbound : opened.buffer = 0)
    (untextured : opened.texture2D = false) (source : AttachedLight) (rotation : ℚ) :
    InLoop opened (after (renderLightSource toolkit source rotation) context) := by
  cases textured : sprite toolkit source with
  | none =>
      rw [renderLightSource_of_none textured]
      exact inside
  | some found =>
      rw [after_renderLightSource textured rotation (inside.buffer.trans unbound), ← untextured]
      obtain ⟨_, _, _, _, _, rfl⟩ := inside
      exact ⟨_, _, _, _, _, rfl⟩

theorem renderLit_eq (drawn : Light × List Vec2) (context : GlContext Matrix) :
    after (surface.renderLit toolkit objects drawn) context =
      after (renderLightSource toolkit (objects.lights drawn.1) (objects.worldRotation drawn.1))
        { after (surface.renderShadows drawn.2) context with stencil := masking } := by
  rw [ShadowSurface.renderLit, ShadowSurface.renderLight, after_append, after_append]
  rfl

theorem events_renderLit (buffers : Nat → List Vec2) (drawn : Light × List Vec2)
    (context : GlContext Matrix) :
    events buffers (surface.renderLit toolkit objects drawn) context =
      events buffers (surface.renderShadows drawn.2) context ++
        events buffers
          (renderLightSource toolkit (objects.lights drawn.1) (objects.worldRotation drawn.1))
          { after (surface.renderShadows drawn.2) context with stencil := masking } := by
  rw [ShadowSurface.renderLit, ShadowSurface.renderLight, events_append, events_append]
  rfl

theorem InLoop.renderLit (inside : InLoop opened context) (unbound : opened.buffer = 0)
    (untextured : opened.texture2D = false) (drawn : Light × List Vec2) :
    InLoop opened (after (surface.renderLit toolkit objects drawn) context) := by
  rw [renderLit_eq]
  exact (inside.renderShadows unbound drawn.2).mask.renderLightSource unbound untextured _ _

variable {buffers : Nat → List Vec2} {device : Device Matrix Vec2 Color Pixel}

/-- The shadows of a light mark what they cover. -/
theorem InLoop.paint_renderShadows (inside : InLoop opened context) (unbound : opened.buffer = 0)
    (tested : opened.stencilTest = true) (shadowverts : List Vec2) (pixel : Pixel)
    (cell : Cell Color) :
    paint device opened.framebuffer pixel
        (events buffers (surface.renderShadows shadowverts) context) cell =
      ⟨cell.color, if Marked device opened pixel shadowverts then 1 else 0⟩ := by
  rw [events_renderShadows shadowverts (inside.buffer.trans unbound)]
  obtain ⟨_, _, _, _, _, rfl⟩ := inside
  rw [paint_cons, paint_cons, paint_nil, Event.paint, Event.paint, if_pos rfl, if_pos rfl,
    paint_of_marks (by simp [Context.draw, tested] : _ = some marking) ⟨rfl, rfl⟩]
  simp [Context.draw, Draw.covers, Draw.primitives, Source.elements, marking, Marked]

theorem InLoop.events_renderLightSource (inside : InLoop opened context)
    (unbound : opened.buffer = 0) (tested : opened.stencilTest = true)
    (masked : context.stencil = masking) (obj : Light) :
    events buffers (Drawing.renderLightSource toolkit (objects.lights obj)
        (objects.worldRotation obj)) context =
      (lightDraw toolkit objects opened obj).toList.map .draw := by
  rw [lightDraw]
  cases textured : sprite toolkit (objects.lights obj) with
  | none =>
      rw [renderLightSource_of_none textured]
      rfl
  | some found =>
      obtain ⟨tex, v⟩ := found
      obtain ⟨first, second, third, fourth, rfl⟩ := sprite_corners textured
      rw [Drawing.events_renderLightSource textured _ (inside.buffer.trans unbound)]
      obtain ⟨_, _, _, _, _, rfl⟩ := inside
      dsimp only at masked
      simp [Context.draw, ClientArray.Holds, Source.elements, unitSquare, tested, masked]

omit [One Matrix] in
theorem lightDraw_eq_some {obj : Light} {call : Pipeline.Draw Matrix Vec2 Color}
    (drawn : lightDraw toolkit objects opened obj = some call) :
    call.target = opened.framebuffer ∧ call.stencil = some masking ∧
      ∃ corners, call.primitives = [corners] := by
  obtain ⟨⟨tex, v⟩, textured, rfl⟩ := Option.map_eq_some_iff.mp drawn
  obtain ⟨first, second, third, fourth, rfl⟩ := sprite_corners textured
  exact ⟨rfl, rfl, _, rfl⟩

omit [One Matrix] in
/-- A light turns a cell that it covers over if nothing is marked there. -/
theorem paint_lightDraw (obj : Light) (pixel : Pixel) (color : Color) (marked : Prop)
    [Decidable marked] :
    paint device opened.framebuffer pixel
        ((lightDraw toolkit objects opened obj).toList.map .draw)
        ⟨color, if marked then 1 else 0⟩ =
      ⟨illuminate toolkit objects device opened pixel (fun _ => marked) color obj,
        if marked then 1 else 0⟩ := by
  rw [illuminate]
  cases drawn : lightDraw toolkit objects opened obj with
  | none => rfl
  | some call =>
      obtain ⟨target, under, corners, single⟩ := lightDraw_eq_some drawn
      rw [Option.toList_some, List.map_singleton, paint_cons, paint_nil, Event.paint,
        if_pos target, paint_of_masks under ⟨rfl, rfl, rfl⟩ single]
      by_cases masked : marked
      · simp [masked, masking]
      · simp [masked, masking]

/-- The turn of the loop of `Render` for one light. -/
theorem paint_renderLit (inside : InLoop opened context) (unbound : opened.buffer = 0)
    (tested : opened.stencilTest = true) (drawn : Light × List Vec2) (pixel : Pixel)
    (cell : Cell Color) :
    paint device opened.framebuffer pixel
        (events buffers (surface.renderLit toolkit objects drawn) context) cell =
      ⟨illuminate toolkit objects device opened pixel
          (fun _ => Marked device opened pixel drawn.2) cell.color drawn.1,
        if Marked device opened pixel drawn.2 then 1 else 0⟩ := by
  have lit : InLoop opened
      { after (surface.renderShadows drawn.2) context with stencil := masking } :=
    (inside.renderShadows unbound drawn.2).mask
  rw [events_renderLit, paint_append, inside.paint_renderShadows unbound tested,
    lit.events_renderLightSource unbound tested rfl, paint_lightDraw]

omit [Mul Matrix] [One Matrix] in
theorem inLoop_refl (opened : GlContext Matrix) : InLoop opened opened :=
  ⟨_, _, _, _, _, rfl⟩

variable (toolkit surface objects device buffers)

/-- The loop of `Render` leaves the context as it was. -/
theorem inLoop_renderLits (unbound : opened.buffer = 0) (untextured : opened.texture2D = false)
    (drawn : List (Light × List Vec2)) :
    InLoop opened (after (drawn.flatMap (surface.renderLit toolkit objects)) opened) :=
  after_flatMap (InLoop opened) (fun lit _ _ inside => inside.renderLit unbound untextured lit)
    (inLoop_refl opened)

/-- The loop of `Render`, for one pixel: the stencil of one light does not outlast it. -/
theorem paint_renderLits (unbound : opened.buffer = 0) (untextured : opened.texture2D = false)
    (tested : opened.stencilTest = true) (drawn : List (Light × List Vec2)) (pixel : Pixel)
    (cell : Cell Color) :
    (paint device opened.framebuffer pixel
        (events buffers (drawn.flatMap (surface.renderLit toolkit objects)) opened) cell).color =
      drawn.foldl
        (fun color lit =>
          illuminate toolkit objects device opened pixel
            (fun _ => Marked device opened pixel lit.2) color lit.1)
        cell.color := by
  rw [paint_events_flatMap device opened.framebuffer pixel
    (fun lit _ context inside => ⟨inside.renderLit unbound untextured lit,
      paint_renderLit inside unbound tested lit pixel⟩) (inLoop_refl opened)]
  exact (List.foldl_hom Cell.color fun _ _ => rfl).symm

end Loop

/-! ## The whole texture -/

/-- Nothing is enabled or bound between the layers, and blending is that of translucent
pictures. -/
structure Resting (context : GlContext Matrix) : Prop where
  texture2D : context.texture2D = false
  stencilTest : context.stencilTest = false
  buffer : context.buffer = 0
  program : context.program = 0
  framebuffer : context.framebuffer = 0
  blend : context.blend = (.srcAlpha, .oneMinusSrcAlpha)

/-- The colour of a pixel after `DrawFillShadow`. -/
def fill (device : Device Matrix Vec2 Color Pixel) (surface : ShadowSurface) (matrix : Matrix)
    (pixel : Pixel) (color : Color) : Color :=
  if device.covers matrix .quads surface.wholeTexture pixel then
    device.blend (.oneMinusDstAlpha, .one) surface.shadowColor color
  else color

section Render

variable [Mul Matrix] [One Matrix] {toolkit : Toolkit Matrix} {surface : ShadowSurface}
  {objects : LitObjects Light} {context : GlContext Matrix}

theorem after_drawFillShadow (unbound : context.buffer = 0) :
    after surface.drawFillShadow context =
      { context with
        blend := (.srcAlpha, .oneMinusSrcAlpha)
        color := white
        vertices := ⟨false, .memory surface.wholeTexture⟩ } := by
  simp [ShadowSurface.drawFillShadow, Command.effect, Context.setArray, Context.resolve, unbound]

theorem events_drawFillShadow (buffers : Nat → List Vec2) (unbound : context.buffer = 0) :
    events buffers surface.drawFillShadow context =
      [.draw (Context.draw buffers
        { context with
          blend := (.oneMinusDstAlpha, .one)
          color := surface.shadowColor
          vertices := ⟨true, .memory surface.wholeTexture⟩ } .quads 4)] := by
  simp [ShadowSurface.drawFillShadow, Command.effect, Command.emitted, Context.setArray,
    Context.resolve, unbound]

/-- `Render` before its loop changes the matrices, and after the loop it restores them. -/
theorem Toolkit.Lawful.brackets (lawful : toolkit.Lawful) (surface : ShadowSurface)
    (context : GlContext Matrix) :
    ∃ matrix saved, after (surface.beginRender toolkit) context =
        { context with
          stencilTest := true
          framebuffer := surface.renderTexture
          clearColor := ⟨0, 0, 0, 0⟩
          matrix, saved } ∧
      ∀ inner : GlContext Matrix, inner.matrix = matrix → inner.saved = saved →
        inner.buffer = 0 →
        after (surface.endRender toolkit) inner =
          { inner with
            stencilTest := false
            framebuffer := 0
            matrix := context.matrix
            saved := context.saved
            blend := (.srcAlpha, .oneMinusSrcAlpha)
            color := white
            vertices := ⟨false, .memory surface.wholeTexture⟩ } ∧
        ∀ buffers, events buffers (surface.endRender toolkit) inner =
          [.draw (Context.draw buffers
            { inner with
              stencilTest := false
              matrix := (toolkit.bindFBO surface.renderTexture context).matrix
              saved := (toolkit.bindFBO surface.renderTexture context).saved
              blend := (.oneMinusDstAlpha, .one)
              color := surface.shadowColor
              vertices := ⟨true, .memory surface.wholeTexture⟩ } .quads 4)] := by
  obtain ⟨outer, outerSaved, bound, unbind⟩ := lawful.surfaces surface.renderTexture context
  obtain ⟨matrix, saved, pushed, pop⟩ := lawful.transforms
    { toolkit.bindFBO surface.renderTexture context with
      stencilTest := true
      clearColor := ⟨0, 0, 0, 0⟩ }
  rw [bound] at pushed pop ⊢
  dsimp only at pushed pop ⊢
  refine ⟨matrix, saved, ?_, ?_⟩
  · simp only [ShadowSurface.beginRender, after_cons, after_nil, Command.effect,
      Context.setCapability, bound]
    exact pushed
  · intro inner sameMatrix sameSaved unbound
    have popped : after [.disable .stencilTest, .call toolkit.popTransform] inner =
        { inner with stencilTest := false, matrix := outer, saved := outerSaved } :=
      pop { inner with stencilTest := false } sameMatrix sameSaved
    constructor
    · rw [ShadowSurface.endRender, after_append, after_append, popped, after_drawFillShadow]
      · exact unbind _ rfl rfl
      · exact unbound
    · intro buffers
      rw [ShadowSurface.endRender, events_append, events_append, popped, events_drawFillShadow]
      · rfl
      · exact unbound

theorem events_beginRender (lawful : toolkit.Lawful) (buffers : Nat → List Vec2)
    (surface : ShadowSurface) (context : GlContext Matrix) :
    events buffers (surface.beginRender toolkit) context =
      [.clear surface.renderTexture (some ⟨0, 0, 0, 0⟩) true] := by
  obtain ⟨outer, outerSaved, bound, -⟩ := lawful.surfaces surface.renderTexture context
  simp [ShadowSurface.beginRender, Command.effect, Command.emitted, Context.setCapability, bound]

/-- The texture is drawn on the screen with the program of the shader, which is then no
longer used. -/
theorem after_present (lawful : toolkit.Lawful) (unbound : context.buffer = 0) :
    after (surface.present toolkit) context =
      { context with
        texture2D := true
        texture := surface.renderTexture
        program := 0
        color := white
        vertices := ⟨false, .memory surface.wholeTexture⟩
        texCoords := ⟨false, .memory unitSquare⟩ } := by
  simp [ShadowSurface.present, ShadowSurface.drawRenderTexture, Command.effect,
    Context.setCapability, Context.setArray, Context.resolve, lawful.bindTex, unbound]

theorem events_present (lawful : toolkit.Lawful) (buffers : Nat → List Vec2)
    (unbound : context.buffer = 0) :
    events buffers (surface.present toolkit) context =
      [.draw (Context.draw buffers
        { context with
          matrix := 1
          saved := context.matrix :: context.saved
          texture2D := true
          texture := surface.renderTexture
          program := surface.shader
          color := white
          vertices := ⟨true, .memory surface.wholeTexture⟩
          texCoords := ⟨true, .memory unitSquare⟩ } .quads 4)] := by
  simp [ShadowSurface.present, ShadowSurface.drawRenderTexture, Command.effect, Command.emitted,
    Context.setCapability, Context.setArray, Context.resolve, lawful.bindTex, unbound]

variable {device : Device Matrix Vec2 Color Pixel}

omit [Mul Matrix] [One Matrix] in
/-- What `DrawFillShadow` makes of a pixel of the texture. -/
theorem paint_fill (flat : device.Flat) (surface : ShadowSurface) (inner : GlContext Matrix)
    {name : Nat} (target : inner.framebuffer = name) (untextured : inner.texture2D = false)
    (unprogrammed : inner.program = 0) (untested : inner.stencilTest = false)
    (buffers : Nat → List Vec2) (pixel : Pixel) (cell : Cell Color) :
    (paint device name pixel
        [.draw (Context.draw buffers
          { inner with
            blend := (.oneMinusDstAlpha, .one)
            color := surface.shadowColor
            vertices := ⟨true, .memory surface.wholeTexture⟩ } .quads 4)] cell).color =
      fill device surface inner.matrix pixel cell.color := by
  rw [paint_cons, paint_nil, Event.paint, if_pos (by exact target), paint_of_flat flat]
  · rfl
  · simp [Context.draw, untested]
  · rfl
  · simp [Context.draw, untextured]
  · exact unprogrammed

/-- What `Render` makes of a pixel of its texture, when the lights are drawn with given
shadow vertices. -/
theorem paint_render (lawful : toolkit.Lawful) (flat : device.Flat) (resting : Resting context)
    (named : surface.renderTexture ≠ 0) (buffers : Nat → List Vec2)
    (drawn : List (Light × List Vec2)) (pixel : Pixel) (cell : Cell Color) :
    let opened := after (surface.beginRender toolkit) context
    (paint device surface.renderTexture pixel
        (events buffers (surface.render toolkit objects drawn) context) cell).color =
      fill device surface (toolkit.bindFBO surface.renderTexture context).matrix pixel
        (drawn.foldl
          (fun color lit =>
            illuminate toolkit objects device opened pixel
              (fun _ => Marked device opened pixel lit.2) color lit.1)
          ⟨0, 0, 0, 0⟩) := by
  intro opened
  obtain ⟨matrix, saved, opens, closes⟩ := lawful.brackets surface context
  have unbound : opened.buffer = 0 := (congrArg Context.buffer opens).trans resting.buffer
  have untextured : opened.texture2D = false :=
    (congrArg Context.texture2D opens).trans resting.texture2D
  have tested : opened.stencilTest = true := congrArg Context.stencilTest opens
  have target : opened.framebuffer = surface.renderTexture := congrArg Context.framebuffer opens
  have lit := paint_renderLits toolkit surface objects buffers device unbound untextured tested
    drawn pixel
  obtain ⟨texture, vertices, texCoords, stencil, color, inside⟩ :=
    inLoop_renderLits toolkit surface objects unbound untextured drawn
  rw [target] at lit
  obtain ⟨closed, shown⟩ := closes
    { opened with texture, vertices, texCoords, stencil, color }
    (congrArg Context.matrix opens) (congrArg Context.saved opens) unbound
  have shownAside (context : GlContext Matrix) (elsewhere : context.framebuffer = 0)
      (unbound : context.buffer = 0) (cell : Cell Color) :
      paint device surface.renderTexture pixel
        (events buffers (surface.present toolkit) context) cell = cell := by
    rw [events_present lawful buffers unbound, paint_cons, paint_nil, Event.paint,
      if_neg (by simpa [Context.draw, elsewhere] using Ne.symm named)]
  have filled (cell : Cell Color) := paint_fill flat surface
    { opened with
      texture, vertices, texCoords, stencil, color
      stencilTest := false
      matrix := (toolkit.bindFBO surface.renderTexture context).matrix
      saved := (toolkit.bindFBO surface.renderTexture context).saved }
    target untextured ((congrArg Context.program opens).trans resting.program) rfl buffers pixel cell
  simp only [ShadowSurface.render, events_append, after_append, paint_append]
  have cleared : paint device surface.renderTexture pixel
      [.clear surface.renderTexture (some ⟨0, 0, 0, 0⟩) true] cell = ⟨⟨0, 0, 0, 0⟩, 0⟩ := by
    rw [paint_cons, paint_nil, Event.paint, if_pos rfl]
    rfl
  rw [inside, closed, shown, events_beginRender lawful, cleared]
  refine (congrArg Cell.color (shownAside _ (by rfl) (by exact unbound) _)).trans ?_
  exact (filled _).trans (congrArg _ (lit _))

end Render

section Scene

variable {engine : Engine} {device : Device Matrix Vec2 Color Pixel} {source : AttachedLight}
  {casters : Caster → AttachedCaster} {layer : ShadowLayer Light Caster}

/-- The shadow vertices mark the pixels that are in shadow. -/
theorem marked_iff_inShadow {opened : GlContext Matrix} {pixel : Pixel} :
    Marked device opened pixel
        (layer.shadowCasters.flatMap fun obj => shadowOf engine source (casters obj)) ↔
      InShadow engine device opened.matrix source casters layer pixel := by
  rw [Marked, InShadow, ShadowLayer.flatMap_shadowOf, quadsOf_flatMap, List.any_map, List.any_eq_true]
  · rfl
  · exact fun edge => ⟨_, _, _, _, rfl⟩

theorem refreshed_trans {before between after : AttachedCaster}
    (first : Refreshed engine before between) (second : Refreshed engine between after) :
    Refreshed engine before after := by
  rcases second with rfl | rfl
  · exact first
  · exact .inr first.trans_refreshed

variable [DecidableEq Caster] {layerPosition : Vec2} {lights : Light → AttachedLight}
  {after : Caster → AttachedCaster} {drawn : List (Light × List Vec2)}

/-- `Render` draws each light that should be drawn with the shadows that the casters throw
as they were at first. -/
theorem drawn_of_render
    (rendered : layer.render engine layerPosition lights casters = some (drawn, after)) :
    drawn =
      (layer.lightSources.filter fun obj =>
          ShadowLayer.shouldDrawLight engine layerPosition (lights obj)).map fun obj =>
        (obj, layer.shadowCasters.flatMap fun caster =>
          shadowOf engine (lights obj) (casters caster)) := by
  let done (before : List Light) (state : List (Light × List Vec2) × (Caster → AttachedCaster)) :
      Prop :=
    (state.1 =
        (before.filter fun obj =>
            ShadowLayer.shouldDrawLight engine layerPosition (lights obj)).map fun obj =>
          (obj, layer.shadowCasters.flatMap fun caster =>
            shadowOf engine (lights obj) (casters caster))) ∧
      ∀ caster, Refreshed engine (casters caster) (state.2 caster)
  have turn : ∀ obj ∈ layer.lightSources, ∀ before state next, done before state →
      layer.renderSource engine layerPosition lights state obj = some next →
        done (before ++ [obj]) next := by
    rintro obj - before state next ⟨drawnBefore, same⟩ turned
    rw [ShadowLayer.renderSource] at turned
    split at turned
    · rename_i draws
      rcases Option.map_eq_some_iff.mp turned with ⟨result, returned, rfl⟩
      obtain ⟨still, shaped⟩ := ShadowLayer.refreshed_of_getShadowVertices returned
      obtain ⟨_, returned', -⟩ : ∃ after, layer.getShadowVertices engine (lights obj) state.2 =
            some (_, after) ∧ _ :=
        ShadowLayer.getShadowVertices_of_shaped shaped
      cases returned.symm.trans returned'
      have cast : (layer.shadowCasters.flatMap fun caster =>
            shadowOf engine (lights obj) (state.2 caster)) =
          layer.shadowCasters.flatMap fun caster =>
            shadowOf engine (lights obj) (casters caster) :=
        List.flatMap_congr fun caster member =>
          (same caster).shadowOf ((same caster).localVerts ▸ shaped caster member)
      refine ⟨?_, fun caster => refreshed_trans (same caster) (still caster)⟩
      simp [List.filter_append, draws, drawnBefore, cast]
    · rename_i skips
      cases turned
      exact ⟨by simpa [List.filter_append, skips] using drawnBefore, same⟩
  exact (done_of_foldlM done ⟨rfl, fun _ => .inl rfl⟩ turn rendered).1

/-- Light and shadow: whatever order the casters are in and however often their shapes have
been asked for, a pixel of the shadow layer is the blend of the lights that reach it, in the
order of the list, filled up with the colour of the shadow.  A light reaches the pixel if it
should be drawn, its square covers the pixel, and no caster that it hits throws a shadow over
the pixel. -/
theorem paint_scene [Mul Matrix] [One Matrix] {toolkit : Toolkit Matrix}
    {context : GlContext Matrix} (lawful : toolkit.Lawful) (flat : device.Flat)
    (resting : Resting context) {surface : ShadowSurface} (named : surface.renderTexture ≠ 0)
    (objects : LitObjects Light)
    (rendered : layer.render engine layerPosition objects.lights casters = some (drawn, after))
    (buffers : Nat → List Vec2) (pixel : Pixel) (cell : Cell Color) :
    let opened := Pipeline.after (surface.beginRender toolkit) context
    let shadowed obj := InShadow engine device opened.matrix (objects.lights obj) casters layer pixel
    (paint device surface.renderTexture pixel
        (events buffers (surface.render toolkit objects drawn) context) cell).color =
      fill device surface (toolkit.bindFBO surface.renderTexture context).matrix pixel
        ((layer.lightSources.filter fun obj =>
            ShadowLayer.shouldDrawLight engine layerPosition (objects.lights obj)).foldl
          (illuminate toolkit objects device opened pixel shadowed) ⟨0, 0, 0, 0⟩) := by
  intro opened shadowed
  rw [paint_render lawful flat resting named, drawn_of_render rendered, List.foldl_map]
  simp only [marked_iff_inShadow]
  rfl

end Scene

/-! ## Exact drawing -/

/-- The value of a factor. -/
def factorValue (src dst : Color) : Factor → ℚ
  | .one => 1
  | .srcAlpha => src.a
  | .oneMinusSrcAlpha => 1 - src.a
  | .oneMinusDstAlpha => 1 - dst.a

/-- What a surface stores of a value. -/
def clamp (value : ℚ) : ℚ :=
  max 0 (min value 1)

/-- Blending without rounding. -/
def blendExact (factors : Factor × Factor) (src dst : Color) : Color :=
  let channel (s d : ℚ) : ℚ :=
    clamp (s * factorValue src dst factors.1 + d * factorValue src dst factors.2)
  ⟨channel src.r dst.r, channel src.g dst.g, channel src.b dst.b, channel src.a dst.a⟩

/-- The matrices of translations. -/
abbrev Translation := Multiplicative (ℚ × ℚ)

/-- Drawing without rotations, when the game layer is at the origin. -/
def Toolkit.translations : Toolkit Translation where
  translation v := .ofAdd (v.x, v.y)
  rotation _ := 1
  scaling _ _ := 1
  pushTransform context := { context with saved := context.matrix :: context.saved }
  applyTransform := id
  popTransform context := Command.popMatrix.effect context
  bindFBO name context := { context with framebuffer := name }
  unbindFBO _ context := { context with framebuffer := 0 }
  bindTex name context := { context with texture := name }
  bind name context := { context with texture := name }
  getTex texture := texture + 1
  getTextureID texture := texture.id
  renderChildren := id
  renderUi := id

theorem Toolkit.lawful_translations : Toolkit.translations.Lawful where
  transforms context := by
    refine ⟨context.matrix, context.matrix :: context.saved, rfl, ?_⟩
    rintro ⟨⟩ rfl rfl
    rfl
  surfaces name context := by
    refine ⟨context.matrix, context.saved, rfl, ?_⟩
    rintro ⟨⟩ rfl rfl
    rfl
  bindTex _ _ := rfl
  bind _ _ := rfl

/-- Convex polygons cover the points that are on the same side of all their edges.  A
picture is white and half transparent. -/
def Device.convex : Device Translation Vec2 Color Vec2 where
  covers matrix _ vertices pixel :=
    let offset : Vec2 := ⟨matrix.toAdd.1, matrix.toAdd.2⟩
    let sides : List ℚ := (vertices.zip (vertices.rotate 1)).map fun (v, w) =>
      (w.x - v.x) * (pixel.y - offset.y - v.y) - (w.y - v.y) * (pixel.x - offset.x - v.x)
    sides.all (0 ≤ ·) || sides.all (· ≤ 0)
  fragment call _ :=
    match call.texture with
    | none => call.color
    | some _ => ⟨1, 1, 1, 1 / 2⟩
  blend := blendExact

theorem Device.flat_convex : Device.convex.Flat := by
  intro call pixel untextured _
  rw [Device.convex]
  simp only [untextured]

/-- The context before the first frame. -/
def Context.atRest : GlContext Translation where
  matrix := 1
  saved := []
  texture2D := false
  stencilTest := false
  texture := 0
  buffer := 0
  program := 0
  framebuffer := 0
  vertices := ⟨false, .nowhere⟩
  texCoords := ⟨false, .nowhere⟩
  stencil := ⟨.always, 0, 1, .keep, .keep, .keep⟩
  blend := (.srcAlpha, .oneMinusSrcAlpha)
  color := white
  clearColor := ⟨0, 0, 0, 0⟩

theorem Context.resting_atRest : Resting Context.atRest :=
  ⟨rfl, rfl, rfl, rfl, rfl, rfl⟩

/-- The surface of the constructor. -/
def ShadowSurface.initial : ShadowSurface :=
  ⟨⟨0, 0, 0, 9 / 10⟩, 1, ⟨1280, 720⟩, 1⟩

/-- A light in the lower left of the screen, with the shared texture. -/
def torch : AttachedLight :=
  let light := ShadowLayer.lightAt ⟨100, 32⟩
  { light with light := { light.light with sharedTexture := some 0 } }

/-- A box to the left of the torch. -/
theorem paint_scene_torch :
    ∃ drawn after,
      (⟨[()], [()]⟩ : ShadowLayer Unit Unit).render (.exact false) ⟨0, 0⟩ (fun _ => torch)
          (fun _ => ShadowLayer.box) = some (drawn, after) ∧
        (paint Device.convex 1 ⟨20, 32⟩
          (events (fun _ => []) (ShadowSurface.initial.render .translations ⟨fun _ => torch, fun _ => 0⟩
            drawn) Context.atRest) ⟨white, 0⟩).color = ⟨0, 0, 0, 9 / 10⟩ := by
  obtain ⟨⟨drawn, after⟩, rendered⟩ := Option.isSome_iff_exists.mp (by decide +kernel :
    ((⟨[()], [()]⟩ : ShadowLayer Unit Unit).render (.exact false) ⟨0, 0⟩ (fun _ => torch)
          (fun _ => ShadowLayer.box)).isSome = true)
  refine ⟨drawn, after, rendered, ?_⟩
  have named : ShadowSurface.initial.renderTexture ≠ 0 := one_ne_zero
  refine (paint_scene Toolkit.lawful_translations Device.flat_convex Context.resting_atRest named
    ⟨fun _ => torch, fun _ => 0⟩ rendered _ _ _).trans ?_
  decide +kernel

end LegendOfStealth.Drawing
