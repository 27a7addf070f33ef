import LegendOfStealth.Client.Lighting
import LegendOfStealth.Client.Uniforms

/-!
# Darkness

`ShadowLayer` keeps the colour of the shadow twice: in `_shadowColor`, with which the texture
is filled, and in a uniform of the shader that draws the texture on the screen.  The shader
makes a pixel the more transparent the brighter it is than the shadow.

Where no light gets, both agree, and the screen is covered with the colour of the shadow.
-/

namespace LegendOfStealth.Drawing

open LegendOfStealth.Library LegendOfStealth.Library.Pipeline LegendOfStealth.Geometry
open LegendOfStealth.Shading
open LegendOfStealth.Shadow (AttachedLight AttachedCaster ShadowLayer)

/-- `length` of `light.frag`. -/
def fragLength (sqrt : ℚ → ℚ) (v : Color) : ℚ :=
  sqrt (v.r * v.r + v.g * v.g + v.b * v.b)

/-- `main` of `light.frag`, where the texture has a colour. -/
def lightFrag (sqrt : ℚ → ℚ) (lalpha : ℚ) (ulcolor src : Color) : Color :=
  { src with a := src.a - (fragLength sqrt src - fragLength sqrt ulcolor) * (lalpha * 3) }

/-- What the program makes of a colour with the uniforms that it holds, once they are set. -/
def fragColor (sqrt : ℚ → ℚ) (program : Program) (uniforms : Uniforms) (src : Color) :
    Option Color :=
  match uniforms.values (program.locate "lalpha"), uniforms.values (program.locate "ulcolor") with
  | some (.floats [lalpha]), some (.floats [r, g, b, a]) =>
      some (lightFrag sqrt lalpha ⟨r, g, b, a⟩ src)
  | _, _ => none

/-- The program of `light.frag` has the uniforms that it declares, at different places. -/
structure Declares (program : Program) : Prop where
  lalpha : program.locate "lalpha" ≠ -1 ∧
    ∀ x, program.accepts (program.locate "lalpha") (.floats [x]) = true
  ulcolor : program.locate "ulcolor" ≠ -1 ∧
    ∀ r g b a, program.accepts (program.locate "ulcolor") (.floats [r, g, b, a]) = true
  apart : program.locate "lalpha" ≠ program.locate "ulcolor"

/-- `_shadowColor` and `_shader`. -/
structure Shade where
  shadowColor : Color
  shader : Session

namespace Shade

variable {program : Program}

/-- `SetShadowColor`. -/
def setShadowColor (program : Program) (c : Color) (shade : Shade) : Shade :=
  ⟨c, shade.shader.setUniform4f program "ulcolor" c.r c.g c.b c.a⟩

/-- `ShadowLayer::ShadowLayer`, when the program has been linked and a colour is what
`_shadowColor` was constructed with. -/
def new (program : Program) (constructed : Color) : Shade :=
  let shader := Session.linked.setUniform1i program "tex" 0
  let shader := shader.setUniform1f program "lalpha" (4 / 5)
  setShadowColor program ⟨0, 0, 0, 9 / 10⟩ ⟨constructed, shader⟩

/-- What happens to the shader of the layer. -/
inductive Event
  | setShadowColor (c : Color)
  | drawRenderTexture

/-- An event. -/
def handle (program : Program) (shade : Shade) : Event → Shade
  | .setShadowColor c => shade.setShadowColor program c
  | .drawRenderTexture => { shade with shader := shade.shader.enable.disable }

/-- The shader has the colour of the shadow. -/
structure Agrees (program : Program) (shade : Shade) : Prop where
  coherent : shade.shader.Coherent program
  lalpha : shade.shader.uniforms.values (program.locate "lalpha") = some (.floats [4 / 5])
  ulcolor : shade.shader.uniforms.values (program.locate "ulcolor") =
    some (.floats [shade.shadowColor.r, shade.shadowColor.g, shade.shadowColor.b,
      shade.shadowColor.a])

/-- A value that fits is there afterwards, and the other values are as before. -/
theorem values_setUniformX {session : Session} (coherent : session.Coherent program)
    (name : String) (value : Value) (components : 1 ≤ value.length ∧ value.length ≤ 4)
    (located : program.locate name ≠ -1)
    (fits : program.accepts (program.locate name) value = true) :
    (session.setUniformX program name value).uniforms.values =
      Function.update session.uniforms.values (program.locate name) (some value) := by
  rw [(coherent.setUniformX name value).2, Uniforms.expected, Uniforms.assign,
    if_pos ⟨components, located, fits⟩]

theorem agrees_setShadowColor (declares : Declares program) {shade : Shade}
    (coherent : shade.shader.Coherent program)
    (lalpha : shade.shader.uniforms.values (program.locate "lalpha") = some (.floats [4 / 5]))
    (c : Color) : (shade.setShadowColor program c).Agrees program := by
  obtain ⟨located, fits⟩ := declares.ulcolor
  have set := values_setUniformX coherent "ulcolor" (.floats [c.r, c.g, c.b, c.a])
    ⟨Nat.le_add_left 1 3, le_rfl⟩ located (fits c.r c.g c.b c.a)
  refine ⟨(coherent.setUniformX _ _).1, ?_, ?_⟩
  · rw [setShadowColor, Session.setUniform4f, set, Function.update_of_ne declares.apart]
    exact lalpha
  · rw [setShadowColor, Session.setUniform4f, set, Function.update_self]

theorem agrees_new (declares : Declares program) (constructed : Color) :
    (new program constructed).Agrees program := by
  have tex := ((Session.coherent_linked program).setUniformX "tex" (.ints [0])).1
  obtain ⟨located, fits⟩ := declares.lalpha
  have set := values_setUniformX tex "lalpha" (.floats [4 / 5]) ⟨le_rfl, Nat.le_add_left 1 3⟩
    located (fits (4 / 5))
  refine agrees_setShadowColor declares (tex.setUniformX "lalpha" (.floats [4 / 5])).1 ?_ _
  exact (congrFun set _).trans (Function.update_self ..)

theorem Agrees.handle {shade : Shade} (agrees : shade.Agrees program)
    (declares : Declares program) (event : Event) :
    (shade.handle program event).Agrees program := by
  cases event with
  | setShadowColor c => exact agrees_setShadowColor declares agrees.coherent agrees.lalpha c
  | drawRenderTexture =>
      exact ⟨⟨agrees.coherent.remembered, agrees.coherent.once⟩, agrees.lalpha, agrees.ulcolor⟩

theorem Agrees.foldl {shade : Shade} (agrees : shade.Agrees program)
    (declares : Declares program) (events : List Event) :
    (events.foldl (Shade.handle program) shade).Agrees program := by
  induction events generalizing shade with
  | nil => exact agrees
  | cons event rest ih => exact ih (agrees.handle declares event)

theorem Agrees.fragColor_shadowColor {shade : Shade} (agrees : shade.Agrees program)
    (sqrt : ℚ → ℚ) :
    fragColor sqrt program shade.shader.uniforms shade.shadowColor = some shade.shadowColor := by
  rw [fragColor, agrees.lalpha, agrees.ulcolor]
  simp [lightFrag]

end Shade

/-! ## Where no light gets -/

section Dark

variable {Matrix Light Caster Pixel : Type} [Mul Matrix]

/-- A light that should be drawn covers the pixel and is not hidden there. -/
def Reached (engine : Engine) (layerPosition : Vec2) (toolkit : Toolkit Matrix)
    (objects : LitObjects Light) (device : Device Matrix Vec2 Color Pixel)
    (opened : GlContext Matrix) (casters : Caster → AttachedCaster)
    (layer : ShadowLayer Light Caster) (pixel : Pixel) : Prop :=
  ∃ obj ∈ layer.lightSources,
    ShadowLayer.shouldDrawLight engine layerPosition (objects.lights obj) = true ∧
      (∃ call ∈ lightDraw toolkit objects opened obj, call.covers device pixel = true) ∧
      ¬ InShadow engine device opened.matrix (objects.lights obj) casters layer pixel

instance (engine : Engine) (layerPosition : Vec2) (toolkit : Toolkit Matrix)
    (objects : LitObjects Light) (device : Device Matrix Vec2 Color Pixel)
    (opened : GlContext Matrix) (casters : Caster → AttachedCaster)
    (layer : ShadowLayer Light Caster) (pixel : Pixel) :
    Decidable (Reached engine layerPosition toolkit objects device opened casters layer pixel) :=
  inferInstanceAs (Decidable (∃ obj ∈ _, _ ∧ (∃ call ∈ _, _) ∧ ¬ _))

/-- Every value is between 0 and 1. -/
def InRange (c : Color) : Prop :=
  ∀ channel ∈ [c.r, c.g, c.b, c.a], 0 ≤ channel ∧ channel ≤ 1

instance (c : Color) : Decidable (InRange c) :=
  inferInstanceAs (Decidable (∀ channel ∈ _, _))

theorem clamp_of_inRange {value : ℚ} (range : 0 ≤ value ∧ value ≤ 1) : clamp value = value := by
  rw [clamp, min_eq_left range.2, max_eq_right range.1]

theorem blendExact_fill {c : Color} (range : InRange c) :
    blendExact (.oneMinusDstAlpha, .one) c ⟨0, 0, 0, 0⟩ = c := by
  obtain ⟨r, g, b, a⟩ := c
  simp only [InRange, List.forall_mem_cons] at range
  obtain ⟨red, green, blue, alpha, -⟩ := range
  simp [blendExact, factorValue, clamp_of_inRange red, clamp_of_inRange green,
    clamp_of_inRange blue, clamp_of_inRange alpha]

variable {toolkit : Toolkit Matrix} {objects : LitObjects Light}
  {device : Device Matrix Vec2 Color Pixel} {opened : GlContext Matrix} {pixel : Pixel}

/-- Lights that do not reach a pixel leave it as it was. -/
theorem foldl_illuminate_of_dark {shadowed : Light → Prop} [DecidablePred shadowed]
    {lights : List Light}
    (dark : ∀ obj ∈ lights, ∀ call ∈ lightDraw toolkit objects opened obj,
      call.covers device pixel = true → shadowed obj) (color : Color) :
    lights.foldl (illuminate toolkit objects device opened pixel shadowed) color = color := by
  have turn : ∀ obj ∈ lights,
      illuminate toolkit objects device opened pixel shadowed color obj = color := by
    intro obj member
    rw [illuminate]
    split
    · rename_i call drawn
      exact if_neg fun reached => reached.2 (dark obj member call drawn reached.1)
    · rfl
  clear dark
  induction lights with
  | nil => rfl
  | cons obj rest ih =>
      rw [List.foldl_cons, turn obj List.mem_cons_self]
      exact ih fun other member => turn other (List.mem_cons_of_mem _ member)

variable [One Matrix] [DecidableEq Caster] (objects pixel) {context : GlContext Matrix} {surface : ShadowSurface}
  {engine : Engine} {layerPosition : Vec2} {casters after : Caster → AttachedCaster}
  {layer : ShadowLayer Light Caster} {drawn : List (Light × List Vec2)} {program : Program}

/-- Darkness: whatever colours have been set and however often the texture has been drawn, a
pixel that no light reaches has the colour of the shadow, in the texture and after the
shader. -/
theorem shadowColor_of_not_reached (declares : Declares program) (constructed : Color)
    (events : List Shade.Event) (sqrt : ℚ → ℚ) (lawful : toolkit.Lawful) (flat : device.Flat)
    (exactly : device.blend = blendExact) (resting : Resting context)
    (named : surface.renderTexture ≠ 0)
    (rendered : layer.render engine layerPosition objects.lights casters = some (drawn, after))
    (buffers : Nat → List Vec2) (cell : Cell Color)
    (kept : surface.shadowColor =
      (events.foldl (Shade.handle program) (.new program constructed)).shadowColor)
    (range : InRange surface.shadowColor)
    (covered : device.covers (toolkit.bindFBO surface.renderTexture context).matrix .quads
      surface.wholeTexture pixel = true)
    (dark : ¬ Reached engine layerPosition toolkit objects device
      (Pipeline.after (surface.beginRender toolkit) context) casters layer pixel) :
    let shade := events.foldl (Shade.handle program) (.new program constructed)
    let stored := (paint device surface.renderTexture pixel
      (Pipeline.events buffers (surface.render toolkit objects drawn) context) cell).color
    stored = shade.shadowColor ∧
      fragColor sqrt program shade.shader.uniforms stored = some shade.shadowColor := by
  intro shade stored
  have agrees : shade.Agrees program := (Shade.agrees_new declares constructed).foldl declares events
  let opened := Pipeline.after (surface.beginRender toolkit) context
  let shadowed obj := InShadow engine device opened.matrix (objects.lights obj) casters layer pixel
  have still : (layer.lightSources.filter fun obj =>
        ShadowLayer.shouldDrawLight engine layerPosition (objects.lights obj)).foldl
      (illuminate toolkit objects device opened pixel shadowed) ⟨0, 0, 0, 0⟩ = ⟨0, 0, 0, 0⟩ := by
    refine foldl_illuminate_of_dark (fun obj member call drawn covers => ?_) _
    obtain ⟨member, draws⟩ := List.mem_filter.mp member
    by_contra clear
    exact dark ⟨obj, member, draws, ⟨call, drawn, covers⟩, clear⟩
  have unlit : stored = shade.shadowColor := by
    refine (paint_render lawful flat resting named buffers drawn pixel cell).trans ?_
    rw [drawn_of_render rendered, List.foldl_map]
    simp only [marked_iff_inShadow]
    refine (congrArg (fill device surface _ pixel) still).trans ?_
    rw [fill, if_pos covered, exactly, blendExact_fill range, kept]
  exact ⟨unlit, unlit ▸ agrees.fragColor_shadowColor sqrt⟩

end Dark

/-- A program with the uniforms of `light.frag`. -/
def plainProgram : Program where
  locate name :=
    if name = "tex" then 0 else if name = "lalpha" then 1 else if name = "ulcolor" then 2 else -1
  accepts _ _ := true

/-- A surface with another colour of the shadow. -/
def tinted : ShadowSurface :=
  { ShadowSurface.initial with shadowColor := ⟨0, 0, 1 / 10, 1 / 2⟩ }

/-- A pixel behind the box, after the colour of the shadow has been changed. -/
theorem shadowColor_behind_box :
    ∃ drawn after,
      (⟨[()], [()]⟩ : ShadowLayer Unit Unit).render (.exact false) ⟨0, 0⟩ (fun _ => torch)
          (fun _ => ShadowLayer.box) = some (drawn, after) ∧
        (paint Device.convex 1 ⟨20, 32⟩
          (events (fun _ => []) (tinted.render .translations ⟨fun _ => torch, fun _ => 0⟩ drawn)
            Context.atRest) ⟨white, 0⟩).color = ⟨0, 0, 1 / 10, 1 / 2⟩ := by
  obtain ⟨⟨drawn, after⟩, rendered⟩ := Option.isSome_iff_exists.mp (by decide +kernel :
    ((⟨[()], [()]⟩ : ShadowLayer Unit Unit).render (.exact false) ⟨0, 0⟩ (fun _ => torch)
          (fun _ => ShadowLayer.box)).isSome = true)
  refine ⟨drawn, after, rendered, ?_⟩
  have declares : Declares plainProgram :=
    ⟨⟨by decide, fun _ => rfl⟩, ⟨by decide, fun _ _ _ _ => rfl⟩, by decide⟩
  have named : tinted.renderTexture ≠ 0 := one_ne_zero
  let events : List Shade.Event :=
    [.drawRenderTexture, .setShadowColor ⟨0, 0, 1 / 10, 1 / 2⟩, .drawRenderTexture]
  have kept : tinted.shadowColor =
      (events.foldl (Shade.handle plainProgram) (.new plainProgram white)).shadowColor := rfl
  have dark := shadowColor_of_not_reached ⟨fun _ => torch, fun _ => 0⟩ ⟨20, 32⟩ declares white
    events id Toolkit.lawful_translations Device.flat_convex rfl Context.resting_atRest named
    rendered (fun _ => []) ⟨white, 0⟩ kept (by decide +kernel) (by decide +kernel)
    (by decide +kernel)
  exact dark.1.trans kept.symm

end LegendOfStealth.Drawing
