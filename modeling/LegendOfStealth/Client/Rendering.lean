import LegendOfStealth.Client.MapLayer
import LegendOfStealth.Client.ShadowLayer
import LegendOfStealth.Library.Painting

/-!
# The commands of a frame

The layers draw with commands to a fixed-function pipeline.  What they call of the engine
is a parameter, and its functions are calls among the commands.

`ShadowLayer` draws into a texture of its own.  For each light it marks the shadows in the
stencil and draws the light where there is no mark; then it fills what is left with the
colour of the shadow.
-/

namespace LegendOfStealth.Drawing

open LegendOfStealth.Library.Pipeline LegendOfStealth.Geometry
open LegendOfStealth.Shadow (AttachedLight)
open LegendOfStealth.Light (RenderTexture Texture)

/-- The commands that draw in the plane. -/
abbrev GlCommand (Matrix : Type) := Command Matrix Vec2 Color

/-- The contexts of these commands. -/
abbrev GlContext (Matrix : Type) := Context Matrix Vec2 Color

/-- `glColor4ub(255, 255, 255, 255)`. -/
def white : Color :=
  ⟨1, 1, 1, 1⟩

/-- The matrices of `glTranslatef`, `glRotatef` about the last axis and `glScalef`, and the
functions of the engine that drawing calls.  `applyTransform` is applied to the game layer;
`bindFBO`, `unbindFBO`, `bindTex` and `getTex` are those of a `RenderTexture`, `bind` and
`getTextureID` those of a `Texture`; `renderChildren` and `renderUi` are what `Layer::Render`
does for the game layer and for the layer of the user interface. -/
structure Toolkit (Matrix : Type) where
  translation : Vec2 → Matrix
  rotation : ℚ → Matrix
  scaling : ℚ → ℚ → Matrix
  pushTransform : GlContext Matrix → GlContext Matrix
  applyTransform : GlContext Matrix → GlContext Matrix
  popTransform : GlContext Matrix → GlContext Matrix
  bindFBO : Nat → GlContext Matrix → GlContext Matrix
  unbindFBO : Nat → GlContext Matrix → GlContext Matrix
  bindTex : Nat → GlContext Matrix → GlContext Matrix
  bind : Nat → GlContext Matrix → GlContext Matrix
  getTex : RenderTexture → Nat
  getTextureID : Texture → Nat
  renderChildren : GlContext Matrix → GlContext Matrix
  renderUi : GlContext Matrix → GlContext Matrix

variable {Matrix Light : Type}

/-- The square that a texture is drawn on, in texture coordinates. -/
def unitSquare : List Vec2 :=
  [⟨0, 0⟩, ⟨1, 0⟩, ⟨1, 1⟩, ⟨0, 1⟩]

/-- The texture and the vertices of `LightSource::RenderLight`, if the light has a texture.
A custom texture has its origin in the middle of its left edge. -/
def sprite (toolkit : Toolkit Matrix) (source : AttachedLight) : Option (Nat × List Vec2) :=
  match source.light.sharedTexture with
  | some shared =>
      let radius := source.light.properties.radius
      some (toolkit.getTex shared,
        [⟨-radius, -radius⟩, ⟨radius, -radius⟩, ⟨radius, radius⟩, ⟨-radius, radius⟩])
  | none =>
      source.light.texture.map fun texture =>
        let d := texture.dimensions
        (toolkit.getTextureID texture,
          [⟨0, -d.y / 2⟩, ⟨d.x, -d.y / 2⟩, ⟨d.x, d.y / 2⟩, ⟨0, d.y / 2⟩])

/-- `LightSource::RenderLight`. -/
def renderLightSource (toolkit : Toolkit Matrix) (source : AttachedLight) (worldRotation : ℚ) :
    List (GlCommand Matrix) :=
  match sprite toolkit source with
  | none => []
  | some (tex, v) =>
      [.pushMatrix,
        .multMatrix (toolkit.translation source.object.worldPosition),
        .multMatrix (toolkit.rotation worldRotation),
        .enable .texture2D,
        .bindTexture tex,
        .enableClientState .vertexArray,
        .enableClientState .textureCoordArray,
        .color white,
        .vertexPointer (.memory v),
        .texCoordPointer (.memory unitSquare),
        .drawArrays .quads 4,
        .disableClientState .vertexArray,
        .disableClientState .textureCoordArray,
        .bindTexture 0,
        .disable .texture2D,
        .popMatrix]

/-! ## The shadow layer -/

/-- What `ShadowLayer` draws with: `_shadowColor`, `_renderTexture` with its resolution, and
the program of `_shader`. -/
structure ShadowSurface where
  shadowColor : Color
  renderTexture : Nat
  resolution : Vec2
  shader : Nat

/-- The lights behind the pointers, with the rotations of their game objects. -/
structure LitObjects (Light : Type) where
  lights : Light → AttachedLight
  worldRotation : Light → ℚ

namespace ShadowSurface

variable (toolkit : Toolkit Matrix) (surface : ShadowSurface)

/-- The rectangle of the whole render texture. -/
def wholeTexture : List Vec2 :=
  [⟨0, 0⟩, ⟨surface.resolution.x, 0⟩, ⟨surface.resolution.x, surface.resolution.y⟩,
    ⟨0, surface.resolution.y⟩]

/-- `RenderShadows`, with the vertices that `GetShadowVertices` returned. -/
def renderShadows (shadowverts : List Vec2) : List (GlCommand Matrix) :=
  [.clear false true,
    .stencilFunc .never 1 0,
    .stencilOp .replace .replace .replace,
    .color { surface.shadowColor with a := 1 },
    .enableClientState .vertexArray,
    .vertexPointer (.memory shadowverts),
    .drawArrays .quads shadowverts.length,
    .disableClientState .vertexArray,
    .color white]

/-- `ShadowLayer::RenderLight`. -/
def renderLight (source : AttachedLight) (worldRotation : ℚ) : List (GlCommand Matrix) :=
  [.stencilFunc .notEqual 1 1,
    .stencilOp .keep .keep .keep] ++
  renderLightSource toolkit source worldRotation

/-- The body of the loop of `Render`, for a light that should be drawn. -/
def renderLit (objects : LitObjects Light) (drawn : Light × List Vec2) :
    List (GlCommand Matrix) :=
  surface.renderShadows drawn.2 ++
    renderLight toolkit (objects.lights drawn.1) (objects.worldRotation drawn.1)

/-- `DrawFillShadow`. -/
def drawFillShadow : List (GlCommand Matrix) :=
  [.color surface.shadowColor,
    .blendFunc .oneMinusDstAlpha .one,
    .enableClientState .vertexArray,
    .vertexPointer (.memory surface.wholeTexture),
    .drawArrays .quads 4,
    .disableClientState .vertexArray,
    .color white,
    .blendFunc .srcAlpha .oneMinusSrcAlpha]

/-- `DrawRenderTexture`; `_shader->Enable()` and `_shader->Disable()` change the program. -/
def drawRenderTexture : List (GlCommand Matrix) :=
  [.enable .texture2D,
    .call (toolkit.bindTex surface.renderTexture),
    .useProgram surface.shader,
    .enableClientState .vertexArray,
    .enableClientState .textureCoordArray,
    .color white,
    .vertexPointer (.memory surface.wholeTexture),
    .texCoordPointer (.memory unitSquare),
    .drawArrays .quads 4,
    .disableClientState .vertexArray,
    .disableClientState .textureCoordArray,
    .useProgram 0]

/-- `Render` up to its loop. -/
def beginRender : List (GlCommand Matrix) :=
  [.call (toolkit.bindFBO surface.renderTexture),
    .enable .stencilTest,
    .clearColor ⟨0, 0, 0, 0⟩,
    .clear true true,
    .call toolkit.pushTransform,
    .call toolkit.applyTransform]

/-- `Render` after its loop, up to the end of the drawing into the texture. -/
def endRender : List (GlCommand Matrix) :=
  [.disable .stencilTest,
    .call toolkit.popTransform] ++
  surface.drawFillShadow ++
  [.call (toolkit.unbindFBO surface.renderTexture)]

/-- `Render` from there on: the texture is drawn on the screen. -/
def present : List (GlCommand Matrix) :=
  [.pushMatrix,
    .loadIdentity] ++
  surface.drawRenderTexture toolkit ++
  [.popMatrix]

/-- `ShadowLayer::Render`, when these lights are drawn. -/
def render (objects : LitObjects Light) (drawn : List (Light × List Vec2)) :
    List (GlCommand Matrix) :=
  surface.beginRender toolkit ++ drawn.flatMap (surface.renderLit toolkit objects) ++
    surface.endRender toolkit ++ surface.present toolkit

end ShadowSurface

/-! ## The map -/

/-- `MapLayer::Render`; `GetTexture()` is a parameter. -/
def renderMapLayer (toolkit : Toolkit Matrix) (texture : Nat) (layer : MapLayer) :
    List (GlCommand Matrix) :=
  if layer.numTiles = 0 then []
  else
    [.pushMatrix,
      .enable .texture2D,
      .call (toolkit.bind texture),
      .enableClientState .vertexArray,
      .enableClientState .textureCoordArray,
      .bindBuffer layer.vertBuf,
      .vertexPointer .null,
      .bindBuffer layer.texBuf,
      .texCoordPointer .null,
      .drawArrays .quads (layer.numTiles * 4),
      .bindTexture 0,
      .bindBuffer 0,
      .disable .texture2D,
      .popMatrix]

/-- A call of the physics world on its debug drawer. -/
inductive DebugShape
  | solidPolygon (vertices : List Vec2) (color : Color)
  | solidCircle (center : Vec2) (rim : List Vec2) (color : Color)

/-- `B2_PTM`. -/
def pixelsPerMetre : ℚ :=
  Map.b2Ptm

/-- `CommonPreRender`. -/
def commonPreRender (toolkit : Toolkit Matrix) : List (GlCommand Matrix) :=
  [.pushMatrix,
    .multMatrix (toolkit.scaling pixelsPerMetre pixelsPerMetre),
    .enableClientState .vertexArray,
    .disable .texture2D]

/-- `CommonPostRender`. -/
def commonPostRender : List (GlCommand Matrix) :=
  [.popMatrix,
    .disableClientState .vertexArray,
    .color white]

/-- `DrawSolidPolygon` and `DrawSolidCircle`; the points of the circle are those of the loop
of `DrawCircle`. -/
def drawShape (toolkit : Toolkit Matrix) : DebugShape → List (GlCommand Matrix)
  | .solidPolygon vertices color =>
      commonPreRender toolkit ++
      [.color { color with a := 2 / 5 },
        .vertexPointer (.memory vertices),
        .drawArrays .polygon vertices.length] ++
      commonPostRender
  | .solidCircle center rim color =>
      commonPreRender toolkit ++
      [.multMatrix (toolkit.translation center),
        .color { color with a := 2 / 5 },
        .vertexPointer (.memory rim),
        .drawArrays .lineLoop rim.length] ++
      commonPostRender

/-! ## The game layer -/

/-- What is drawn in a frame: the map layers with their textures, the lights with their
shadows, and the shapes of the physics world. -/
structure Frame (Light : Type) where
  bgLayer : Option (MapLayer × Nat)
  fgLayer : Option (MapLayer × Nat)
  surface : ShadowSurface
  objects : LitObjects Light
  drawn : List (Light × List Vec2)
  shapes : List DebugShape

namespace Frame

variable (toolkit : Toolkit Matrix) (frame : Frame Light)

/-- `Map::RenderBackgroundLayer`. -/
def renderBackgroundLayer : List (GlCommand Matrix) :=
  frame.bgLayer.elim [] fun (layer, texture) => renderMapLayer toolkit texture layer

/-- `Map::RenderForegroundLayer`; `DrawDebugData` calls the drawer for every shape. -/
def renderForegroundLayer : List (GlCommand Matrix) :=
  frame.fgLayer.elim [] (fun (layer, texture) => renderMapLayer toolkit texture layer) ++
    frame.shapes.flatMap (drawShape toolkit)

/-- `GameLayer::Render`. -/
def render : List (GlCommand Matrix) :=
  [.call toolkit.pushTransform, .call toolkit.applyTransform] ++
  frame.renderBackgroundLayer toolkit ++
  [.call toolkit.popTransform] ++
  [.call toolkit.renderChildren] ++
  [.call toolkit.pushTransform, .call toolkit.applyTransform] ++
  frame.surface.render toolkit frame.objects frame.drawn ++
  frame.renderForegroundLayer toolkit ++
  [.call toolkit.renderUi] ++
  [.call toolkit.popTransform]

end Frame

end LegendOfStealth.Drawing
