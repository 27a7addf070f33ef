import LegendOfStealth.Client.Map
import LegendOfStealth.Library.Transition

/-!
# The buffers of a map layer

A `MapLayer` collects the coordinates of its tiles and uploads them with `CreateVBO`.
`Render` draws as many tiles as the layer has, not as many as were uploaded, so it reads
past the buffers when a tile has been added since.
-/

namespace LegendOfStealth.Drawing

open LegendOfStealth.Library LegendOfStealth.Geometry

/-- The buffer objects of OpenGL: the floats of each name that has been generated. -/
abbrev Buffers := Nat → Option (List ℚ)

namespace Buffers

/-- `glGenBuffers`, with the name that it chooses: not 0, and none that is in use. -/
def gen (name : Nat) (buffers : Buffers) : Option Buffers :=
  if name = 0 ∨ (buffers name).isSome then none else some (Function.update buffers name (some []))

/-- `glDeleteBuffers`. -/
def delete (name : Nat) (buffers : Buffers) : Buffers :=
  Function.update buffers name none

/-- `glBindBuffer` and `glBufferData`. -/
def data (name : Nat) (floats : List ℚ) (buffers : Buffers) : Buffers :=
  if (buffers name).isSome then Function.update buffers name (some floats) else buffers

/-- How many vertices a buffer holds, at two floats each; the name 0 is no buffer. -/
def held (name : Nat) (buffers : Buffers) : Nat :=
  if name = 0 then 0 else ((buffers name).getD []).length / 2

end Buffers

/-- `MapLayer`. -/
structure MapLayer where
  texCoords : List ℚ
  vertices : List ℚ
  numTiles : Nat
  texBuf : Nat
  vertBuf : Nat
  deriving DecidableEq

/-- A `glDrawArrays` call: how many vertices it draws, and how many there are in the
buffers that are bound for vertices and texture coordinates. -/
structure Draw where
  count : Nat
  vertices : Nat
  texCoords : Nat
  deriving DecidableEq

namespace MapLayer

/-- `MapLayer::MapLayer`. -/
def new : MapLayer :=
  ⟨[], [], 0, 0, 0⟩

/-- The floats that are pushed for a rectangle. -/
def pushed (rect : Rect) : List ℚ :=
  [rect.x, rect.y, rect.x + rect.w, rect.y, rect.x + rect.w, rect.y + rect.h, rect.x,
    rect.y + rect.h]

/-- `AddTile`. -/
def addTile (worldClip texClip : Rect) (layer : MapLayer) : MapLayer :=
  { layer with
    vertices := layer.vertices ++ pushed worldClip
    texCoords := layer.texCoords ++ pushed texClip
    numTiles := layer.numTiles + 1 }

/-- `DestroyBuffers`. -/
def destroyBuffers (layer : MapLayer) (buffers : Buffers) : MapLayer × Buffers :=
  let (layer, buffers) :=
    if layer.texBuf ≠ 0 then ({ layer with texBuf := 0 }, buffers.delete layer.texBuf)
    else (layer, buffers)
  if layer.vertBuf ≠ 0 then ({ layer with vertBuf := 0 }, buffers.delete layer.vertBuf)
  else (layer, buffers)

/-- `CreateBuffers`, when OpenGL chooses two names. -/
def createBuffers (vertName texName : Nat) (layer : MapLayer) (buffers : Buffers) :
    Option (MapLayer × Buffers) :=
  let (layer, buffers) :=
    if layer.texBuf ≠ 0 ∨ layer.vertBuf ≠ 0 then layer.destroyBuffers buffers
    else (layer, buffers)
  (buffers.gen vertName).bind fun buffers =>
    (buffers.gen texName).map fun buffers =>
      ({ layer with vertBuf := vertName, texBuf := texName }, buffers)

/-- `FillBuffers`. -/
def fillBuffers (layer : MapLayer) (buffers : Buffers) : Buffers :=
  (buffers.data layer.texBuf layer.texCoords).data layer.vertBuf layer.vertices

/-- `CreateVBO`. -/
def createVBO (vertName texName : Nat) (layer : MapLayer) (buffers : Buffers) :
    Option (MapLayer × Buffers) :=
  if layer.numTiles = 0 then some (layer, buffers)
  else
    (if layer.vertBuf = 0 ∨ layer.texBuf = 0 then layer.createBuffers vertName texName buffers
      else some (layer, buffers)).map fun result => (result.1, result.1.fillBuffers result.2)

/-- `Render`. -/
def render (layer : MapLayer) (buffers : Buffers) : Option Draw :=
  if layer.numTiles = 0 then none
  else some ⟨layer.numTiles * 4, buffers.held layer.vertBuf, buffers.held layer.texBuf⟩

end MapLayer

/-- A layer, the buffer objects, the draw calls so far, and how many tiles were added since
the latest `CreateVBO`. -/
structure Display where
  layer : MapLayer
  buffers : Buffers
  draws : List Draw
  pending : Nat

/-- What is done with a layer. -/
inductive Operation
  | addTile (worldClip texClip : Rect)
  | createVBO (vertName texName : Nat)
  | render

namespace Display

/-- A new layer among the buffers of others. -/
def start (buffers : Buffers) : Display :=
  ⟨.new, buffers, [], 0⟩

/-- One operation. -/
def step : Step Operation Display
  | .addTile worldClip texClip, display =>
      some { display with
        layer := display.layer.addTile worldClip texClip
        pending := display.pending + 1 }
  | .createVBO vertName texName, display =>
      (display.layer.createVBO vertName texName display.buffers).map fun result =>
        { display with layer := result.1, buffers := result.2, pending := 0 }
  | .render, display =>
      some { display with
        draws := display.draws ++ (display.layer.render display.buffers).toList }

/-- The layer has eight floats of each kind for every tile, and no draw call has read more
vertices than the buffers held. -/
structure Sound (display : Display) : Prop where
  vertices : display.layer.vertices.length = 8 * display.layer.numTiles
  texCoords : display.layer.texCoords.length = 8 * display.layer.numTiles
  drawn : ∀ draw ∈ display.draws, draw.count ≤ draw.vertices ∧ draw.count ≤ draw.texCoords

/-- No tile was added between the latest `CreateVBO` and a `Render`. -/
def Uploaded (display : Display) : Operation → Prop
  | .render => display.pending = 0
  | _ => True

end Display

namespace Buffers

variable {buffers after : Buffers} {name other : Nat} {floats : List ℚ}

theorem gen_eq_some (generated : buffers.gen name = some after) :
    (name ≠ 0 ∧ buffers name = none) ∧ after = Function.update buffers name (some []) := by
  obtain ⟨fresh, updated⟩ := Option.ite_none_left_eq_some.mp generated
  obtain ⟨nonzero, unused⟩ := not_or.mp fresh
  exact ⟨⟨nonzero, Option.not_isSome_iff_eq_none.mp unused⟩, (Option.some.inj updated).symm⟩

theorem data_self (exists' : (buffers name).isSome) :
    buffers.data name floats name = some floats := by
  rw [data, if_pos exists', Function.update_self]

theorem data_of_ne (different : other ≠ name) :
    buffers.data name floats other = buffers other := by
  rw [data]
  split
  · exact Function.update_of_ne different _ _
  · rfl

end Buffers

namespace MapLayer

variable {layer : MapLayer} {buffers : Buffers}

/-- The layer has two buffers. -/
structure Ready (layer : MapLayer) (buffers : Buffers) : Prop where
  nonzero : layer.vertBuf ≠ 0 ∧ layer.texBuf ≠ 0
  different : layer.vertBuf ≠ layer.texBuf
  vertices : (buffers layer.vertBuf).isSome
  texCoords : (buffers layer.texBuf).isSome

/-- The buffers of a layer hold its tiles, except for the last ones. -/
structure Holds (layer : MapLayer) (buffers : Buffers) (pending : Nat) : Prop where
  ready : layer.Ready buffers
  vertices : ∀ floats ∈ buffers layer.vertBuf, floats.length + 8 * pending = 8 * layer.numTiles
  texCoords : ∀ floats ∈ buffers layer.texBuf, floats.length + 8 * pending = 8 * layer.numTiles

/-- Eight floats of each kind for every tile. -/
structure Tiled (layer : MapLayer) : Prop where
  vertices : layer.vertices.length = 8 * layer.numTiles
  texCoords : layer.texCoords.length = 8 * layer.numTiles

theorem Tiled.addTile (tiled : layer.Tiled) (worldClip texClip : Rect) :
    (layer.addTile worldClip texClip).Tiled where
  vertices := by
    rw [MapLayer.addTile, List.length_append, tiled.vertices]
    rfl
  texCoords := by
    rw [MapLayer.addTile, List.length_append, tiled.texCoords]
    rfl

theorem Ready.fillBuffers (ready : layer.Ready buffers) :
    layer.Ready (layer.fillBuffers buffers) ∧
      layer.fillBuffers buffers layer.vertBuf = some layer.vertices ∧
        layer.fillBuffers buffers layer.texBuf = some layer.texCoords := by
  have vertices : layer.fillBuffers buffers layer.vertBuf = some layer.vertices := by
    apply Buffers.data_self
    rw [Buffers.data_of_ne ready.different]
    exact ready.vertices
  have texCoords : layer.fillBuffers buffers layer.texBuf = some layer.texCoords := by
    rw [MapLayer.fillBuffers, Buffers.data_of_ne ready.different.symm]
    exact Buffers.data_self ready.texCoords
  refine ⟨⟨ready.nonzero, ready.different, ?_, ?_⟩, vertices, texCoords⟩
  · rw [vertices]
    rfl
  · rw [texCoords]
    rfl

/-- New buffers for a layer that has none. -/
theorem ready_of_createBuffers {vertName texName : Nat} {result : MapLayer × Buffers}
    (bare : layer.vertBuf = 0 ∧ layer.texBuf = 0)
    (created : layer.createBuffers vertName texName buffers = some result) :
    result.1 = { layer with vertBuf := vertName, texBuf := texName } ∧
      result.1.Ready result.2 := by
  rw [createBuffers, if_neg (by simp [bare])] at created
  obtain ⟨first, vertGen, rest⟩ := Option.bind_eq_some_iff.mp created
  obtain ⟨second, texGen, rfl⟩ := Option.map_eq_some_iff.mp rest
  obtain ⟨⟨vertNonzero, -⟩, rfl⟩ := Buffers.gen_eq_some vertGen
  obtain ⟨⟨texNonzero, unused⟩, rfl⟩ := Buffers.gen_eq_some texGen
  have different : vertName ≠ texName := by
    rintro rfl
    rw [Function.update_self] at unused
    contradiction
  refine ⟨rfl, ⟨vertNonzero, texNonzero⟩, different, ?_, ?_⟩ <;> dsimp only
  · rw [Function.update_of_ne different, Function.update_self]
    rfl
  · rw [Function.update_self]
    rfl

/-- After `CreateVBO` the buffers of a layer with tiles hold all of them. -/
theorem holds_of_createVBO {vertName texName : Nat} {result : MapLayer × Buffers}
    (tiled : layer.Tiled) (tiles : layer.numTiles ≠ 0)
    (buffered : layer.vertBuf = 0 ∧ layer.texBuf = 0 ∨ layer.Ready buffers)
    (uploaded : layer.createVBO vertName texName buffers = some result) :
    result.1.Tiled ∧ result.1.numTiles = layer.numTiles ∧ result.1.Holds result.2 0 := by
  rw [createVBO, if_neg tiles] at uploaded
  obtain ⟨⟨prepared, generated⟩, chosen, rfl⟩ := Option.map_eq_some_iff.mp uploaded
  dsimp only
  have made : prepared.Tiled ∧ prepared.numTiles = layer.numTiles ∧ prepared.Ready generated := by
    rcases buffered with bare | ready
    · rw [if_pos (.inl bare.1)] at chosen
      obtain ⟨rfl, ready⟩ := ready_of_createBuffers bare chosen
      exact ⟨⟨tiled.vertices, tiled.texCoords⟩, rfl, ready⟩
    · rw [if_neg (not_or.mpr ready.nonzero)] at chosen
      cases chosen
      exact ⟨tiled, rfl, ready⟩
  obtain ⟨preparedTiled, same, ready⟩ := made
  obtain ⟨filled, vertices, texCoords⟩ := ready.fillBuffers
  refine ⟨preparedTiled, same, filled, ?_, ?_⟩
  · rw [vertices]
    rintro _ ⟨rfl⟩
    exact preparedTiled.vertices
  · rw [texCoords]
    rintro _ ⟨rfl⟩
    exact preparedTiled.texCoords

theorem Holds.held {pending : Nat} (holds : layer.Holds buffers pending) :
    buffers.held layer.vertBuf = 4 * (layer.numTiles - pending) ∧
      buffers.held layer.texBuf = 4 * (layer.numTiles - pending) := by
  obtain ⟨vertices, vertices_eq⟩ := Option.isSome_iff_exists.mp holds.ready.vertices
  obtain ⟨texCoords, texCoords_eq⟩ := Option.isSome_iff_exists.mp holds.ready.texCoords
  have vertLength := holds.vertices vertices vertices_eq
  have texLength := holds.texCoords texCoords texCoords_eq
  rw [Buffers.held, Buffers.held, if_neg holds.ready.nonzero.1, if_neg holds.ready.nonzero.2,
    vertices_eq, texCoords_eq, Option.getD_some, Option.getD_some]
  omega

end MapLayer

/-! ## Drawing -/

namespace Display

/-- The layer is tiled, and it has no buffers or buffers without the pending tiles. -/
structure Synced (display : Display) : Prop where
  tiled : display.layer.Tiled
  below : display.pending ≤ display.layer.numTiles
  buffered : (display.layer.vertBuf = 0 ∧ display.layer.texBuf = 0) ∧
      display.pending = display.layer.numTiles ∨
    display.layer.Holds display.buffers display.pending

variable {display next : Display}

theorem synced_start (buffers : Buffers) : (start buffers).Synced where
  tiled := ⟨rfl, rfl⟩
  below := le_refl 0
  buffered := .inl ⟨⟨rfl, rfl⟩, rfl⟩

/-- The buffers hold the vertices of the tiles that are not pending. -/
theorem Synced.held (synced : display.Synced) :
    display.buffers.held display.layer.vertBuf =
        4 * (display.layer.numTiles - display.pending) ∧
      display.buffers.held display.layer.texBuf =
        4 * (display.layer.numTiles - display.pending) := by
  rcases synced.buffered with ⟨bare, pending⟩ | holds
  · rw [Buffers.held, Buffers.held, if_pos bare.1, if_pos bare.2, pending, Nat.sub_self]
    exact ⟨rfl, rfl⟩
  · exact holds.held

theorem Synced.step {operation : Operation} (synced : display.Synced)
    (stepped : step operation display = some next) : next.Synced := by
  cases operation with
  | addTile worldClip texClip =>
      cases stepped
      refine ⟨synced.tiled.addTile worldClip texClip, Nat.succ_le_succ synced.below, ?_⟩
      rcases synced.buffered with ⟨bare, pending⟩ | holds
      · exact .inl ⟨bare, congrArg Nat.succ pending⟩
      · refine .inr ⟨⟨holds.ready.nonzero, holds.ready.different, holds.ready.vertices,
          holds.ready.texCoords⟩, ?_, ?_⟩
        · intro floats member
          have before := holds.vertices floats member
          simp only [MapLayer.addTile]
          omega
        · intro floats member
          have before := holds.texCoords floats member
          simp only [MapLayer.addTile]
          omega
  | createVBO vertName texName =>
      obtain ⟨result, uploaded, rfl⟩ := Option.map_eq_some_iff.mp stepped
      by_cases tiles : display.layer.numTiles = 0
      · -- without tiles nothing changes
        rw [MapLayer.createVBO, if_pos tiles] at uploaded
        cases uploaded
        have unchanged : display.pending = 0 := Nat.le_zero.mp (tiles ▸ synced.below)
        have buffered := synced.buffered
        rw [unchanged] at buffered
        exact ⟨synced.tiled, Nat.zero_le _, buffered⟩
      · have buffered : display.layer.vertBuf = 0 ∧ display.layer.texBuf = 0 ∨
            display.layer.Ready display.buffers :=
          synced.buffered.imp And.left MapLayer.Holds.ready
        obtain ⟨tiled, -, holds⟩ :=
          MapLayer.holds_of_createVBO synced.tiled tiles buffered uploaded
        exact ⟨tiled, Nat.zero_le _, .inr holds⟩
  | render =>
      cases stepped
      exact ⟨synced.tiled, synced.below, synced.buffered⟩

theorem Synced.sound_iff (synced : display.Synced) :
    display.Sound ↔
      ∀ draw ∈ display.draws, draw.count ≤ draw.vertices ∧ draw.count ≤ draw.texCoords :=
  ⟨Sound.drawn, fun drawn => ⟨synced.tiled.vertices, synced.tiled.texCoords, drawn⟩⟩

/-- An operation keeps the draw calls inside the buffers exactly if it does not draw
pending tiles. -/
theorem Synced.sound_step_iff {operation : Operation} (synced : display.Synced)
    (sound : display.Sound) (stepped : Display.step operation display = some next) :
    next.Sound ↔ display.Uploaded operation := by
  rw [(synced.step stepped).sound_iff]
  cases operation with
  | addTile worldClip texClip =>
      cases stepped
      exact iff_of_true sound.drawn trivial
  | createVBO vertName texName =>
      obtain ⟨result, -, rfl⟩ := Option.map_eq_some_iff.mp stepped
      exact iff_of_true sound.drawn trivial
  | render =>
      cases stepped
      obtain ⟨vertices, texCoords⟩ := synced.held
      have below := synced.below
      rw [MapLayer.render, List.forall_mem_append, and_iff_right sound.drawn, Uploaded]
      by_cases tiles : display.layer.numTiles = 0
      · rw [if_pos tiles]
        apply iff_of_true
        · exact fun _ member => absurd member List.not_mem_nil
        · omega
      · rw [if_neg tiles, Option.toList_some, List.forall_mem_singleton, vertices, texCoords]
        dsimp only
        omega

theorem sound_iff_uploaded_from (operations : List Operation) (synced : display.Synced)
    (sound : display.Sound) :
    Always step Sound operations display ↔ Meets step Uploaded operations display := by
  apply always_iff_meets Synced
  · intro state operation next synced sound stepped
    exact ⟨synced.step stepped, synced.sound_step_iff sound stepped⟩
  · exact synced
  · exact sound

theorem sound_start (buffers : Buffers) : (start buffers).Sound :=
  (synced_start buffers).sound_iff.mpr fun _ member => absurd member List.not_mem_nil

/-- The `AddTile` calls for the tiles of a parsed layer. -/
def tileCalls (layer : Map.MapLayer) : List Operation :=
  layer.tiles.filterMap fun tile => tile.texClip.map (.addTile tile.worldClip)

/-- What a map layer draws: in every run its vectors have eight floats for every tile and
its draw calls read what was uploaded exactly when every `Render` comes after a `CreateVBO`
with no tile added between them. -/
theorem sound_iff_uploaded (buffers : Buffers) (operations : List Operation) :
    Always step Sound operations (start buffers) ↔
      Meets step Uploaded operations (start buffers) :=
  sound_iff_uploaded_from operations (synced_start buffers) (sound_start buffers)

/-- A tile that is added after the upload is drawn from beyond the buffers. -/
theorem not_sound_addedLater :
    ¬ ∀ (buffers : Buffers) (operations : List Operation),
      Always step Sound operations (start buffers) := by
  intro claimed
  let tile : Operation := .addTile ⟨0, 0, 64, 64⟩ ⟨0, 0, 1 / 2, 1⟩
  have always := claimed (fun _ => none) [tile, .createVBO 1 2, tile, .render]
  have sound := always.last rfl
  exact absurd (sound.drawn ⟨8, 4, 4⟩ (by decide)).1 (by decide)

end Display

end LegendOfStealth.Drawing
