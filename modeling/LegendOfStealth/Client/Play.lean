import LegendOfStealth.Client.GameLights
import LegendOfStealth.Client.ShadowLayer
import Mathlib.Algebra.BigOperators.Group.List.Basic
import Mathlib.Tactic.Linarith
import Mathlib.Tactic.LinearCombination
import Mathlib.Tactic.NormNum
import Mathlib.Tactic.Ring

/-!
# Playing

In every frame the keys set the velocity of the player's body, the camera is moved to the
player, the physics world takes one step of a sixtieth of a second, and the player is moved
to its body.  The camera therefore shows the player where it was before the step.

The physics world, the length of a vector and the arc tangent are parameters, and so is the
order in which the engine updates the components and the children of a layer.
-/

namespace LegendOfStealth.Play

open LegendOfStealth.Library LegendOfStealth.Geometry
open LegendOfStealth.Light (Lights Texture makeLights)
open LegendOfStealth.Map (PlacedLight b2Ptm)
open LegendOfStealth.Shadow (AttachedLight ShadowLayer)

/-- The keys that move the player. -/
inductive Key
  | a
  | d
  | s
  | w
  deriving DecidableEq, Repr

/-- `InputState`. -/
structure InputState where
  isKeyDown : Key → Bool
  mousePosition : Vec2

/-- What one frame is given: the time since the last one, and the input. -/
structure Frame where
  dt : ℚ
  input : InputState

/-- The size of the window on the desktop, and what is drawn into it. -/
structure Window where
  size : Vec2
  resolution : Vec2
  deriving DecidableEq

/-- The physics world as far as the player's body is concerned. -/
structure Physics (World : Type) where
  getPosition : World → Vec2
  setLinearVelocity : Vec2 → World → World
  step : World → World

/-- What `Layer::Update` updates first. -/
inductive UpdateOrder
  | componentsFirst
  | childrenFirst
  deriving DecidableEq, Repr

/-- `Vec2::Length`, `atan2f` in degrees, the window, and the order of updates. -/
structure Runtime (World : Type) where
  physics : Physics World
  length : Vec2 → ℚ
  atan2 : ℚ → ℚ → ℚ
  window : Window
  order : UpdateOrder

/-- A world without walls: the position and the velocity of the body. -/
def Physics.free : Physics (Vec2 × Vec2) where
  getPosition := Prod.fst
  setLinearVelocity velocity world := (world.1, velocity)
  step world := (world.1 + ⟨world.2.x / 60, world.2.y / 60⟩, world.2)

/-- Walking along an axis and looking to the right in that world. -/
def Runtime.free : Runtime (Vec2 × Vec2) where
  physics := .free
  length v := |v.x| + |v.y|
  atan2 _ _ := 0
  window := ⟨⟨1280, 720⟩, ⟨1280, 720⟩⟩
  order := .childrenFirst

/-- The right key is held for some time, with the mouse at the right edge. -/
def Frame.right (dt : ℚ) : Frame :=
  ⟨dt, ⟨fun key => key == .d, ⟨1280, 360⟩⟩⟩

/-- `ToVec2`, from metres to pixels. -/
def toVec2 (vec : Vec2) : Vec2 :=
  ⟨vec.x * b2Ptm, vec.y * b2Ptm⟩

/-- `PLAYER_DEFAULT_SPEED`. -/
def playerDefaultSpeed : ℚ := 400

/-- `Player`; `hasBody` says whether `SetBody` was given a body. -/
structure Player where
  position : Vec2
  rotation : ℚ
  hasBody : Bool
  deriving DecidableEq

/-- `GameLayer`: where it is, its player, and the world of its map. -/
structure GameLayer (World : Type) where
  position : Vec2
  player : Player
  world : World

namespace MoveComponent

/-- The direction of the keys.  Of two opposite keys the one that is asked last wins. -/
def keys (input : InputState) : Vec2 :=
  let vel : Vec2 := ⟨0, 0⟩
  let vel := if input.isKeyDown .a then { vel with x := -1 } else vel
  let vel := if input.isKeyDown .d then { vel with x := 1 } else vel
  let vel := if input.isKeyDown .s then { vel with y := -1 } else vel
  if input.isKeyDown .w then { vel with y := 1 } else vel

/-- The direction, shortened if it is longer than one. -/
def direction (length : Vec2 → ℚ) (input : InputState) : Vec2 :=
  let vel := keys input
  let len := length vel
  if 1 < len then ⟨vel.x / len, vel.y / len⟩ else vel

/-- The velocity that is given to the body. -/
def bodyVelocity (length : Vec2 → ℚ) (frame : Frame) : Vec2 :=
  let vel := direction length frame.input
  ⟨vel.x * (playerDefaultSpeed * frame.dt), vel.y * (playerDefaultSpeed * frame.dt)⟩

/-- Where the player is moved to without a body. -/
def manualMovement (length : Vec2 → ℚ) (position : Vec2) (frame : Frame) : Vec2 :=
  let vel := direction length frame.input
  ⟨position.x + vel.x * playerDefaultSpeed * b2Ptm * frame.dt,
    position.y + vel.y * playerDefaultSpeed * b2Ptm * frame.dt⟩

end MoveComponent

/-- Where the mouse is on the screen. -/
def Window.mouse (window : Window) (input : InputState) : Vec2 :=
  ⟨input.mousePosition.x / window.size.x * window.resolution.x,
    (1 - input.mousePosition.y / window.size.y) * window.resolution.y⟩

/-- The middle of the screen. -/
def Window.centre (window : Window) : Vec2 :=
  ⟨window.resolution.x / 2, window.resolution.y / 2⟩

namespace GameLayer

variable {World : Type}

/-- The end of the constructor: the player's body has been created and handed to the
player. -/
def new (world : World) : GameLayer World :=
  ⟨⟨0, 0⟩, ⟨⟨0, 0⟩, 0, true⟩, world⟩

section Update

variable (runtime : Runtime World) (frame : Frame) (layer : GameLayer World)

/-- `MoveComponent::Update`. -/
def updateMove : GameLayer World :=
  if layer.player.hasBody then
    { layer with
      world := runtime.physics.setLinearVelocity
        (MoveComponent.bodyVelocity runtime.length frame) layer.world }
  else
    { layer with
      player := { layer.player with
        position := MoveComponent.manualMovement runtime.length layer.player.position frame } }

/-- `AimComponent::Update`. -/
def updateAim : GameLayer World :=
  let mouse := runtime.window.mouse frame.input
  let pos : Vec2 := layer.player.position + layer.position
  { layer with
    player := { layer.player with
      rotation := runtime.atan2 (mouse.y - pos.y) (mouse.x - pos.x) } }

/-- `CameraComponent::Update`. -/
def updateCamera : GameLayer World :=
  let offset := runtime.window.centre
  { layer with
    position := ⟨offset.x - layer.player.position.x, offset.y - layer.player.position.y⟩ }

/-- `Layer::Update`: the player's components stand in the order in which they were added. -/
def updateLayer : GameLayer World :=
  match runtime.order with
  | .componentsFirst => updateAim runtime frame (updateMove runtime frame (updateCamera runtime layer))
  | .childrenFirst => updateCamera runtime (updateAim runtime frame (updateMove runtime frame layer))

/-- `Map::Update`. -/
def updateMap : GameLayer World :=
  { layer with world := runtime.physics.step layer.world }

/-- `Player::MoveToB2Body`. -/
def moveToB2Body : GameLayer World :=
  { layer with
    player := { layer.player with
      position := toVec2 (runtime.physics.getPosition layer.world) } }

/-- `GameLayer::Update`. -/
def update : GameLayer World :=
  moveToB2Body runtime (updateMap runtime (updateLayer runtime frame layer))

end Update

/-- The layer after some frames. -/
def run (runtime : Runtime World) (frames : List Frame) (layer : GameLayer World) :
    GameLayer World :=
  frames.foldl (fun layer frame => update runtime frame layer) layer

/-- Where the player is drawn. -/
def onScreen (layer : GameLayer World) : Vec2 :=
  layer.position + layer.player.position

/-! ## The camera -/

section Camera

variable {runtime : Runtime World} {layer : GameLayer World}

/-- The player has a body and is where its body is. -/
structure Attached (runtime : Runtime World) (layer : GameLayer World) : Prop where
  hasBody : layer.player.hasBody = true
  position : layer.player.position = toVec2 (runtime.physics.getPosition layer.world)

/-- The pixels by which a frame moves the body. -/
def moved (runtime : Runtime World) (frame : Frame) (layer : GameLayer World) : Vec2 :=
  toVec2 (runtime.physics.getPosition (update runtime frame layer).world) -
    toVec2 (runtime.physics.getPosition layer.world)

/-- What the player aims from: the middle of the screen if the components are updated first,
and where it was drawn before if the children are. -/
def aimsFrom (runtime : Runtime World) (layer : GameLayer World) : Vec2 :=
  match runtime.order with
  | .componentsFirst => runtime.window.centre
  | .childrenFirst => layer.onScreen

/-- What `Layer::Update` does to a player with a body, in either order. -/
theorem updateLayer_of_hasBody (frame : Frame) (hasBody : layer.player.hasBody = true) :
    updateLayer runtime frame layer =
      { position :=
          ⟨runtime.window.centre.x - layer.player.position.x,
            runtime.window.centre.y - layer.player.position.y⟩
        player :=
          { layer.player with
            rotation := runtime.atan2
              ((runtime.window.mouse frame.input).y - (aimsFrom runtime layer).y)
              ((runtime.window.mouse frame.input).x - (aimsFrom runtime layer).x) }
        world := runtime.physics.setLinearVelocity
          (MoveComponent.bodyVelocity runtime.length frame) layer.world } := by
  cases order : runtime.order with
  | componentsFirst =>
      simp [updateLayer, order, updateMove, updateAim, updateCamera, aimsFrom, hasBody]
  | childrenFirst =>
      simp [updateLayer, order, updateMove, updateAim, updateCamera, aimsFrom, onScreen, hasBody,
        add_comm]

theorem Attached.update (attached : Attached runtime layer) (frame : Frame) :
    Attached runtime (update runtime frame layer) := by
  rw [GameLayer.update, updateLayer_of_hasBody frame attached.hasBody]
  constructor
  · exact attached.hasBody
  · rfl

theorem Attached.run (attached : Attached runtime layer) (frames : List Frame) :
    Attached runtime (run runtime frames layer) := by
  induction frames generalizing layer with
  | nil => exact attached
  | cons frame rest ih => exact ih (attached.update frame)

/-- After a frame the player is drawn as far from the middle of the screen as the frame has
moved it. -/
theorem Attached.onScreen_update (attached : Attached runtime layer) (frame : Frame) :
    (GameLayer.update runtime frame layer).onScreen =
      runtime.window.centre + moved runtime frame layer := by
  have still := (attached.update frame).position
  have followed : (GameLayer.update runtime frame layer).position =
      ⟨runtime.window.centre.x - layer.player.position.x,
        runtime.window.centre.y - layer.player.position.y⟩ := by
    rw [GameLayer.update, updateLayer_of_hasBody frame attached.hasBody]
    rfl
  rw [onScreen, still, followed, attached.position, moved]
  ext
  · simp only [Vec2.add_x, Vec2.sub_x]
    ring
  · simp only [Vec2.add_y, Vec2.sub_y]
    ring

theorem Attached.rotation_update (attached : Attached runtime layer) (frame : Frame) :
    (GameLayer.update runtime frame layer).player.rotation =
      runtime.atan2 ((runtime.window.mouse frame.input).y - (aimsFrom runtime layer).y)
        ((runtime.window.mouse frame.input).x - (aimsFrom runtime layer).x) := by
  rw [GameLayer.update, updateLayer_of_hasBody frame attached.hasBody]
  rfl

/-- The camera, over any run: after every frame the player is drawn in the middle of the
screen but for what the frame has moved it, and it is turned to the mouse from the point
that the order of the updates makes it aim from. -/
theorem follows_player (attached : Attached runtime layer) (frames : List Frame)
    (frame : Frame) :
    let before := layer.run runtime frames
    let after := before.update runtime frame
    let mouse := runtime.window.mouse frame.input
    after.onScreen = runtime.window.centre + moved runtime frame before ∧
      after.player.rotation = runtime.atan2 (mouse.y - (aimsFrom runtime before).y)
        (mouse.x - (aimsFrom runtime before).x) := by
  intro before after mouse
  have still : Attached runtime before := attached.run frames
  exact ⟨still.onScreen_update frame, still.rotation_update frame⟩

theorem attached_free : Attached .free (new (⟨0, 0⟩, ⟨0, 0⟩)) := by
  constructor
  · rfl
  · decide +kernel

/-- The second of two frames of a sixtieth of a second. -/
theorem follows_player_right :
    let before := (new (⟨0, 0⟩, ⟨0, 0⟩)).run .free [.right (1 / 60)]
    let after := before.update .free (.right (1 / 60))
    after.onScreen = ⟨640 + 32 / 9, 360⟩ ∧ after.player.rotation = 0 := by
  obtain ⟨shown, aimed⟩ := follows_player attached_free [.right (1 / 60)] (.right (1 / 60))
  exact ⟨shown.trans (by decide +kernel), aimed⟩

/-- The light source of the player, as the constructors have left it on a map with some
lights, given a texture. -/
structure Carried (lights : List PlacedLight) (flashlight : Texture) (layer : GameLayer World)
    (source : AttachedLight) : Prop where
  position : source.object.position = layer.player.position
  made : ∃ final, runActions Lights.step (makeLights lights flashlight) Lights.start = some final ∧
    final.source lights.length = some source.light

/-- `SetTexture` makes the width of its texture the radius. -/
theorem Carried.radius {lights : List PlacedLight} {flashlight : Texture} {source : AttachedLight}
    (carried : Carried lights flashlight layer source) :
    source.getLightRadius = flashlight.dimensions.x := by
  obtain ⟨final, ran, found⟩ := carried.made
  rw [Lights.source_makeLights lights flashlight ran, Option.some_inj] at found
  rw [AttachedLight.getLightRadius, ← found]

end Camera

section Flashlight

variable {runtime : Runtime World} {layer : GameLayer World} {engine : Engine}
  {touching : Bool}

theorem precedes_iff_of_sub_eq {first second first' second' : ℚ}
    (same : second - first = second' - first') :
    Precedes touching first second ↔ Precedes touching first' second' := by
  have moves : second' - second = first' - first := by linarith
  unfold Precedes
  split
  · constructor <;> intro <;> linarith
  · constructor <;> intro <;> linarith

/-- The flashlight of the player, over any run: on a screen of 1280 by 720 it is drawn after
a frame exactly if the frame has moved the player by less than half the screen to the left
and down, and by less than the width of its texture more than that to the right and up. -/
theorem flashlight_drawn_iff (tests : engine.TestsIntersection touching)
    (resolution : runtime.window.resolution = ⟨1280, 720⟩) (attached : Attached runtime layer)
    (frames : List Frame) (frame : Frame) {lights : List PlacedLight} {flashlight : Texture}
    {source : AttachedLight}
    (carried : Carried lights flashlight ((layer.run runtime frames).update runtime frame) source) :
    let before := layer.run runtime frames
    let shift := moved runtime frame before
    ShadowLayer.shouldDrawLight engine (before.update runtime frame).position source = true ↔
      (Precedes touching shift.x (640 + flashlight.dimensions.x) ∧
          Precedes touching shift.y (360 + flashlight.dimensions.x)) ∧
        Precedes touching (-640) shift.x ∧ Precedes touching (-360) shift.y := by
  intro before shift
  have drawn := (attached.run frames).onScreen_update frame
  have x := congrArg Vec2.x drawn
  have y := congrArg Vec2.y drawn
  simp only [onScreen, Vec2.add_x, Vec2.add_y, Window.centre, resolution] at x y
  rw [ShadowLayer.shouldDrawLight_iff tests, ShadowLayer.Centred, carried.position,
    carried.radius]
  refine and_congr (and_congr ?_ ?_) (and_congr ?_ ?_)
  all_goals
    apply precedes_iff_of_sub_eq
    simp only [ShadowLayer.visibleRect]
    linarith

/-- The player's light after two frames. -/
def carriedRight : AttachedLight :=
  ⟨⟨some ⟨0, ⟨600, 399⟩⟩, none, ⟨false, 600, ⟨1, 1, 1, 1 / 2⟩⟩⟩,
    ⟨⟨64 / 9, 0⟩, ⟨64 / 9, 0⟩, ⟨0, 0⟩, ⟨1 / 4, 1 / 4⟩, none⟩⟩

theorem flashlight_drawn_right :
    ShadowLayer.shouldDrawLight (.exact false)
      (((new (⟨0, 0⟩, ⟨0, 0⟩)).run .free [.right (1 / 60)]).update .free (.right (1 / 60))).position
      carriedRight = true := by
  have made : ∃ final, runActions Lights.step (makeLights [] ⟨0, ⟨600, 399⟩⟩) Lights.start =
      some final ∧ final.source 0 = some carriedRight.light := ⟨_, rfl, by decide +kernel⟩
  refine (flashlight_drawn_iff (Engine.testsIntersection_exact false) rfl attached_free
    [.right (1 / 60)] (.right (1 / 60)) ⟨?_, made⟩).mpr ?_
  · decide +kernel
  · decide +kernel

end Flashlight

end GameLayer

/-! ## Moving freely -/

namespace MoveComponent

variable (length : Vec2 → ℚ)

theorem abs_keys_le (input : InputState) : |(keys input).x| ≤ 1 ∧ |(keys input).y| ≤ 1 := by
  unfold keys
  constructor
  · split_ifs <;> simp
  · split_ifs <;> simp

/-- Whatever the length of a vector is said to be, no coordinate of the direction is longer
than one. -/
theorem abs_direction_le (input : InputState) :
    |(direction length input).x| ≤ 1 ∧ |(direction length input).y| ≤ 1 := by
  obtain ⟨x, y⟩ := abs_keys_le input
  by_cases long : 1 < length (keys input)
  · rw [direction, if_pos long]
    have shortened {value : ℚ} (bound : |value| ≤ 1) : |value / length (keys input)| ≤ 1 := by
      rw [abs_div, abs_of_pos (zero_lt_one.trans long), div_le_one (zero_lt_one.trans long)]
      exact bound.trans long.le
    exact ⟨shortened x, shortened y⟩
  · rw [direction, if_neg long]
    exact ⟨x, y⟩

/-- For how long each direction has been held. -/
def held (frames : List Frame) : Vec2 :=
  ⟨(frames.map fun frame => frame.dt * (direction length frame.input).x).sum,
    (frames.map fun frame => frame.dt * (direction length frame.input).y).sum⟩

/-- The velocity of a frame of at most a fifth of a second. -/
theorem bodyVelocity_le {frame : Frame} (forward : 0 ≤ frame.dt) (short : frame.dt ≤ 1 / 5) :
    (bodyVelocity length frame).x ^ 2 + (bodyVelocity length frame).y ^ 2 ≤ 120 ^ 2 := by
  obtain ⟨x, y⟩ := abs_direction_le length frame.input
  have speed {value : ℚ} (bound : |value| ≤ 1) :
      (value * (playerDefaultSpeed * frame.dt)) ^ 2 ≤ 80 ^ 2 := by
    rw [sq_le_sq, abs_mul, abs_of_nonneg (mul_nonneg (by norm_num [playerDefaultSpeed]) forward),
      abs_of_pos (by norm_num : (0 : ℚ) < 80)]
    have fast : playerDefaultSpeed * frame.dt ≤ 80 := by
      rw [playerDefaultSpeed]
      linarith
    calc
      |value| * (playerDefaultSpeed * frame.dt) ≤ 1 * (playerDefaultSpeed * frame.dt) :=
        mul_le_mul_of_nonneg_right bound
          (mul_nonneg (by norm_num [playerDefaultSpeed]) forward)
      _ ≤ 80 := by linarith
  calc
    (bodyVelocity length frame).x ^ 2 + (bodyVelocity length frame).y ^ 2 ≤ 80 ^ 2 + 80 ^ 2 :=
      add_le_add (speed x) (speed y)
    _ ≤ 120 ^ 2 := by norm_num

/-- Without a body the player would be moved by 12800 pixels in a second. -/
theorem foldl_manualMovement (position : Vec2) (frames : List Frame) :
    frames.foldl (manualMovement length) position =
      position + ⟨12800 * (held length frames).x, 12800 * (held length frames).y⟩ := by
  induction frames generalizing position with
  | nil => ext <;> simp [held]
  | cons frame rest ih =>
      rw [List.foldl_cons, ih]
      have metres : playerDefaultSpeed * b2Ptm = 12800 := by
        norm_num [playerDefaultSpeed, b2Ptm, Map.mapTileSize, Map.b2MeterPerTile]
      ext
      · simp only [manualMovement, held, Vec2.add_x, List.map_cons, List.sum_cons]
        linear_combination frame.dt * (direction length frame.input).x * metres
      · simp only [manualMovement, held, Vec2.add_y, List.map_cons, List.sum_cons]
        linear_combination frame.dt * (direction length frame.input).y * metres

end MoveComponent

/-- A body that nothing touches moves as its velocity says, unless it is too fast. -/
def Physics.Coasts {World : Type} (physics : Physics World) : Prop :=
  ∀ (velocity : Vec2) (world : World), velocity.x ^ 2 + velocity.y ^ 2 ≤ 120 ^ 2 →
    physics.getPosition (physics.step (physics.setLinearVelocity velocity world)) =
      physics.getPosition world + ⟨velocity.x / 60, velocity.y / 60⟩

namespace GameLayer

variable {World : Type} {runtime : Runtime World} {layer : GameLayer World}

theorem Attached.world_update (attached : Attached runtime layer) (frame : Frame) :
    (layer.update runtime frame).world =
      runtime.physics.step (runtime.physics.setLinearVelocity
        (MoveComponent.bodyVelocity runtime.length frame) layer.world) := by
  rw [GameLayer.update, updateLayer_of_hasBody frame attached.hasBody]
  rfl

/-- What a short frame moves the player by. -/
theorem position_update (coasts : runtime.physics.Coasts) (attached : Attached runtime layer)
    {frame : Frame} (forward : 0 ≤ frame.dt) (short : frame.dt ≤ 1 / 5) :
    (layer.update runtime frame).player.position =
      layer.player.position + ⟨640 / 3 * (frame.dt *
        (MoveComponent.direction runtime.length frame.input).x), 640 / 3 * (frame.dt *
          (MoveComponent.direction runtime.length frame.input).y)⟩ := by
  rw [(attached.update frame).position, attached.world_update, attached.position,
    coasts _ _ (MoveComponent.bodyVelocity_le runtime.length forward short)]
  ext
  · simp only [toVec2, Vec2.add_x, MoveComponent.bodyVelocity, playerDefaultSpeed, b2Ptm]
    norm_num [Map.mapTileSize, Map.b2MeterPerTile]
    ring
  · simp only [toVec2, Vec2.add_y, MoveComponent.bodyVelocity, playerDefaultSpeed, b2Ptm]
    norm_num [Map.mapTileSize, Map.b2MeterPerTile]
    ring

/-- Where nothing is in the way, the player gets as far as the keys have been held, however
the time is cut into frames of at most a fifth of a second.  Without a body it would be
sixty times as far. -/
theorem position_run (coasts : runtime.physics.Coasts) (attached : Attached runtime layer)
    (frames : List Frame) (short : ∀ frame ∈ frames, 0 ≤ frame.dt ∧ frame.dt ≤ 1 / 5) :
    let held := MoveComponent.held runtime.length frames
    (layer.run runtime frames).player.position =
        layer.player.position + ⟨640 / 3 * held.x, 640 / 3 * held.y⟩ ∧
      frames.foldl (MoveComponent.manualMovement runtime.length) layer.player.position =
        layer.player.position + ⟨60 * (640 / 3 * held.x), 60 * (640 / 3 * held.y)⟩ := by
  intro held
  constructor
  · simp only [held]
    clear held
    induction frames generalizing layer with
    | nil => ext <;> simp [run, MoveComponent.held]
    | cons frame rest ih =>
        obtain ⟨⟨forward, brief⟩, later⟩ := List.forall_mem_cons.mp short
        have moved := ih (attached.update frame) later
        rw [run, List.foldl_cons]
        rw [run] at moved
        rw [moved, position_update coasts attached forward brief]
        ext
        · simp only [MoveComponent.held, Vec2.add_x, List.map_cons, List.sum_cons]
          ring
        · simp only [MoveComponent.held, Vec2.add_y, List.map_cons, List.sum_cons]
          ring
  · rw [MoveComponent.foldl_manualMovement]
    ext
    · simp only [held, Vec2.add_x]
      ring
    · simp only [held, Vec2.add_y]
      ring

/-- Three frames of a sixtieth of a second. -/
theorem position_right :
    ((new (⟨0, 0⟩, ⟨0, 0⟩)).run .free (List.replicate 3 (.right (1 / 60)))).player.position =
      ⟨32 / 3, 0⟩ := by
  have coasts : Runtime.free.physics.Coasts := fun _ _ _ => rfl
  refine (position_run coasts attached_free _ ?_).1.trans (by decide +kernel)
  intro frame member
  rw [List.eq_of_mem_replicate member, Frame.right]
  norm_num

end GameLayer

end LegendOfStealth.Play
