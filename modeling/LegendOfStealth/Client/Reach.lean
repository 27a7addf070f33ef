import LegendOfStealth.Client.Collision
import LegendOfStealth.Client.Play

/-!
# Where the player can get

The keys, the frames and the walls of a map together: whatever keys are held, the player
stays on the tiles that are connected with the first one, and some keys take it to the
middle of each of them.
-/

namespace LegendOfStealth.Play

open LegendOfStealth.Library LegendOfStealth.Geometry
open LegendOfStealth.Map (Body Filter FollowsMasks Blocked Moves MapParser Level playerBody
  tileCentre)

/-- Nothing that the player collides with is within a tenth of a metre of it. -/
def Clear (shouldCollide : Filter → Filter → Bool) (bodies : List Body) (position : Vec2) : Prop :=
  ¬ ∃ body ∈ bodies, shouldCollide body.filter playerBody.filter = true ∧
    body.Overlaps position (playerBody.radius + 1 / 10)

/-- The player's body among others, in one step: it is taken along a path on which it
overlaps nothing, and where the way is clear it moves as its velocity says. -/
structure Physics.Solid {World : Type} (physics : Physics World)
    (shouldCollide : Filter → Filter → Bool) (bodies : List Body) : Prop where
  path : ∀ velocity world, ¬ Blocked shouldCollide bodies (physics.getPosition world) →
    Relation.ReflTransGen (Moves shouldCollide bodies) (physics.getPosition world)
      (physics.getPosition (physics.step (physics.setLinearVelocity velocity world)))
  coasts : ∀ velocity world, velocity.x ^ 2 + velocity.y ^ 2 ≤ 120 ^ 2 →
    (∀ t : ℚ, 0 ≤ t → t ≤ 1 → Clear shouldCollide bodies
      (physics.getPosition world + ⟨t * (velocity.x / 60), t * (velocity.y / 60)⟩)) →
    physics.getPosition (physics.step (physics.setLinearVelocity velocity world)) =
      physics.getPosition world + ⟨velocity.x / 60, velocity.y / 60⟩

/-- The length of a vector along an axis. -/
def MeasuresAxes (length : Vec2 → ℚ) : Prop :=
  ∀ value : ℚ, length ⟨value, 0⟩ = |value| ∧ length ⟨0, value⟩ = |value|

/-- The tile of a position in pixels. -/
def pixelTile (position : Vec2) : ℤ × ℤ :=
  (⌊position.x / Map.mapTileSize⌋, ⌊position.y / Map.mapTileSize⌋)

/-- One key is held for three twentieths of a second. -/
def Frame.hold (key : Key) : Frame :=
  ⟨3 / 20, ⟨fun other => other == key, ⟨0, 0⟩⟩⟩

namespace GameLayer

section Path

variable {World : Type} {runtime : Runtime World} {layer : GameLayer World}
  {shouldCollide : Filter → Filter → Bool} {bodies : List Body}

theorem not_blocked_of_moves {position last : Vec2} (free : ¬ Blocked shouldCollide bodies position)
    (moves : Relation.ReflTransGen (Moves shouldCollide bodies) position last) :
    ¬ Blocked shouldCollide bodies last := by
  cases moves with
  | refl => exact free
  | tail _ moved => exact moved.free_next

/-- Whatever keys are held, the body moves along a path on which it overlaps nothing. -/
theorem Attached.path (solid : runtime.physics.Solid shouldCollide bodies)
    (attached : Attached runtime layer)
    (free : ¬ Blocked shouldCollide bodies (runtime.physics.getPosition layer.world))
    (frames : List Frame) :
    Relation.ReflTransGen (Moves shouldCollide bodies) (runtime.physics.getPosition layer.world)
      (runtime.physics.getPosition (layer.run runtime frames).world) := by
  induction frames generalizing layer with
  | nil => exact .refl
  | cons frame rest ih =>
      have step : Relation.ReflTransGen (Moves shouldCollide bodies)
          (runtime.physics.getPosition layer.world)
          (runtime.physics.getPosition (layer.update runtime frame).world) := by
        rw [attached.world_update frame]
        exact solid.path _ _ free
      exact step.trans (ih (attached.update frame) (not_blocked_of_moves free step))

/-- The tile of a position is the same in pixels and in metres. -/
theorem pixelTile_toVec2 (position : Vec2) : pixelTile (toVec2 position) = Map.tileOf position := by
  have scale (value : ℚ) : value * Map.b2Ptm / Map.mapTileSize = value / Map.b2MeterPerTile := by
    norm_num [Map.b2Ptm, Map.mapTileSize, Map.b2MeterPerTile]
    ring
  simp only [pixelTile, toVec2, Map.tileOf, scale]

theorem toVec2_injective : Function.Injective toVec2 := by
  intro first second same
  have scale : (Map.b2Ptm : ℚ) ≠ 0 := by norm_num [Map.b2Ptm, Map.mapTileSize, Map.b2MeterPerTile]
  obtain ⟨x, y⟩ := Vec2.ext_iff.mp same
  exact Vec2.ext (mul_right_cancel₀ scale x) (mul_right_cancel₀ scale y)

theorem run_append (first second : List Frame) :
    layer.run runtime (first ++ second) = (layer.run runtime first).run runtime second :=
  List.foldl_append

end Path

/-! ## From tile to tile -/

section Keys

/-- Where a key leads to. -/
def towards : Key → ℤ × ℤ
  | .a => (-1, 0)
  | .d => (1, 0)
  | .s => (0, -1)
  | .w => (0, 1)

theorem bodyVelocity_hold {length : Vec2 → ℚ} (axes : MeasuresAxes length) (key : Key) :
    MoveComponent.bodyVelocity length (.hold key) =
      ⟨60 * (towards key).1, 60 * (towards key).2⟩ := by
  have keys : MoveComponent.keys (Frame.hold key).input = ⟨(towards key).1, (towards key).2⟩ := by
    cases key <;> rfl
  have unit : length ⟨(towards key).1, (towards key).2⟩ = 1 := by
    cases key with
    | a => exact (axes (-1)).1.trans (by norm_num)
    | d => exact (axes 1).1.trans (by norm_num)
    | s => exact (axes (-1)).2.trans (by norm_num)
    | w => exact (axes 1).2.trans (by norm_num)
  rw [MoveComponent.bodyVelocity, MoveComponent.direction, keys, unit, if_neg (lt_irrefl _)]
  ext
  · norm_num [Frame.hold, playerDefaultSpeed]
    ring
  · norm_num [Frame.hold, playerDefaultSpeed]
    ring

theorem exists_towards {solid : ℤ × ℤ → Prop} {cell next : ℤ × ℤ} (opens : Opens solid cell next) :
    ∃ key, next = (cell.1 + (towards key).1, cell.2 + (towards key).2) := by
  rcases opens.adjacent with ⟨same, beside⟩ | ⟨same, beside⟩
  · rcases (abs_eq zero_le_one).mp beside with up | down
    · exact ⟨.w, Prod.ext (by simp [same, towards]) (by simp [towards]; omega)⟩
    · exact ⟨.s, Prod.ext (by simp [same, towards]) (by simp [towards]; omega)⟩
  · rcases (abs_eq zero_le_one).mp beside with right | left
    · exact ⟨.d, Prod.ext (by simp [towards]; omega) (by simp [same, towards])⟩
    · exact ⟨.a, Prod.ext (by simp [towards]; omega) (by simp [same, towards])⟩

/-- A point on the way from the middle of a tile to that of another, in metres. -/
def along (cell next : ℤ × ℤ) (s : ℚ) : Vec2 :=
  ⟨(middle 2 cell).1 + s * ((middle 2 next).1 - (middle 2 cell).1),
    (middle 2 cell).2 + s * ((middle 2 next).2 - (middle 2 cell).2)⟩

theorem along_zero (cell next : ℤ × ℤ) : along cell next 0 = tileCentre cell := by
  simp [along, middle, tileCentre, Map.b2MeterPerTile]

theorem along_one (cell next : ℤ × ℤ) : along cell next 1 = tileCentre next := by
  simp [along, middle, tileCentre, Map.b2MeterPerTile]

end Keys

section Walking

variable {World : Type} {runtime : Runtime World} {layer : GameLayer World}
  {shouldCollide : Filter → Filter → Bool} {parser : MapParser}

/-- Between the middles of two open tiles the way is clear. -/
theorem clear_along (follows : FollowsMasks shouldCollide) {cell next : ℤ × ℤ}
    (opens : Opens parser.SolidCell cell next) {s : ℚ} (before : 0 ≤ s) (after : s ≤ 1) :
    Clear shouldCollide
      (Map.MapLoader.bodiesOf parser.tileFlags (cells parser.tmxMap.width parser.tmxMap.height))
      (along cell next s) := by
  have wide : playerBody.radius + 1 / 10 = 9 / 10 := by
    rw [Map.radius_playerBody]
    norm_num
  rw [Clear, Map.exists_overlaps_iff follows, not_not, wide]
  exact opens.free two_pos (by norm_num) (by norm_num) s before after

theorem Attached.hold_update (follows : FollowsMasks shouldCollide)
    (solid : runtime.physics.Solid shouldCollide
      (Map.MapLoader.bodiesOf parser.tileFlags (cells parser.tmxMap.width parser.tmxMap.height)))
    (axes : MeasuresAxes runtime.length) (attached : Attached runtime layer) {cell next : ℤ × ℤ}
    (opens : Opens parser.SolidCell cell next) {key : Key}
    (leads : next = (cell.1 + (towards key).1, cell.2 + (towards key).2)) {s : ℚ}
    (before : 0 ≤ s) (after : s ≤ 1 / 2)
    (at_s : runtime.physics.getPosition layer.world = along cell next s) :
    runtime.physics.getPosition (layer.update runtime (.hold key)).world =
      along cell next (s + 1 / 2) := by
  have ahead (t : ℚ) : along cell next s +
      ⟨t * (60 * (towards key).1 / 60), t * (60 * (towards key).2 / 60)⟩ =
        along cell next (s + t / 2) := by
    subst leads
    ext
    · simp only [along, middle, Vec2.add_x]
      push_cast
      ring
    · simp only [along, middle, Vec2.add_y]
      push_cast
      ring
  have slow : (60 * ((towards key).1 : ℚ)) ^ 2 + (60 * ((towards key).2 : ℚ)) ^ 2 ≤ 120 ^ 2 := by
    cases key <;> norm_num [towards]
  have whole := ahead 1
  rw [one_mul, one_mul] at whole
  rw [attached.world_update, bodyVelocity_hold axes, ← whole, ← at_s]
  apply solid.coasts _ _ slow
  intro t forward within
  rw [at_s, ahead t]
  exact clear_along follows opens (by linarith) (by linarith)

/-- From the middle of an open tile to that of the next. -/
theorem Attached.hold_hold (follows : FollowsMasks shouldCollide)
    (solid : runtime.physics.Solid shouldCollide
      (Map.MapLoader.bodiesOf parser.tileFlags (cells parser.tmxMap.width parser.tmxMap.height)))
    (axes : MeasuresAxes runtime.length) (attached : Attached runtime layer) {cell next : ℤ × ℤ}
    (opens : Opens parser.SolidCell cell next)
    (begins : runtime.physics.getPosition layer.world = tileCentre cell) :
    ∃ key, runtime.physics.getPosition (layer.run runtime [.hold key, .hold key]).world =
      tileCentre next := by
  obtain ⟨key, leads⟩ := exists_towards opens
  refine ⟨key, ?_⟩
  have half := attached.hold_update follows solid axes opens leads le_rfl (by norm_num)
    (begins.trans (along_zero cell next).symm)
  have there := (attached.update _).hold_update follows solid axes opens leads (by norm_num)
    (by norm_num) half
  rw [← along_one cell next]
  exact there.trans (congrArg (along cell next) (by norm_num))

variable {level loaded : Level}

/-- Where the player can get: on a map that has been loaded, from the middle of a tile
without a wall, it is after any frames on a tile that is connected with the first by tiles
without walls, and for every such tile some frames of at most a fifth of a second take it to
the middle. -/
theorem reaches_connected (follows : FollowsMasks shouldCollide)
    (loads : (parser.parseMap level).bind Map.MapLoader.loadMap = some loaded)
    (bare : level.globalBodies = [])
    (solid : runtime.physics.Solid shouldCollide loaded.globalBodies)
    (axes : MeasuresAxes runtime.length) (attached : Attached runtime layer) {start : ℤ × ℤ}
    (passable : ¬ parser.SolidCell start)
    (begins : layer.player.position = toVec2 (tileCentre start)) :
    (∀ frames, Relation.ReflTransGen (Opens parser.SolidCell) start
        (pixelTile (layer.run runtime frames).player.position)) ∧
      ∀ target, Relation.ReflTransGen (Opens parser.SolidCell) start target →
        ∃ frames, (∀ frame ∈ frames, 0 ≤ frame.dt ∧ frame.dt ≤ 1 / 5) ∧
          (layer.run runtime frames).player.position = toVec2 (tileCentre target) := by
  obtain ⟨_, loads', bodies, -⟩ := parser.exists_loadMap level
  cases loads.symm.trans loads'
  rw [bare, List.nil_append] at bodies
  rw [bodies] at solid
  have placed : runtime.physics.getPosition layer.world = tileCentre start :=
    toVec2_injective (attached.position.symm.trans begins)
  constructor
  · intro frames
    have free : ¬ Blocked shouldCollide
        (Map.MapLoader.bodiesOf parser.tileFlags (cells parser.tmxMap.width parser.tmxMap.height))
        (runtime.physics.getPosition layer.world) := by
      rw [Map.blocked_iff follows, not_not, placed]
      exact free_middle passable two_pos (by norm_num) (by norm_num)
    have walks := (attached.path solid free frames).lift
      (fun position : Vec2 => (position.x, position.y))
      fun _ _ moved => (Map.moves_iff follows _ _).mp moved
    have connected := connected_of_walks two_pos (by norm_num) walks
    have centre : ((tileCentre start).x, (tileCentre start).y) = middle 2 start := by
      simp [tileCentre, middle, Map.b2MeterPerTile]
    dsimp only at connected
    rw [placed, centre, cellOf_middle two_pos] at connected
    rw [(attached.run frames).position, pixelTile_toVec2]
    simpa [Map.tileOf, cellOf, Map.b2MeterPerTile] using connected
  · intro target connected
    induction connected with
    | refl => exact ⟨[], List.forall_mem_nil _, begins⟩
    | tail _ opens ih =>
        obtain ⟨frames, short, there⟩ := ih
        have still := attached.run frames
        obtain ⟨key, arrives⟩ := still.hold_hold follows solid axes opens
          (toVec2_injective (still.position.symm.trans there))
        refine ⟨frames ++ [.hold key, .hold key], ?_, ?_⟩
        · have brief : 0 ≤ (Frame.hold key).dt ∧ (Frame.hold key).dt ≤ 1 / 5 := by
            norm_num [Frame.hold]
          exact List.forall_mem_append.mpr
            ⟨short, List.forall_mem_cons.mpr ⟨brief, List.forall_mem_singleton.mpr brief⟩⟩
        · rw [run_append, ((still.run _)).position, arrives]

end Walking

end GameLayer

/-! ## A world with walls -/

/-- A third, two thirds or all of a step. -/
def part (position velocity : Vec2) (k : ℚ) : Vec2 :=
  position + ⟨k / 3 * (velocity.x / 60), k / 3 * (velocity.y / 60)⟩

/-- The position and the velocity of a body that is moved by parts of a step, or not at all
if it would not be free after one of them. -/
def Physics.among (free : Vec2 → Bool) : Physics (Vec2 × Vec2) where
  getPosition := Prod.fst
  setLinearVelocity velocity world := (world.1, velocity)
  step world :=
    if (|world.2.x| ≤ 120 ∧ |world.2.y| ≤ 120) ∧ free (part world.1 world.2 1) ∧
        free (part world.1 world.2 2) ∧ free (part world.1 world.2 3) then
      (part world.1 world.2 3, world.2)
    else world

section Among

variable {shouldCollide : Filter → Filter → Bool} {bodies : List Body}

theorem not_blocked_of_clear {position : Vec2} (clear : Clear shouldCollide bodies position) :
    ¬ Blocked shouldCollide bodies position := by
  rintro ⟨body, member, collide, point, across, along, near⟩
  refine clear ⟨body, member, collide, point, across, along, near.trans ?_⟩
  rw [Map.radius_playerBody]
  norm_num

theorem moves_part {position velocity : Vec2} (slow : |velocity.x| ≤ 120 ∧ |velocity.y| ≤ 120)
    {k l : ℚ} (third : l = k + 1) (free : ¬ Blocked shouldCollide bodies (part position velocity k))
    (free_next : ¬ Blocked shouldCollide bodies (part position velocity l)) :
    Moves shouldCollide bodies (part position velocity k) (part position velocity l) := by
  have short (start value : ℚ) (bound : |value| ≤ 120) :
      |start + l / 3 * (value / 60) - (start + k / 3 * (value / 60))| ≤ 4 / 5 := by
    obtain ⟨low, high⟩ := abs_le.mp bound
    rw [third, abs_le]
    constructor
    · linarith
    · linarith
  refine ⟨free, free_next, ?_⟩
  rw [Map.radius_playerBody]
  exact ⟨short _ _ slow.1, short _ _ slow.2⟩

theorem solid_among {free : Vec2 → Bool}
    (decides : ∀ position, free position = true ↔ ¬ Blocked shouldCollide bodies position) :
    (Physics.among free).Solid shouldCollide bodies where
  path velocity world unblocked := by
    have start : part world.1 velocity 0 = world.1 := by
      ext <;> simp [part]
    have unmoved : ¬ Blocked shouldCollide bodies (part world.1 velocity 0) := by
      rw [start]
      exact unblocked
    dsimp only [Physics.among]
    split
    · rename_i moved
      obtain ⟨slow, first, second, third⟩ := moved
      rw [decides] at first second third
      have one := moves_part slow (zero_add 1).symm unmoved first
      rw [start] at one
      have two := moves_part slow (by norm_num) first second
      have three := moves_part slow (by norm_num) second third
      exact ((Relation.ReflTransGen.single one).tail two).tail three
    · exact .refl
  coasts velocity world slow clear := by
    have bound {value other : ℚ} (short : value ^ 2 + other ^ 2 ≤ 120 ^ 2) : |value| ≤ 120 :=
      abs_le_of_sq_le_sq (by linarith [sq_nonneg other]) (by norm_num)
    have unblocked (k : ℚ) (before : 0 ≤ k) (after : k ≤ 3) :
        free (part world.1 velocity k) = true := by
      rw [decides]
      exact not_blocked_of_clear (clear (k / 3) (by linarith) (by linarith))
    have moves : (|velocity.x| ≤ 120 ∧ |velocity.y| ≤ 120) ∧ free (part world.1 velocity 1) ∧
        free (part world.1 velocity 2) ∧ free (part world.1 velocity 3) :=
      ⟨⟨bound slow, bound ((add_comm _ _).trans_le slow)⟩, unblocked 1 (by norm_num) (by norm_num),
        unblocked 2 (by norm_num) (by norm_num), unblocked 3 (by norm_num) (by norm_num)⟩
    dsimp only [Physics.among]
    rw [if_pos moves]
    ext <;> simp [part]

end Among

/-- A disc beside the wall in the top right corner of a map. -/
def freeOfCorner (position : Vec2) : Bool :=
  (4 / 5 : ℚ) ^ 2 < gap 2 1 position.x ^ 2 + gap 2 2 position.y ^ 2

/-- The world of that map. -/
def Runtime.corner : Runtime (Vec2 × Vec2) :=
  { Runtime.free with physics := .among freeOfCorner }

/-- The player to the left of the wall. -/
def GameLayer.besideWall : GameLayer (Vec2 × Vec2) :=
  ⟨⟨0, 0⟩, ⟨toVec2 (tileCentre (0, 2)), 0, true⟩, (tileCentre (0, 2), ⟨0, 0⟩)⟩

/-- The player walks around the wall. -/
theorem reaches_connected_corner :
    ∃ frames : List Frame, (∀ frame ∈ frames, 0 ≤ frame.dt ∧ frame.dt ≤ 1 / 5) ∧
      (GameLayer.besideWall.run .corner frames).player.position = toVec2 (tileCentre (1, 1)) := by
  let parser : MapParser := ⟨Map.cornerMap, ⟨"mapset", 1, 64, 64, "tileset.png", 128, 64⟩,
    ⟨"objectset", 3, 64, 64, "objtiles.png", 512, 64⟩⟩
  obtain ⟨loaded, loads, bodies, -⟩ := parser.exists_loadMap Map.emptyLevel
  have walled : ∀ x < 2, ∀ y < 3, Map.cornerMap.Walled x y → x = 1 ∧ y = 0 := by decide
  have wall (cell : ℤ × ℤ) : parser.SolidCell cell ↔ cell = (1, 2) := by
    constructor
    · rintro ⟨x, inWidth, y, inHeight, there, rfl⟩
      obtain ⟨rfl, rfl⟩ := walled x inWidth y inHeight there
      rfl
    · rintro rfl
      decide
  have decides (position : Vec2) : freeOfCorner position = true ↔
      ¬ Blocked Map.byMasks loaded.globalBodies position := by
    rw [bodies, Map.emptyLevel, List.nil_append, Map.blocked_iff Map.followsMasks_byMasks,
      not_not]
    simp [Free, wall, freeOfCorner, Touched]
  have axes : MeasuresAxes Runtime.corner.length := by
    intro value
    constructor
    · simp [Runtime.corner, Runtime.free]
    · simp [Runtime.corner, Runtime.free]
  have connected : Relation.ReflTransGen (Opens parser.SolidCell) (0, 2) (1, 1) := by
    have down : Opens parser.SolidCell (0, 2) (0, 1) :=
      ⟨by decide, by decide, .inl ⟨rfl, rfl⟩⟩
    have right : Opens parser.SolidCell (0, 1) (1, 1) :=
      ⟨by decide, by decide, .inr ⟨rfl, rfl⟩⟩
    exact .tail (.single down) right
  exact (GameLayer.reaches_connected Map.followsMasks_byMasks loads rfl (solid_among decides) axes
    ⟨rfl, rfl⟩ (by decide) rfl).2 (1, 1) connected

end LegendOfStealth.Play
