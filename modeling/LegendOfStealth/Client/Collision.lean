import LegendOfStealth.Client.LevelGeometry
import LegendOfStealth.Library.GridWalk

/-!
# Walls in the way

The player's body is a disc.  The bodies of the walls and the player's collide by their
categories and masks, and the tiles are wide enough for the disc: the player gets exactly
where the cells without walls are connected.
-/

namespace LegendOfStealth.Map

open LegendOfStealth.Library LegendOfStealth.Geometry

/-- The bits of a group. -/
def ColliderGroup.bits : ColliderGroup → BitVec 16
  | .wall => 0x01
  | .ventilation => 0x02
  | .termArea => 0x04
  | .player => 0xF0
  | .all => ~~~0

/-- `b2Filter`, without a group. -/
structure Filter where
  categoryBits : BitVec 16
  maskBits : BitVec 16
  deriving DecidableEq

/-- Two fixtures collide if each has the other's category in its mask. -/
def FollowsMasks (shouldCollide : Filter → Filter → Bool) : Prop :=
  ∀ first second, shouldCollide first second = true ↔
    first.maskBits &&& second.categoryBits ≠ 0 ∧ first.categoryBits &&& second.maskBits ≠ 0

/-- The decision without anything else to consider. -/
def byMasks (first second : Filter) : Bool :=
  first.maskBits &&& second.categoryBits != 0 && first.categoryBits &&& second.maskBits != 0

theorem followsMasks_byMasks : FollowsMasks byMasks := by
  intro first second
  simp [byMasks]

/-- The filter of a body's fixture. -/
def Body.filter (body : Body) : Filter :=
  ⟨body.categoryBits.bits, body.maskBits.bits⟩

/-- A body with one disc, in metres. -/
structure DiscBody where
  type : BodyType
  allowSleep : Bool
  radius : ℚ
  density : ℚ
  friction : ℚ
  filter : Filter
  deriving DecidableEq

/-- The body of `Player::CreatePhysics`. -/
def playerBody : DiscBody where
  type := .dynamicBody
  allowSleep := false
  radius := mapTileSize / b2Ptm / 2 * (8 / 10)
  density := 3 / 2
  friction := 1
  filter :=
    { categoryBits := ColliderGroup.player.bits
      maskBits := ColliderGroup.wall.bits ||| ColliderGroup.ventilation.bits |||
        ColliderGroup.player.bits }

/-- A disc and the box of a body have a point in common. -/
def Body.Overlaps (body : Body) (centre : Vec2) (radius : ℚ) : Prop :=
  ∃ point : Vec2, |point.x - body.position.x| ≤ body.halfWidth ∧
    |point.y - body.position.y| ≤ body.halfHeight ∧
      (point.x - centre.x) ^ 2 + (point.y - centre.y) ^ 2 ≤ radius ^ 2

/-- The player would overlap a body that it collides with. -/
def Blocked (shouldCollide : Filter → Filter → Bool) (bodies : List Body) (position : Vec2) :
    Prop :=
  ∃ body ∈ bodies, shouldCollide body.filter playerBody.filter = true ∧
    body.Overlaps position playerBody.radius

/-- The player is moved, by at most its radius along either axis. -/
structure Moves (shouldCollide : Filter → Filter → Bool) (bodies : List Body)
    (position next : Vec2) : Prop where
  free : ¬ Blocked shouldCollide bodies position
  free_next : ¬ Blocked shouldCollide bodies next
  near : |next.x - position.x| ≤ playerBody.radius ∧ |next.y - position.y| ≤ playerBody.radius

/-- The middle of a tile, counted from the bottom left, in metres. -/
def tileCentre (cell : ℤ × ℤ) : Vec2 :=
  ⟨(cell.1 + 1 / 2) * b2MeterPerTile, (cell.2 + 1 / 2) * b2MeterPerTile⟩

/-- The tile of a position. -/
def tileOf (position : Vec2) : ℤ × ℤ :=
  (⌊position.x / b2MeterPerTile⌋, ⌊position.y / b2MeterPerTile⌋)

/-- The cell of the TMX map with these coordinates has a wall. -/
def MapParser.SolidCell (parser : MapParser) (cell : ℤ × ℤ) : Prop :=
  ∃ x < parser.tmxMap.width, ∃ y < parser.tmxMap.height,
    parser.tmxMap.Walled x y ∧ cell = ((x : ℤ), ((parser.tmxMap.height - 1 - y : ℕ) : ℤ))

instance (parser : MapParser) (cell : ℤ × ℤ) : Decidable (parser.SolidCell cell) :=
  inferInstanceAs (Decidable (∃ x < _, ∃ y < _, _ ∧ _))

/-! ## Walls -/

/-- Whatever its category, a wall collides with the player. -/
theorem shouldCollide_wallBody {shouldCollide : Filter → Filter → Bool}
    (follows : FollowsMasks shouldCollide) (x y : Nat) (isVentilation : Bool) :
    shouldCollide (MapLoader.wallBody x y isVentilation).filter playerBody.filter = true := by
  rw [follows]
  have masks : ColliderGroup.player.bits &&& playerBody.filter.categoryBits ≠ 0 := by decide
  cases isVentilation with
  | false => exact ⟨masks, (by decide : ColliderGroup.ventilation.bits &&& _ ≠ 0)⟩
  | true => exact ⟨masks, (by decide : ColliderGroup.wall.bits &&& _ ≠ 0)⟩

/-- A disc overlaps the box of a wall exactly if it touches the cell. -/
theorem overlaps_wallBody_iff (x y : Nat) (isVentilation : Bool) (centre : Vec2) (radius : ℚ) :
    (MapLoader.wallBody x y isVentilation).Overlaps centre radius ↔
      Touched 2 radius (centre.x, centre.y) ((x : ℤ), (y : ℤ)) := by
  have middle (i : Nat) : (mapTileSize : ℚ) * (i + 1 / 2) / b2Ptm = 2 * ((i : ℤ) : ℚ) + 1 := by
    norm_num [mapTileSize, b2Ptm, b2MeterPerTile]
    ring
  have half : (b2MeterPerTile : ℚ) / 2 = 1 := by norm_num [b2MeterPerTile]
  have side (i : Nat) (value : ℚ) : |value - (2 * ((i : ℤ) : ℚ) + 1)| ≤ 1 ↔
      ((i : ℤ) : ℚ) * 2 ≤ value ∧ value ≤ (((i : ℤ) : ℚ) + 1) * 2 := by
    rw [abs_le]
    constructor
    · rintro ⟨left, right⟩
      constructor <;> linarith
    · rintro ⟨left, right⟩
      constructor <;> linarith
  rw [touched_iff (zero_le_two : (0 : ℚ) ≤ 2)]
  simp only [Body.Overlaps, MapLoader.wallBody, middle, half, side]
  constructor
  · rintro ⟨point, across, along, near⟩
    exact ⟨point.x, point.y, across, along, near⟩
  · rintro ⟨x, y, across, along, near⟩
    exact ⟨⟨x, y⟩, across, along, near⟩

section Loaded

variable {parser : MapParser} {shouldCollide : Filter → Filter → Bool}

/-- There is a body for each cell with a wall. -/
theorem exists_mem_bodiesOf_iff (property : Body → Prop) :
    (∃ body ∈ MapLoader.bodiesOf parser.tileFlags
        (cells parser.tmxMap.width parser.tmxMap.height), property body) ↔
      ∃ x < parser.tmxMap.width, ∃ y < parser.tmxMap.height, parser.tmxMap.Walled x y ∧
        property (MapLoader.wallBody x (parser.tmxMap.height - 1 - y)
          (hasFlag (parser.tileFlags x (parser.tmxMap.height - 1 - y)) .tileVent)) := by
  constructor
  · rintro ⟨body, member, holds⟩
    rcases List.mem_map.mp member with ⟨⟨x, row⟩, flagged, rfl⟩
    rcases List.mem_filter.mp flagged with ⟨inside, wall⟩
    rcases mem_cells.mp inside with ⟨inWidth, inHeight⟩
    have inHeight' : parser.tmxMap.height - 1 - row < parser.tmxMap.height := by omega
    refine ⟨x, inWidth, parser.tmxMap.height - 1 - row, inHeight', ?_, ?_⟩
    · rw [← parser.hasFlag_tileFlags inHeight' (.inl rfl), flip_flip inHeight]
      exact wall
    · rw [flip_flip inHeight]
      exact holds
  · rintro ⟨x, inWidth, y, inHeight, walled, holds⟩
    refine ⟨_, List.mem_map.mpr ⟨(x, parser.tmxMap.height - 1 - y), ?_, rfl⟩, holds⟩
    rw [List.mem_filter, mem_cells]
    exact ⟨⟨inWidth, by omega⟩, (parser.hasFlag_tileFlags inHeight (.inl rfl)).mpr walled⟩

theorem exists_overlaps_iff (follows : FollowsMasks shouldCollide) (position : Vec2) (radius : ℚ) :
    (∃ body ∈ MapLoader.bodiesOf parser.tileFlags
        (cells parser.tmxMap.width parser.tmxMap.height),
        shouldCollide body.filter playerBody.filter = true ∧ body.Overlaps position radius) ↔
      ¬ Free 2 radius parser.SolidCell (position.x, position.y) := by
  rw [exists_mem_bodiesOf_iff, Free]
  push Not
  simp only [shouldCollide_wallBody follows, overlaps_wallBody_iff, true_and]
  constructor
  · rintro ⟨x, inWidth, y, inHeight, walled, touched⟩
    exact ⟨_, ⟨x, inWidth, y, inHeight, walled, rfl⟩, touched⟩
  · rintro ⟨cell, ⟨x, inWidth, y, inHeight, walled, rfl⟩, touched⟩
    exact ⟨x, inWidth, y, inHeight, walled, touched⟩

theorem radius_playerBody : playerBody.radius = 4 / 5 := by
  norm_num [playerBody, mapTileSize, b2Ptm, b2MeterPerTile]

/-- What is in the player's way are the cells with walls. -/
theorem blocked_iff (follows : FollowsMasks shouldCollide) (position : Vec2) :
    Blocked shouldCollide
        (MapLoader.bodiesOf parser.tileFlags (cells parser.tmxMap.width parser.tmxMap.height))
        position ↔
      ¬ Free 2 (4 / 5 : ℚ) parser.SolidCell (position.x, position.y) := by
  rw [← radius_playerBody]
  exact exists_overlaps_iff follows position playerBody.radius

theorem moves_iff (follows : FollowsMasks shouldCollide) (position next : Vec2) :
    Moves shouldCollide
        (MapLoader.bodiesOf parser.tileFlags (cells parser.tmxMap.width parser.tmxMap.height))
        position next ↔
      Walks 2 (4 / 5 : ℚ) parser.SolidCell (position.x, position.y) (next.x, next.y) := by
  constructor
  · rintro ⟨free, free_next, near⟩
    rw [blocked_iff follows, not_not] at free free_next
    rw [radius_playerBody] at near
    exact ⟨free, free_next, near⟩
  · rintro ⟨free, free_next, near⟩
    constructor
    · rwa [blocked_iff follows, not_not]
    · rwa [blocked_iff follows, not_not]
    · rwa [radius_playerBody]

/-- Where the player gets: through the bodies of a loaded map, moved by at most its radius at a
time, it never leaves the tiles that are connected by tiles without walls, and it gets from
the middle of one tile to the middle of another exactly if they are so connected. -/
theorem moves_iff_connected (follows : FollowsMasks shouldCollide) {level : Level}
    (bare : level.globalBodies = []) :
    ∃ loaded, (parser.parseMap level).bind MapLoader.loadMap = some loaded ∧
      (∀ position last : Vec2,
        Relation.ReflTransGen (Moves shouldCollide loaded.globalBodies) position last →
          Relation.ReflTransGen (Opens parser.SolidCell) (tileOf position) (tileOf last)) ∧
        ∀ cell last : ℤ × ℤ,
          Relation.ReflTransGen (Moves shouldCollide loaded.globalBodies) (tileCentre cell)
              (tileCentre last) ↔
            Relation.ReflTransGen (Opens parser.SolidCell) cell last := by
  obtain ⟨loaded, loads, bodies, -⟩ := parser.exists_loadMap level
  rw [bare, List.nil_append] at bodies
  have walks {position last : Vec2}
      (moves : Relation.ReflTransGen (Moves shouldCollide loaded.globalBodies) position last) :
      Relation.ReflTransGen (Walks 2 (4 / 5 : ℚ) parser.SolidCell) (position.x, position.y)
        (last.x, last.y) := by
    rw [bodies] at moves
    exact moves.lift (fun position : Vec2 => (position.x, position.y)) fun _ _ moved =>
      (moves_iff follows _ _).mp moved
  refine ⟨loaded, loads, ?_, ?_⟩
  · intro position last moves
    simpa [tileOf, cellOf, b2MeterPerTile] using
      connected_of_walks two_pos (by norm_num : (4 / 5 : ℚ) < 2) (walks moves)
  · intro cell last
    rw [← walks_iff_opens two_pos (by norm_num : (0 : ℚ) < 4 / 5) (by norm_num)]
    have centre (cell : ℤ × ℤ) : ((tileCentre cell).x, (tileCentre cell).y) = middle 2 cell := by
      simp [tileCentre, middle, b2MeterPerTile]
    rw [← centre, ← centre]
    constructor
    · exact walks
    · intro walks
      rw [bodies]
      exact walks.lift (fun point : ℚ × ℚ => (⟨point.1, point.2⟩ : Vec2)) fun _ _ walked =>
        (moves_iff follows _ _).mpr walked

end Loaded

/-- Around the wall in the top right corner of a map. -/
theorem moves_iff_connected_corner :
    ∃ parser, MapParser.new (.ok cornerMap) = .ok parser ∧ parser.SolidCell (1, 2) ∧
      ∃ loaded, (parser.parseMap emptyLevel).bind MapLoader.loadMap = some loaded ∧
        Relation.ReflTransGen (Moves byMasks loaded.globalBodies) (tileCentre (0, 2))
          (tileCentre (1, 1)) := by
  let parser : MapParser := ⟨cornerMap, ⟨"mapset", 1, 64, 64, "tileset.png", 128, 64⟩,
    ⟨"objectset", 3, 64, 64, "objtiles.png", 512, 64⟩⟩
  obtain ⟨loaded, loads, -, moves⟩ :=
    (moves_iff_connected followsMasks_byMasks rfl : ∃ loaded,
      (parser.parseMap emptyLevel).bind MapLoader.loadMap = some loaded ∧ _)
  refine ⟨parser, rfl, by decide, loaded, loads, (moves _ _).mpr ?_⟩
  have down : Opens parser.SolidCell (0, 2) (0, 1) :=
    ⟨by decide, by decide, .inl ⟨rfl, rfl⟩⟩
  have right : Opens parser.SolidCell (0, 1) (1, 1) :=
    ⟨by decide, by decide, .inr ⟨rfl, rfl⟩⟩
  exact .tail (.single down) right

end LegendOfStealth.Map
