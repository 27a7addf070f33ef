import LegendOfStealth.Client.DrawnTiles
import LegendOfStealth.Client.LevelGeometry
import LegendOfStealth.Client.MapLayer

/-!
# The buffers of a map

`ParseMap` makes a `MapLayer` of every layer to be drawn, adds its tiles and creates its
buffers.  A later layer of the same name takes the place of an earlier one, whose buffers
stay where they are.  When the map has been parsed, the layers that are left have their own
tiles in their buffers.
-/

namespace LegendOfStealth.Drawing

open LegendOfStealth.Library LegendOfStealth.Geometry
open LegendOfStealth.Map (MapParser)

/-- The tiles of a parsed layer: where they are drawn, and the part of the image. -/
def tileRects (parsed : Map.MapLayer) : List (Rect × Rect) :=
  parsed.tiles.filterMap fun tile => tile.texClip.map (tile.worldClip, ·)

/-- `ParseDrawableLayer` among the buffers of others, with the names that OpenGL chooses;
`none` if a clip cannot be calculated. -/
def upload (names : Nat × Nat) (parsed : Map.MapLayer) (buffers : Buffers) :
    Option (MapLayer × Buffers) :=
  if ∀ tile ∈ parsed.tiles, tile.texClip.isSome then
    (runActions Display.step (Display.tileCalls parsed ++ [.createVBO names.1 names.2])
      (.start buffers)).map fun display => (display.layer, display.buffers)
  else none

/-- The floats of some rectangles. -/
def pushedAll (rects : List Rect) : List ℚ :=
  rects.flatMap MapLayer.pushed

/-- The layer has some tiles, and if there are any, its buffers hold them. -/
structure Filled (tiles : List (Rect × Rect)) (layer : MapLayer) (buffers : Buffers) : Prop where
  numTiles : layer.numTiles = tiles.length
  vertices : tiles ≠ [] →
    layer.vertBuf ≠ 0 ∧ buffers layer.vertBuf = some (pushedAll (tiles.map Prod.fst))
  texCoords : tiles ≠ [] →
    layer.texBuf ≠ 0 ∧ buffers layer.texBuf = some (pushedAll (tiles.map Prod.snd))

/-- The names of the buffers that the layer draws from. -/
def MapLayer.names (layer : MapLayer) : List Nat :=
  if layer.numTiles = 0 then [] else [layer.vertBuf, layer.texBuf]

/-- Every buffer that there was is as it was. -/
def Keeps (before after : Buffers) : Prop :=
  ∀ name, (before name).isSome → after name = before name

section Upload

variable {buffers between after : Buffers} {layer made : MapLayer} {tiles : List (Rect × Rect)}

theorem Filled.keeps (filled : Filled tiles layer buffers) (keeps : Keeps buffers after) :
    Filled tiles layer after where
  numTiles := filled.numTiles
  vertices some := by
    obtain ⟨nonzero, held⟩ := filled.vertices some
    exact ⟨nonzero, (keeps _ (held ▸ rfl)).trans held⟩
  texCoords some := by
    obtain ⟨nonzero, held⟩ := filled.texCoords some
    exact ⟨nonzero, (keeps _ (held ▸ rfl)).trans held⟩

theorem Filled.isSome_of_mem_names (filled : Filled tiles layer buffers) {name : Nat}
    (member : name ∈ layer.names) : (buffers name).isSome := by
  obtain ⟨tiled, named⟩ := List.mem_ite_nil_left.mp member
  have some : tiles ≠ [] := by
    rintro rfl
    exact tiled filled.numTiles
  simp only [List.mem_cons, List.not_mem_nil, or_false] at named
  rcases named with rfl | rfl
  · rw [(filled.vertices some).2]
    rfl
  · rw [(filled.texCoords some).2]
    rfl

theorem of_createBuffers {vertName texName : Nat} {result : MapLayer × Buffers}
    (bare : layer.vertBuf = 0 ∧ layer.texBuf = 0)
    (created : layer.createBuffers vertName texName buffers = some result) :
    (buffers vertName = none ∧ buffers texName = none) ∧
      ∀ name, name ≠ vertName → name ≠ texName → result.2 name = buffers name := by
  rw [MapLayer.createBuffers, if_neg (by simp [bare])] at created
  obtain ⟨first, vertGen, rest⟩ := Option.bind_eq_some_iff.mp created
  obtain ⟨second, texGen, rfl⟩ := Option.map_eq_some_iff.mp rest
  obtain ⟨⟨-, vertUnused⟩, rfl⟩ := Buffers.gen_eq_some vertGen
  obtain ⟨⟨-, texUnused⟩, rfl⟩ := Buffers.gen_eq_some texGen
  have different : texName ≠ vertName := by
    rintro rfl
    rw [Function.update_self] at texUnused
    contradiction
  rw [Function.update_of_ne different] at texUnused
  refine ⟨⟨vertUnused, texUnused⟩, fun name notVert notTex => ?_⟩
  exact (Function.update_of_ne notTex _ _).trans (Function.update_of_ne notVert _ _)

theorem of_createVBO {names : Nat × Nat} {result : MapLayer × Buffers}
    (bare : layer.vertBuf = 0 ∧ layer.texBuf = 0) (numTiles : layer.numTiles = tiles.length)
    (vertices : layer.vertices = pushedAll (tiles.map Prod.fst))
    (texCoords : layer.texCoords = pushedAll (tiles.map Prod.snd))
    (uploaded : layer.createVBO names.1 names.2 buffers = some result) :
    Filled tiles result.1 result.2 ∧ Keeps buffers result.2 ∧
      ∀ name, name ≠ names.1 → name ≠ names.2 → result.2 name = buffers name := by
  rw [MapLayer.createVBO] at uploaded
  split at uploaded
  · rename_i empty
    cases uploaded
    have none : tiles = [] := List.eq_nil_of_length_eq_zero (numTiles.symm.trans empty)
    exact ⟨⟨numTiles, fun some => absurd none some, fun some => absurd none some⟩,
      fun _ _ => rfl, fun _ _ _ => rfl⟩
  · rw [if_pos (.inl bare.1)] at uploaded
    obtain ⟨⟨prepared, generated⟩, created, rfl⟩ := Option.map_eq_some_iff.mp uploaded
    obtain ⟨rfl, ready⟩ := MapLayer.ready_of_createBuffers bare created
    obtain ⟨⟨vertUnused, texUnused⟩, same⟩ := of_createBuffers bare created
    obtain ⟨-, vertHeld, texHeld⟩ := ready.fillBuffers
    have others (name : Nat) (notVert : name ≠ names.1) (notTex : name ≠ names.2) :
        MapLayer.fillBuffers ⟨layer.texCoords, layer.vertices, layer.numTiles, names.2, names.1⟩
          generated name = buffers name := by
      rw [MapLayer.fillBuffers, Buffers.data_of_ne notVert, Buffers.data_of_ne notTex]
      exact same name notVert notTex
    refine ⟨⟨numTiles, fun _ => ⟨ready.nonzero.1, vertHeld.trans ?_⟩,
      fun _ => ⟨ready.nonzero.2, texHeld.trans ?_⟩⟩, fun name used => others name ?_ ?_, others⟩
    · exact congrArg some vertices
    · exact congrArg some texCoords
    · rintro rfl
      simp [vertUnused] at used
    · rintro rfl
      simp [texUnused] at used

/-- A layer without buffers gets two that were not there. -/
theorem names_of_createVBO {names : Nat × Nat} {result : MapLayer × Buffers}
    (bare : layer.vertBuf = 0 ∧ layer.texBuf = 0)
    (uploaded : layer.createVBO names.1 names.2 buffers = some result) :
    result.1.names.Nodup ∧ ∀ name ∈ result.1.names, buffers name = none := by
  rw [MapLayer.createVBO] at uploaded
  split at uploaded
  · rename_i empty
    cases uploaded
    rw [MapLayer.names, if_pos empty]
    exact ⟨List.nodup_nil, fun _ member => absurd member List.not_mem_nil⟩
  · rename_i tiled
    rw [if_pos (.inl bare.1)] at uploaded
    obtain ⟨⟨prepared, generated⟩, created, rfl⟩ := Option.map_eq_some_iff.mp uploaded
    obtain ⟨rfl, ready⟩ := MapLayer.ready_of_createBuffers bare created
    obtain ⟨⟨vertUnused, texUnused⟩, -⟩ := of_createBuffers bare created
    rw [MapLayer.names, if_neg tiled]
    exact ⟨List.nodup_cons.mpr ⟨by simpa using ready.different, List.nodup_singleton _⟩,
      List.forall_mem_cons.mpr ⟨vertUnused, List.forall_mem_singleton.mpr texUnused⟩⟩

/-- Two names that OpenGL may choose. -/
structure Fresh (buffers : Buffers) (names : Nat × Nat) : Prop where
  nonzero : names.1 ≠ 0 ∧ names.2 ≠ 0
  different : names.2 ≠ names.1
  unused : buffers names.1 = none ∧ buffers names.2 = none

theorem Fresh.isSome_createVBO {names : Nat × Nat} (fresh : Fresh buffers names)
    (bare : layer.vertBuf = 0 ∧ layer.texBuf = 0) :
    (layer.createVBO names.1 names.2 buffers).isSome := by
  obtain ⟨⟨vertNonzero, texNonzero⟩, different, vertUnused, texUnused⟩ := fresh
  rw [MapLayer.createVBO]
  split
  · rfl
  · rw [if_pos (.inl bare.1), Option.isSome_map, MapLayer.createBuffers, if_neg (by simp [bare])]
    simp [Buffers.gen, vertNonzero, texNonzero, vertUnused, texUnused,
      Function.update_of_ne different]

theorem tileCalls_eq (parsed : Map.MapLayer) :
    Display.tileCalls parsed =
      (tileRects parsed).map fun tile => .addTile tile.1 tile.2 := by
  rw [Display.tileCalls, tileRects, List.map_filterMap]
  apply List.filterMap_congr
  intro tile _
  rw [Option.map_map]
  rfl

theorem runActions_addTile (tiles : List (Rect × Rect)) (display : Display) :
    ∃ next, runActions Display.step (tiles.map fun tile => .addTile tile.1 tile.2) display =
        some next ∧ next.buffers = display.buffers ∧
      next.layer =
        { display.layer with
          vertices := display.layer.vertices ++ pushedAll (tiles.map Prod.fst)
          texCoords := display.layer.texCoords ++ pushedAll (tiles.map Prod.snd)
          numTiles := display.layer.numTiles + tiles.length } := by
  induction tiles generalizing display with
  | nil =>
      refine ⟨display, rfl, rfl, ?_⟩
      simp [pushedAll]
  | cons tile rest ih =>
      obtain ⟨next, ran, buffers, layer⟩ := ih
        { display with
          layer := display.layer.addTile tile.1 tile.2, pending := display.pending + 1 }
      refine ⟨next, ran, buffers, layer.trans ?_⟩
      simp only [MapLayer.addTile, pushedAll, List.map_cons, List.flatMap_cons, List.append_assoc,
        List.length_cons]
      congr 1
      omega

/-- What is left of `ParseDrawableLayer` after its tiles have been added. -/
theorem upload_eq {names : Nat × Nat} {parsed : Map.MapLayer}
    (safe : ∀ tile ∈ parsed.tiles, tile.texClip.isSome) (buffers : Buffers) :
    upload names parsed buffers =
      MapLayer.createVBO names.1 names.2
        ⟨pushedAll ((tileRects parsed).map Prod.snd), pushedAll ((tileRects parsed).map Prod.fst),
          (tileRects parsed).length, 0, 0⟩ buffers := by
  obtain ⟨tiled, added, buffered, layered⟩ := runActions_addTile (tileRects parsed) (.start buffers)
  have layered : tiled.layer = ⟨pushedAll ((tileRects parsed).map Prod.snd),
      pushedAll ((tileRects parsed).map Prod.fst), (tileRects parsed).length, 0, 0⟩ := by
    rw [layered]
    exact congrArg (fun count => MapLayer.mk _ _ count 0 0) (Nat.zero_add _)
  have buffered : tiled.buffers = buffers := buffered
  rw [upload, if_pos safe, runActions_append, tileCalls_eq, added, Option.bind_some, runActions,
    Display.step, layered, buffered]
  cases MapLayer.createVBO _ _ _ _ with
  | none => rfl
  | some result => rfl

theorem safe_of_upload {names : Nat × Nat} {parsed : Map.MapLayer}
    (uploaded : upload names parsed buffers = some (made, after)) :
    ∀ tile ∈ parsed.tiles, tile.texClip.isSome := by
  by_contra broken
  rw [upload, if_neg broken] at uploaded
  contradiction

theorem of_upload {names : Nat × Nat} {parsed : Map.MapLayer}
    (uploaded : upload names parsed buffers = some (made, after)) :
    (∀ tile ∈ parsed.tiles, tile.texClip.isSome) ∧ Filled (tileRects parsed) made after ∧
      Keeps buffers after ∧ ∀ name, name ≠ names.1 → name ≠ names.2 → after name = buffers name := by
  have safe := safe_of_upload uploaded
  rw [upload_eq safe] at uploaded
  exact ⟨safe, of_createVBO ⟨rfl, rfl⟩ rfl rfl rfl uploaded⟩

theorem names_of_upload {names : Nat × Nat} {parsed : Map.MapLayer}
    (uploaded : upload names parsed buffers = some (made, after)) :
    made.names.Nodup ∧ ∀ name ∈ made.names, buffers name = none := by
  rw [upload_eq (safe_of_upload uploaded)] at uploaded
  exact names_of_createVBO ⟨rfl, rfl⟩ uploaded

theorem Fresh.isSome_upload_iff {names : Nat × Nat} (fresh : Fresh buffers names)
    (parsed : Map.MapLayer) :
    (upload names parsed buffers).isSome ↔ ∀ tile ∈ parsed.tiles, tile.texClip.isSome := by
  constructor
  · intro uploads
    obtain ⟨result, uploaded⟩ := Option.isSome_iff_exists.mp uploads
    exact (of_upload uploaded).1
  · intro safe
    rw [upload_eq safe]
    exact fresh.isSome_createVBO ⟨rfl, rfl⟩

end Upload

/-! ## All layers -/

/-- What `ParseMap` leaves to be drawn. -/
structure Screen where
  bgLayer : Option MapLayer
  fgLayer : Option MapLayer
  buffers : Buffers

/-- The last layer with a name. -/
def latest (name : String) (layers : List Map.Layer) : Option Map.Layer :=
  layers.reverse.find? (·.name = name)

@[simp]
theorem latest_append_singleton (name : String) (before : List Map.Layer) (layer : Map.Layer) :
    latest name (before ++ [layer]) = if layer.name = name then some layer else latest name before := by
  rw [latest, List.reverse_append, List.reverse_singleton, List.singleton_append, List.find?_cons]
  by_cases same : layer.name = name
  · simp [same]
  · simp [same, latest]

namespace Screen

/-- Before the map is parsed. -/
def start (buffers : Buffers) : Screen :=
  ⟨none, none, buffers⟩

/-- The body of the loop of `ParseMap` over the layers, each with the names of buffers that
OpenGL chooses for it. -/
def parseLayer (parser : MapParser) (screen : Screen) (layer : Map.Layer × Nat × Nat) :
    Option Screen :=
  if layer.1.name = "background" then
    (upload layer.2 (parser.parseDrawableLayer layer.1) screen.buffers).map
      fun (made, buffers) => { screen with bgLayer := some made, buffers }
  else if layer.1.name = "foreground" then
    (upload layer.2 (parser.parseDrawableLayer layer.1) screen.buffers).map
      fun (made, buffers) => { screen with fgLayer := some made, buffers }
  else some screen

/-- `ParseMap`. -/
def parseMap (parser : MapParser) (layers : List (Map.Layer × Nat × Nat)) (screen : Screen) :
    Option Screen :=
  layers.foldlM (parseLayer parser) screen

/-- A layer was made of a layer of the map. -/
structure MadeOf (parser : MapParser) (buffers : Buffers) (made : MapLayer)
    (layer : Map.Layer) : Prop where
  filled : Filled (tileRects (parser.parseDrawableLayer layer)) made buffers
  safe : ∀ tile ∈ (parser.parseDrawableLayer layer).tiles, tile.texClip.isSome

/-- The screen shows the last layers of the two names. -/
structure Shows (parser : MapParser) (layers : List Map.Layer) (screen : Screen) : Prop where
  background : Option.Rel (MadeOf parser screen.buffers) screen.bgLayer (latest "background" layers)
  foreground : Option.Rel (MadeOf parser screen.buffers) screen.fgLayer (latest "foreground" layers)

variable {parser : MapParser} {screen next : Screen} {before : List Map.Layer}
  {layer : Map.Layer × Nat × Nat}

theorem MadeOf.keeps {buffers after : Buffers} {slot : Option MapLayer} {source : Option Map.Layer}
    (made : Option.Rel (MadeOf parser buffers) slot source) (keeps : Keeps buffers after) :
    Option.Rel (MadeOf parser after) slot source := by
  cases made with
  | some made => exact .some ⟨made.filled.keeps keeps, made.safe⟩
  | none => exact .none

/-- What is left in a slot was made of a layer. -/
theorem MadeOf.of_slot {buffers : Buffers} {made : MapLayer} {source : Option Map.Layer}
    (related : Option.Rel (MadeOf parser buffers) (some made) source) :
    ∃ layer, source = some layer ∧ MadeOf parser buffers made layer := by
  cases related with
  | some madeOf => exact ⟨_, rfl, madeOf⟩

/-- One turn of the loop of `ParseMap` over the layers. -/
theorem Shows.parseLayer (shows : screen.Shows parser before)
    (turned : screen.parseLayer parser layer = some next) :
    next.Shows parser (before ++ [layer.1]) := by
  rw [Screen.parseLayer] at turned
  split at turned
  · rename_i named
    obtain ⟨⟨made, after⟩, uploaded, rfl⟩ := Option.map_eq_some_iff.mp turned
    obtain ⟨safe, filled, keeps, -⟩ := of_upload uploaded
    constructor
    · rw [latest_append_singleton, if_pos named]
      exact .some ⟨filled, safe⟩
    · rw [latest_append_singleton, if_neg (by rw [named]; decide)]
      exact MadeOf.keeps shows.foreground keeps
  · rename_i notBackground
    split at turned
    · rename_i named
      obtain ⟨⟨made, after⟩, uploaded, rfl⟩ := Option.map_eq_some_iff.mp turned
      obtain ⟨safe, filled, keeps, -⟩ := of_upload uploaded
      constructor
      · rw [latest_append_singleton, if_neg notBackground]
        exact MadeOf.keeps shows.background keeps
      · rw [latest_append_singleton, if_pos named]
        exact .some ⟨filled, safe⟩
    · rename_i notForeground
      cases turned
      constructor
      · rw [latest_append_singleton, if_neg notBackground]
        exact shows.background
      · rw [latest_append_singleton, if_neg notForeground]
        exact shows.foreground

/-- The names of the buffers that are drawn from. -/
def names (screen : Screen) : List Nat :=
  (screen.bgLayer.toList ++ screen.fgLayer.toList).flatMap MapLayer.names

/-- The layers on the screen have buffers of their own, which were not there at the
start, and those that were are as they were. -/
structure Owns (start : Buffers) (screen : Screen) : Prop where
  keeps : Keeps start screen.buffers
  distinct : screen.names.Nodup
  unused : ∀ name ∈ screen.names, start name = none

theorem Shows.isSome_of_mem_names (shows : screen.Shows parser before) :
    ∀ name ∈ screen.names, (screen.buffers name).isSome := by
  intro name member
  obtain ⟨made, slot, named⟩ := List.mem_flatMap.mp member
  rcases List.mem_append.mp slot with background | foreground
  · have related := shows.background
    rw [Option.mem_toList.mp background] at related
    obtain ⟨source, -, madeOf⟩ := MadeOf.of_slot related
    exact madeOf.filled.isSome_of_mem_names named
  · have related := shows.foreground
    rw [Option.mem_toList.mp foreground] at related
    obtain ⟨source, -, madeOf⟩ := MadeOf.of_slot related
    exact madeOf.filled.isSome_of_mem_names named

theorem Owns.replace {start : Buffers} {made : MapLayer} (kept : List Nat)
    (owns : screen.Owns start) (keeps : Keeps screen.buffers next.buffers)
    (held : ∀ name ∈ screen.names, (screen.buffers name).isSome)
    (fresh : made.names.Nodup ∧ ∀ name ∈ made.names, screen.buffers name = none)
    (among : kept.Sublist screen.names) (names : next.names.Perm (made.names ++ kept)) :
    next.Owns start where
  keeps name used := by
    have same := owns.keeps name used
    exact (keeps name (same ▸ used)).trans same
  distinct := by
    rw [names.nodup_iff, List.nodup_append]
    refine ⟨fresh.1, owns.distinct.sublist among, ?_⟩
    rintro name new _ old rfl
    have used := held name (among.subset old)
    rw [fresh.2 name new] at used
    contradiction
  unused name member := by
    rcases List.mem_append.mp (names.mem_iff.mp member) with new | old
    · by_contra used
      have same := owns.keeps name (Option.isSome_iff_ne_none.mpr used)
      exact used (same.symm.trans (fresh.2 name new))
    · exact owns.unused name (among.subset old)

theorem Owns.parseLayer {start : Buffers} (shows : screen.Shows parser before)
    (owns : screen.Owns start) (turned : screen.parseLayer parser layer = some next) :
    next.Owns start := by
  have held := shows.isSome_of_mem_names
  rw [Screen.parseLayer] at turned
  split at turned
  · obtain ⟨⟨made, after⟩, uploaded, rfl⟩ := Option.map_eq_some_iff.mp turned
    refine owns.replace (screen.fgLayer.toList.flatMap MapLayer.names) (of_upload uploaded).2.2.1
      held (names_of_upload uploaded) ?_ ?_
    · rw [names, List.flatMap_append]
      exact List.sublist_append_right _ _
    · simp [names]
  · split at turned
    · obtain ⟨⟨made, after⟩, uploaded, rfl⟩ := Option.map_eq_some_iff.mp turned
      refine owns.replace (screen.bgLayer.toList.flatMap MapLayer.names)
        (of_upload uploaded).2.2.1 held (names_of_upload uploaded) ?_ ?_
      · rw [names, List.flatMap_append]
        exact List.sublist_append_left _ _
      · simpa [names] using List.perm_append_comm
    · cases turned
      exact owns

/-- A map that has been parsed is shown, from buffers of its own. -/
theorem shows_of_parseMap {layers : List (Map.Layer × Nat × Nat)} {buffers : Buffers}
    (parsed : (start buffers).parseMap parser layers = some screen) :
    screen.Shows parser (layers.map Prod.fst) ∧ screen.Owns buffers := by
  refine done_of_foldlM
    (fun before screen => screen.Shows parser (before.map Prod.fst) ∧ screen.Owns buffers)
    ⟨⟨.none, .none⟩, fun _ _ => rfl, List.nodup_nil, fun _ member => absurd member List.not_mem_nil⟩
    ?_ parsed
  intro layer _ before state next ⟨shows, owns⟩ turned
  rw [List.map_append]
  exact ⟨shows.parseLayer turned, .parseLayer shows owns turned⟩

theorem of_parseLayer (turned : screen.parseLayer parser layer = some next) :
    Keeps screen.buffers next.buffers ∧
      ∀ name, name ≠ layer.2.1 → name ≠ layer.2.2 → next.buffers name = screen.buffers name := by
  rw [Screen.parseLayer] at turned
  split at turned
  · obtain ⟨result, uploaded, rfl⟩ := Option.map_eq_some_iff.mp turned
    exact (of_upload uploaded).2.2
  · split at turned
    · obtain ⟨result, uploaded, rfl⟩ := Option.map_eq_some_iff.mp turned
      exact (of_upload uploaded).2.2
    · cases turned
      exact ⟨fun _ _ => rfl, fun _ _ _ => rfl⟩

theorem isSome_parseLayer_iff (fresh : Fresh screen.buffers layer.2) :
    (screen.parseLayer parser layer).isSome ↔
      (layer.1.Drawable → ∀ tile ∈ (parser.parseDrawableLayer layer.1).tiles,
        tile.texClip.isSome) := by
  rw [Screen.parseLayer, Map.Layer.Drawable]
  split
  · rename_i background
    rw [Option.isSome_map, fresh.isSome_upload_iff, forall_prop_of_true (.inl background)]
  · rename_i notBackground
    split
    · rename_i foreground
      rw [Option.isSome_map, fresh.isSome_upload_iff, forall_prop_of_true (.inr foreground)]
    · rename_i notForeground
      exact iff_of_true rfl fun named => (named.elim notBackground notForeground).elim

/-- The names that OpenGL chooses for the layers. -/
def chosen (layers : List (Map.Layer × Nat × Nat)) : List Nat :=
  layers.flatMap fun layer => [layer.2.1, layer.2.2]

/-- `ParseMap` gets to its end exactly if the clips of all tiles can be calculated. -/
theorem isSome_parseMap_iff {layers : List (Map.Layer × Nat × Nat)}
    (distinct : (chosen layers).Nodup)
    (unused : ∀ name ∈ chosen layers, name ≠ 0 ∧ screen.buffers name = none) :
    (screen.parseMap parser layers).isSome ↔
      ∀ layer ∈ layers, layer.1.Drawable →
        ∀ tile ∈ (parser.parseDrawableLayer layer.1).tiles, tile.texClip.isSome := by
  induction layers generalizing screen with
  | nil => exact iff_of_true rfl fun _ member => absurd member List.not_mem_nil
  | cons layer rest ih =>
      obtain ⟨layer, vertName, texName⟩ := layer
      simp only [chosen, List.flatMap_cons, List.cons_append, List.nil_append,
        List.nodup_cons, List.mem_cons, not_or, forall_eq_or_imp] at distinct unused
      obtain ⟨⟨different, vertApart⟩, texApart, distinct⟩ := distinct
      obtain ⟨⟨vertNonzero, vertUnused⟩, ⟨texNonzero, texUnused⟩, unused⟩ := unused
      have fresh : Fresh screen.buffers (vertName, texName) :=
        ⟨⟨vertNonzero, texNonzero⟩, Ne.symm different, vertUnused, texUnused⟩
      rw [List.forall_mem_cons, ← isSome_parseLayer_iff fresh, Screen.parseMap, List.foldlM_cons]
      cases turned : screen.parseLayer parser (layer, vertName, texName) with
      | none => exact iff_of_false Bool.false_ne_true fun both => Bool.false_ne_true both.1
      | some next =>
          refine (ih distinct fun name member => ?_).trans (and_iff_right rfl).symm
          obtain ⟨nonzero, free⟩ := unused name member
          refine ⟨nonzero, ((of_parseLayer turned).2 name ?_ ?_).trans free⟩
          · rintro rfl
            exact vertApart member
          · rintro rfl
            exact texApart member

/-! ## The two models of the parser -/

theorem layers_parseObjectGroups (parser : MapParser) (groups : List Map.ObjectGroup)
    (level : Map.Level) :
    (groups.foldl parser.parseObjectGroup level).bgLayer = level.bgLayer ∧
      (groups.foldl parser.parseObjectGroup level).fgLayer = level.fgLayer := by
  induction groups generalizing level with
  | nil => exact ⟨rfl, rfl⟩
  | cons group rest ih =>
      rw [List.foldl_cons]
      obtain ⟨background, foreground⟩ := ih (parser.parseObjectGroup level group)
      rw [background, foreground, MapParser.parseObjectGroup]
      split
      · exact ⟨rfl, rfl⟩
      · exact ⟨rfl, rfl⟩

/-- The layers that `ParseMap` sets are the last ones of their names. -/
theorem layers_parseMap {level loaded : Map.Level} (bare : level.bgLayer = none ∧ level.fgLayer = none)
    (parsed : parser.parseMap level = some loaded) :
    loaded.bgLayer = (latest "background" parser.tmxMap.layers).map parser.parseDrawableLayer ∧
      loaded.fgLayer = (latest "foreground" parser.tmxMap.layers).map parser.parseDrawableLayer := by
  obtain ⟨state, folded, rfl⟩ := Option.map_eq_some_iff.mp parsed
  obtain ⟨background, foreground⟩ :=
    layers_parseObjectGroups parser parser.tmxMap.objectGroups state.1
  dsimp only
  rw [background, foreground]
  refine done_of_foldlM
    (fun before (state : Map.Level × Map.TileTemplate) =>
      state.1.bgLayer = (latest "background" before).map parser.parseDrawableLayer ∧
        state.1.fgLayer = (latest "foreground" before).map parser.parseDrawableLayer)
    bare ?_ folded
  rintro layer - before ⟨level, template⟩ next ⟨shownBefore, coveredBefore⟩ turned
  rw [MapParser.parseLayer] at turned
  rw [latest_append_singleton, latest_append_singleton]
  split at turned
  · rename_i named
    cases turned
    rw [if_pos named, if_neg (by rw [named]; decide)]
    exact ⟨rfl, coveredBefore⟩
  · rename_i notBackground
    rw [if_neg notBackground]
    split at turned
    · rename_i named
      cases turned
      rw [if_pos named]
      exact ⟨shownBefore, rfl⟩
    · rename_i notForeground
      rw [if_neg notForeground]
      split at turned
      · obtain ⟨template, -, rfl⟩ := Option.map_eq_some_iff.mp turned
        exact ⟨shownBefore, coveredBefore⟩
      · cases turned
        exact ⟨shownBefore, coveredBefore⟩

theorem rel_of_slot {buffers : Buffers} {slot : Option MapLayer} {source : Option Map.Layer}
    (related : Option.Rel (MadeOf parser buffers) slot source) :
    Option.Rel (fun made parsed => Filled (tileRects parsed) made buffers) slot
      (source.map parser.parseDrawableLayer) := by
  cases related with
  | some made => exact .some made.filled
  | none => exact .none

/-- Uploading a map: `ParseMap` gets to its end exactly if the clips of all tiles that are to
be drawn can be calculated, that is if no call of `GetTextureClip` for them divides by zero.
Then the background and the foreground that it leaves are the last layers of these names,
however many there are, with their tiles in buffers of their own, and the buffers that there
were are as they were. -/
theorem refines_parseMap {layers : List (Map.Layer × Nat × Nat)} {buffers : Buffers}
    {level loaded : Map.Level} (whole : layers.map Prod.fst = parser.tmxMap.layers)
    (distinct : (chosen layers).Nodup)
    (unused : ∀ name ∈ chosen layers, name ≠ 0 ∧ buffers name = none)
    (bare : level.bgLayer = none ∧ level.fgLayer = none)
    (parsed : parser.parseMap level = some loaded) :
    (((start buffers).parseMap parser layers).isSome ↔
      ∀ layer ∈ parser.tmxMap.layers, layer.Drawable →
        ∀ tile ∈ (parser.parseDrawableLayer layer).tiles, tile.texClip.isSome) ∧
    (∀ layer, (∀ tile ∈ (parser.parseDrawableLayer layer).tiles, tile.texClip.isSome) ↔
      ∀ gid ∈ parser.drawnGids layer, 0 ∉ parser.divisors parser.mapset) ∧
    (loaded.bgLayer = (latest "background" parser.tmxMap.layers).map parser.parseDrawableLayer ∧
      loaded.fgLayer = (latest "foreground" parser.tmxMap.layers).map parser.parseDrawableLayer) ∧
    ∀ screen, (start buffers).parseMap parser layers = some screen →
      Option.Rel (fun made parsed => Filled (tileRects parsed) made screen.buffers)
          screen.bgLayer loaded.bgLayer ∧
        Option.Rel (fun made parsed => Filled (tileRects parsed) made screen.buffers)
          screen.fgLayer loaded.fgLayer ∧
        screen.Owns buffers := by
  have lastLayers := layers_parseMap bare parsed
  refine ⟨?_, parser.isSome_texClip_iff, lastLayers, ?_⟩
  · rw [isSome_parseMap_iff distinct unused, ← whole, List.forall_mem_map]
  · intro screen uploaded
    obtain ⟨shows, owns⟩ := shows_of_parseMap uploaded
    rw [whole] at shows
    rw [lastLayers.1, lastLayers.2]
    exact ⟨rel_of_slot shows.background, rel_of_slot shows.foreground, owns⟩

/-- A map that shows the second tile of its image twice. -/
def meadow : MapParser :=
  let mapset : Map.Tileset := ⟨"mapset", 1, 64, 64, "tileset.png", 128, 64⟩
  let objset : Map.Tileset := ⟨"objectset", 3, 64, 64, "objtiles.png", 512, 64⟩
  let background : Map.Layer := ⟨"background", fun _ _ => ⟨2, 0, 1, by decide⟩⟩
  ⟨⟨2, 1, 64, [mapset, objset], [background], []⟩, mapset, objset⟩

/-- Its background is uploaded. -/
theorem refines_parseMap_meadow :
    ∃ loaded, meadow.parseMap Map.emptyLevel = some loaded ∧
      ((start fun _ => none).parseMap meadow
        (meadow.tmxMap.layers.map fun layer => (layer, 1, 2))).isSome := by
  obtain ⟨loaded, parsed, -⟩ := meadow.parseMap_shows Map.emptyLevel
  refine ⟨loaded, parsed,
    (refines_parseMap rfl (by decide) (by decide) ⟨rfl, rfl⟩ parsed).1.mpr ?_⟩
  intro layer member _
  cases List.mem_singleton.mp member
  decide +kernel

end Screen

end LegendOfStealth.Drawing
