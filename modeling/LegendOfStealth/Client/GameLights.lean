import LegendOfStealth.Client.CustomTexture
import LegendOfStealth.Client.Map

/-!
# The lights of the game

`GameLayer` makes a light source for every light of the map and then the one of the player,
which is given a texture of its own.  Whatever the map has, and in whatever order the light
sources are destroyed, the render texture is deleted once and no light source is left with
a deleted one: no light source starts to share after the first has stopped.
-/

namespace LegendOfStealth.Light

open LegendOfStealth.Library LegendOfStealth.Geometry
open LegendOfStealth.Map (PlacedLight)

/-- What `AddLight` does with its light source, the next to be constructed. -/
def addLight (index : Nat) (light : PlacedLight) : List Operation :=
  [.construct, .setLightProperties index light.radius light.color]

/-- What the constructor of `Player` does with its light source. -/
def addPlayer (index : Nat) (flashlight : Texture) : List Operation :=
  [.construct, .setLightProperties index 300 ⟨1, 1, 1, 1 / 2⟩, .setTexture index (some flashlight)]

/-- The lights of a map, from an index on. -/
def addLights : List PlacedLight → Nat → List Operation
  | [], _ => []
  | light :: rest, index => addLight index light ++ addLights rest (index + 1)

/-- The constructor of `GameLayer`. -/
def makeLights (lights : List PlacedLight) (flashlight : Texture) : List Operation :=
  addLights lights 0 ++ addPlayer lights.length flashlight

namespace Lights

/-- When some lights have been added, all share the first render texture. -/
def added (sources : List LightSource) : Lights where
  textures :=
    ⟨sources.length, if sources = [] then none else some 0,
      if sources = [] then .empty else Heap.empty.allocate, []⟩
  sources := sources.map fun source => some source

/-- A light source that shares the first render texture. -/
def sharing (lightDistance : ℚ) (color : Color) : LightSource :=
  ⟨none, some 0, ⟨true, lightDistance, color⟩⟩

/-- No light source starts to share a deleted texture, and no custom texture is replaced. -/
def Careful (lights : Lights) (operation : Operation) : Prop :=
  lights.AvoidsDeleted operation ∧ lights.KeepsCustom operation

section Added

variable (sources : List LightSource)

/-- The next light source is constructed. -/
def constructed (sources : List LightSource) : Lights :=
  { added sources with sources := (added sources).sources ++ [some .new] }

theorem source_constructed : (constructed sources).source sources.length = some .new := by
  simp [constructed, added, source]

/-- The first light source creates the render texture, and the others find it. -/
theorem getSharedTexture_added :
    LightTexture.getSharedTexture (added sources).textures =
      (some 0, ⟨sources.length, some 0, Heap.empty.allocate, []⟩) := by
  cases sources with
  | nil => rfl
  | cons source rest => rfl

variable (lightDistance : ℚ) (color : Color)

theorem step_constructed :
    step (.setLightProperties sources.length lightDistance color) (constructed sources) =
      some (added (sources ++ [sharing lightDistance color])) := by
  have unshared : LightSource.new.sharedTexture = none := rfl
  have textures : (constructed sources).textures = (added sources).textures := rfl
  rw [step, source_constructed, Option.map_some, Option.some_inj,
    LightSource.setLightProperties_of_none unshared, textures, getSharedTexture_added]
  simp [added, constructed, sharing, LightTexture.retainSharedTexture]

theorem careful_constructed :
    (constructed sources).Careful (.setLightProperties sources.length lightDistance color) := by
  constructor
  · intro source found unshared unused
    have none : sources = [] := by
      have zero : (sources.length : Int) = 0 := unused
      simpa using zero
    subst none
    rfl
  · intro source found
    rw [source_constructed] at found
    cases found
    rfl

theorem runActions_added :
    runActions step [.construct, .setLightProperties sources.length lightDistance color]
        (added sources) =
      some (added (sources ++ [sharing lightDistance color])) := by
  have made : step .construct (added sources) = some (constructed sources) := rfl
  rw [runActions, made, Option.bind_some, runActions, step_constructed]
  rfl

theorem meets_added :
    Meets step Careful [.construct, .setLightProperties sources.length lightDistance color]
      (added sources) := by
  rintro next ⟨⟩
  refine ⟨⟨trivial, trivial⟩, ?_⟩
  intro next _
  exact ⟨careful_constructed sources lightDistance color, trivial⟩

variable (lights : List PlacedLight)

theorem runActions_addLights :
    runActions step (addLights lights sources.length) (added sources) =
      some (added (sources ++ lights.map fun light => sharing light.radius light.color)) := by
  induction lights generalizing sources with
  | nil => simp [addLights, runActions]
  | cons light rest ih =>
      have later := ih (sources ++ [sharing light.radius light.color])
      rw [List.length_append, List.length_singleton, List.append_assoc] at later
      rw [addLights, runActions_append, addLight, runActions_added, Option.bind_some, later]
      rfl

theorem meets_addLights :
    Meets step Careful (addLights lights sources.length) (added sources) := by
  induction lights generalizing sources with
  | nil => trivial
  | cons light rest ih =>
      have later := ih (sources ++ [sharing light.radius light.color])
      rw [List.length_append, List.length_singleton] at later
      apply Meets.append (meets_added sources light.radius light.color)
      intro final ran
      rw [runActions_added] at ran
      cases ran
      exact later

end Added

/-- The render texture has been created, and no other, and these light sources are alive. -/
structure Made (lights : Lights) (alive : Nat → Prop) : Prop where
  renderTexture : lights.textures.renderTexture = some 0
  allocated : lights.textures.created.allocated = 1
  sources : ∀ index, (∃ source, lights.source index = some source) ↔ alive index

section Made

variable {lights next : Lights} {alive : Nat → Prop}

theorem made_added {sources : List LightSource} (some : sources ≠ []) :
    (added sources).Made (· < sources.length) where
  renderTexture := if_neg some
  allocated := congrArg Heap.allocated (if_neg some)
  sources index := by
    simp only [source_eq_some_iff, added]
    constructor
    · rintro ⟨_, found⟩
      simpa using (List.getElem?_eq_some_iff.mp found).1
    · intro below
      exact ⟨sources[index], by simp [below]⟩

theorem releaseSharedTexture_created (textures : Textures) :
    (LightTexture.releaseSharedTexture textures).renderTexture = textures.renderTexture ∧
      (LightTexture.releaseSharedTexture textures).created.allocated =
        textures.created.allocated := by
  have deleted (textures : Textures) :
      (LightTexture.deleteSharedTexture textures).renderTexture = textures.renderTexture ∧
        (LightTexture.deleteSharedTexture textures).created.allocated =
          textures.created.allocated := by
    rw [LightTexture.deleteSharedTexture]
    split
    · exact ⟨rfl, rfl⟩
    · exact ⟨rfl, rfl⟩
  rw [LightTexture.releaseSharedTexture]
  split
  · split
    · exact deleted _
    · exact ⟨rfl, rfl⟩
  · split
    · exact deleted _
    · exact ⟨rfl, rfl⟩

theorem Made.release (made : lights.Made alive) {index : Nat} {source : LightSource}
    (found : lights.source index = some source) (slot : Option LightSource)
    (calls : List TextureCall) :
    Made ⟨{ (source.releaseSharedTexture lights.textures).2 with calls },
      lights.sources.set index slot⟩ fun other => alive other ∧ (other = index → slot.isSome) := by
  have same : (source.releaseSharedTexture lights.textures).2.renderTexture =
      lights.textures.renderTexture ∧
        (source.releaseSharedTexture lights.textures).2.created.allocated =
          lights.textures.created.allocated := by
    rw [LightSource.releaseSharedTexture]
    split
    · exact releaseSharedTexture_created lights.textures
    · exact ⟨rfl, rfl⟩
  constructor
  · exact same.1.trans made.renderTexture
  · exact same.2.trans made.allocated
  · intro other
    by_cases this : other = index
    · subst this
      have below := (List.getElem?_eq_some_iff.mp (source_eq_some_iff.mp found)).1
      have lives : alive other := (made.sources other).mp ⟨source, found⟩
      simp only [Lights.source, List.getElem?_set_self below, Option.join_some, lives, true_and,
        forall_const, Option.isSome_iff_exists]
    · have kept : (lights.sources.set index slot)[other]? = lights.sources[other]? :=
        List.getElem?_set_ne (Ne.symm this)
      rw [Lights.source, kept, and_iff_left fun same => absurd same this]
      exact made.sources other

theorem Made.setTexture (made : lights.Made alive) {index : Nat} (lives : alive index)
    (texture : Texture) :
    ∃ next, step (.setTexture index (some texture)) lights = some next ∧ next.Made alive := by
  obtain ⟨source, found⟩ := (made.sources index).mpr lives
  obtain ⟨result, set⟩ : ∃ result,
    source.setTexture (some texture) lights.textures = some result := ⟨_, rfl⟩
  obtain ⟨-, calls, after⟩ := LightSource.setTexture_eq_some set
  refine ⟨⟨result.2, lights.sources.set index (some result.1)⟩, ?_, ?_⟩
  · rw [step, found, Option.bind_some, set]
    rfl
  · rw [after]
    simpa using made.release found (some result.1) calls

theorem Made.destroy (made : lights.Made alive) {index : Nat} (lives : alive index) :
    ∃ next, step (.destroy index) lights = some next ∧
      next.Made fun other => alive other ∧ other ≠ index := by
  obtain ⟨source, found⟩ := (made.sources index).mpr lives
  obtain ⟨calls, destroyed⟩ := source.destroy_eq lights.textures
  refine ⟨⟨source.destroy lights.textures, lights.sources.set index none⟩, ?_, ?_⟩
  · rw [step, found]
    rfl
  · rw [destroyed]
    simpa using made.release found none calls

/-- Light sources are destroyed in any order. -/
theorem Made.destroyAll (made : lights.Made alive) {gone : List Nat} (once : gone.Nodup)
    (lives : ∀ index ∈ gone, alive index) :
    ∃ final, runActions step (gone.map .destroy) lights = some final ∧
      final.Made fun other => alive other ∧ other ∉ gone := by
  induction gone generalizing lights alive with
  | nil => exact ⟨lights, rfl, by simpa using made⟩
  | cons index rest ih =>
      obtain ⟨first, others⟩ := List.forall_mem_cons.mp lives
      obtain ⟨absent, distinct⟩ := List.nodup_cons.mp once
      obtain ⟨next, stepped, still⟩ := made.destroy first
      have remain : ∀ other ∈ rest, alive other ∧ other ≠ index := fun other member =>
        ⟨others other member, ne_of_mem_of_not_mem member absent⟩
      obtain ⟨final, ran, left⟩ := ih still distinct remain
      refine ⟨final, ?_, ?_⟩
      · rw [List.map_cons, runActions, stepped]
        exact ran
      · simpa [and_assoc] using left

end Made

/-! ## The whole game -/

section Game

variable (lights : List PlacedLight) (flashlight : Texture)

/-- When the light source of the player has been made as well, before it is given its
texture. -/
def lit (lights : List PlacedLight) : Lights :=
  added (lights.map (fun light => sharing light.radius light.color) ++
    [sharing 300 ⟨1, 1, 1, 1 / 2⟩])

/-- The last call of the constructor of `Player`. -/
def equip (lights : List PlacedLight) (flashlight : Texture) : List Operation :=
  [.setTexture lights.length (some flashlight)]

theorem makeLights_eq :
    makeLights lights flashlight = (addLights lights 0 ++
      [.construct, .setLightProperties lights.length 300 ⟨1, 1, 1, 1 / 2⟩]) ++
        equip lights flashlight := by
  rw [makeLights, addPlayer, equip, List.append_assoc]
  rfl

theorem runActions_lit :
    runActions step (addLights lights 0 ++
      [.construct, .setLightProperties lights.length 300 ⟨1, 1, 1, 1 / 2⟩]) start =
        some (lit lights) := by
  have loaded : runActions step (addLights lights 0) start =
      some (added (lights.map fun light => sharing light.radius light.color)) :=
    runActions_addLights [] lights
  have player := runActions_added (lights.map fun light => sharing light.radius light.color) 300
    ⟨1, 1, 1, 1 / 2⟩
  rw [List.length_map] at player
  rw [runActions_append, loaded]
  exact player

theorem meets_lit :
    Meets step Careful (addLights lights 0 ++
      [.construct, .setLightProperties lights.length 300 ⟨1, 1, 1, 1 / 2⟩]) start := by
  have player := meets_added (lights.map fun light => sharing light.radius light.color) 300
    ⟨1, 1, 1, 1 / 2⟩
  rw [List.length_map] at player
  apply Meets.append (meets_addLights [] lights)
  intro final ran
  cases (runActions_addLights [] lights).symm.trans ran
  exact player

theorem made_lit : (lit lights).Made (· < lights.length + 1) := by
  simpa [lit] using made_added (List.append_ne_nil_of_right_ne_nil
    (lights.map fun light => sharing light.radius light.color)
    (List.cons_ne_nil (sharing 300 ⟨1, 1, 1, 1 / 2⟩) []))

theorem source_lit :
    (lit lights).source lights.length = some (sharing 300 ⟨1, 1, 1, 1 / 2⟩) := by
  simp [lit, added, source]

theorem careful_equip :
    (lit lights).Careful (.setTexture lights.length (some flashlight)) := by
  refine ⟨trivial, ?_⟩
  intro source found
  cases (source_lit lights).symm.trans found
  rfl

/-- What the constructors leave of the player's light: the radius that it was given first has
been overwritten with the width of its texture. -/
theorem source_makeLights {final : Lights}
    (ran : runActions step (makeLights lights flashlight) start = some final) :
    final.source lights.length =
      some ⟨some flashlight, none, ⟨false, flashlight.dimensions.x, ⟨1, 1, 1, 1 / 2⟩⟩⟩ := by
  rw [makeLights_eq, runActions_append, runActions_lit, Option.bind_some, equip, runActions] at ran
  obtain ⟨next, stepped, rest⟩ := Option.bind_eq_some_iff.mp ran
  cases rest
  rw [step, source_lit, Option.bind_some] at stepped
  obtain ⟨result, set, rfl⟩ := Option.map_eq_some_iff.mp stepped
  cases set
  have below : lights.length < (lit lights).sources.length := by
    simp [lit, added]
  rw [source, List.getElem?_set_self below, Option.join_some]
  rfl

/-- The constructor of `GameLayer` is careful, and so is every way of destroying the lights. -/
theorem meets_careful (gone : List Nat) :
    Meets step Careful (makeLights lights flashlight ++ gone.map .destroy) start := by
  rw [makeLights_eq, List.append_assoc]
  apply Meets.append (meets_lit lights)
  intro final ran
  cases (runActions_lit lights).symm.trans ran
  intro next _
  refine ⟨careful_equip lights flashlight, ?_⟩
  apply meets_of_forall
  intro operation member state
  obtain ⟨index, -, rfl⟩ := List.mem_map.mp member
  exact ⟨trivial, trivial⟩

/-- Along a careful run the textures are intact and balanced. -/
theorem always_of_careful {operations : List Operation}
    (meets : Meets step Careful operations start) :
    Always step
      (fun state => (state.Linked ∧ state.Exclusive) ∧ state.Intact ∧ state.Balanced)
      operations start := by
  apply meets.always
  · rintro state operation next ⟨⟨linked, exclusive⟩, intact, balanced⟩ ⟨avoids, keeps⟩ stepped
    obtain ⟨linkedNext, kept⟩ := intact_step_iff linked intact stepped
    exact ⟨⟨linkedNext, exclusive_step exclusive stepped⟩, kept.mpr avoids,
      (balanced_step_iff balanced stepped).mpr keeps⟩
  · exact ⟨⟨linked_start, fun _ member => absurd member List.not_mem_nil⟩, intact_start,
      balanced_start⟩

theorem Made.gone {final : Lights} (made : final.Made fun _ => False) :
    ∀ slot ∈ final.sources, slot = none := by
  rintro (_ | source) member
  · rfl
  · obtain ⟨index, found⟩ := List.mem_iff_getElem?.mp member
    exact absurd ⟨source, source_eq_some_iff.mpr found⟩ (made.sources index).mp

/-- When all light sources are gone, so is the render texture. -/
theorem Made.releases {final : Lights} (made : final.Made fun _ => False)
    (linked : final.Linked) (intact : final.Intact) :
    final.textures.created.releases = [0] := by
  have nobody : final.textures.refs = 0 := by
    apply linked.refs_eq_zero_iff.mpr
    intro texture member
    obtain ⟨source, alive, -⟩ := some_mem_shared.mp member
    exact absurd (made.gone _ alive) (Option.some_ne_none source)
  have deleted := linked.unused nobody 0 made.renderTexture
  have only : ∀ texture ∈ final.textures.created.releases, texture = 0 := by
    intro texture member
    exact Option.some.inj ((linked.released texture member).symm.trans made.renderTexture)
  have once := intact.once
  rw [List.eq_replicate_of_mem only, List.nodup_replicate] at once
  rw [List.eq_replicate_of_mem only, le_antisymm once (List.length_pos_of_mem deleted)]
  rfl

/-- The lights of the game: whatever map is loaded, from the constructor of `GameLayer` on
the light sources and their textures are sound and balanced, and when all have been
destroyed, in whatever order, one render texture has been created and deleted, once, and
the texture of the player has been released. -/
theorem sound_makeLights (gone : List Nat) :
    Always step (fun state => state.Sound ∧ state.Balanced)
        (makeLights lights flashlight ++ gone.map .destroy) start ∧
      (gone.Perm (List.range (lights.length + 1)) →
        ∃ final,
          runActions step (makeLights lights flashlight ++ gone.map .destroy) start = some final ∧
          final.textures.created.allocated = 1 ∧ final.textures.created.releases = [0] ∧
            ∀ texture, balance final.textures.calls texture = 0) := by
  have always := always_of_careful (meets_careful lights flashlight gone)
  constructor
  · exact always.mono fun state ⟨⟨linked, exclusive⟩, intact, balanced⟩ =>
      ⟨(sound_iff linked exclusive).mpr intact, balanced⟩
  · intro all
    obtain ⟨equipped, stepped, made⟩ :=
      (made_lit lights).setTexture (Nat.lt_succ_self lights.length) flashlight
    have lives : ∀ index ∈ gone, index < lights.length + 1 := fun index member =>
      List.mem_range.mp (all.subset member)
    obtain ⟨final, ran, left⟩ := made.destroyAll (all.nodup_iff.mpr List.nodup_range) lives
    have whole :
        runActions step (makeLights lights flashlight ++ gone.map .destroy) start = some final := by
      rw [makeLights_eq, List.append_assoc, runActions_append, runActions_lit, Option.bind_some,
        runActions_append, equip, runActions, stepped]
      exact ran
    obtain ⟨⟨linked, -⟩, intact, balanced⟩ := always.last whole
    have empty : final.Made fun _ => False := by
      refine ⟨left.renderTexture, left.allocated, fun index => (left.sources index).trans ?_⟩
      rw [all.mem_iff, List.mem_range]
      exact and_not_self_iff _
    exact ⟨final, whole, empty.allocated, empty.releases linked intact,
      balanced.settled empty.gone⟩

end Game

/-- One light on the map; the player's is destroyed first. -/
theorem sound_makeLights_torch :
    let light : PlacedLight := ⟨⟨100, 32⟩, 256, ⟨1, 1, 1, 1 / 2⟩, "torch"⟩
    let operations := makeLights [light] ⟨7, ⟨512, 256⟩⟩ ++ [1, 0].map .destroy
    Always step (fun state => state.Sound ∧ state.Balanced) operations start ∧
      ∃ final, runActions step operations start = some final ∧
        final.textures.created.allocated = 1 ∧ final.textures.created.releases = [0] ∧
          ∀ texture, balance final.textures.calls texture = 0 := by
  intro light operations
  obtain ⟨always, settled⟩ := sound_makeLights [light] ⟨7, ⟨512, 256⟩⟩ [1, 0]
  exact ⟨always, settled (by decide)⟩

end Lights

end LegendOfStealth.Light
