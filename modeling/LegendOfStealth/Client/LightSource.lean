import LegendOfStealth.Client.Geometry
import LegendOfStealth.Library.Heap
import LegendOfStealth.Library.Transition

/-!
# The shared light texture

The light sources without a texture of their own draw one `RenderTexture`, which
`LightTexture` keeps in static members together with the number of its users.  It is
created for the first user and deleted with the last.

The pointer to it is not reset when it is deleted, so a light source that comes later
is given the deleted texture.
-/

namespace LegendOfStealth.Light

open LegendOfStealth.Library LegendOfStealth.Geometry

/-- A `RenderTexture`, named by the order in which they are created. -/
abbrev RenderTexture := Nat

/-- A custom `Texture`. -/
structure Texture where
  id : Nat
  dimensions : Vec2
  deriving DecidableEq

/-- A call by which a custom texture's users are counted. -/
inductive TextureCall
  | retain (texture : Texture)
  | release (texture : Texture)
  deriving DecidableEq

/-- The static members of `LightTexture`, the render textures there have been, and the
calls on custom textures. -/
structure Textures where
  refs : Int
  renderTexture : Option RenderTexture
  created : Heap
  calls : List TextureCall
  deriving DecidableEq

namespace LightTexture

/-- `CreateSharedTexture`, which draws a disc into the texture. -/
def createSharedTexture (textures : Textures) : Textures :=
  match textures.renderTexture with
  | some texture => { textures with created := textures.created.access texture }
  | none =>
      { textures with
        renderTexture := some textures.created.allocated
        created := textures.created.allocate.access textures.created.allocated }

/-- `DeleteSharedTexture`. -/
def deleteSharedTexture (textures : Textures) : Textures :=
  match textures.renderTexture with
  | some texture => { textures with created := textures.created.release texture }
  | none => textures

/-- `GetSharedTexture`. -/
def getSharedTexture (textures : Textures) : Option RenderTexture × Textures :=
  let textures :=
    if textures.renderTexture = none then createSharedTexture textures else textures
  (textures.renderTexture, textures)

/-- `RetainSharedTexture`. -/
def retainSharedTexture (textures : Textures) : Textures :=
  { textures with refs := textures.refs + 1 }

/-- `ReleaseSharedTexture`. -/
def releaseSharedTexture (textures : Textures) : Textures :=
  let textures :=
    if textures.refs ≠ 0 then { textures with refs := textures.refs - 1 } else textures
  if textures.refs = 0 ∧ textures.renderTexture ≠ none then deleteSharedTexture textures
  else textures

section Specification

variable {textures : Textures} {texture : RenderTexture}

theorem getSharedTexture_of_some (pointer : textures.renderTexture = some texture) :
    getSharedTexture textures = (some texture, textures) := by
  simp [getSharedTexture, pointer]

theorem getSharedTexture_of_none (pointer : textures.renderTexture = none)
    (live : textures.created.allocate.Live textures.created.allocated) :
    getSharedTexture textures =
      (some textures.created.allocated,
        { textures with
          renderTexture := some textures.created.allocated
          created := textures.created.allocate }) := by
  simp [getSharedTexture, createSharedTexture, pointer, Heap.access_of_live live]

theorem releaseSharedTexture_of_some (pointer : textures.renderTexture = some texture)
    (used : textures.refs ≠ 0) :
    releaseSharedTexture textures =
      { textures with
        refs := textures.refs - 1
        created :=
          if textures.refs - 1 = 0 then textures.created.release texture
          else textures.created } := by
  by_cases last : textures.refs - 1 = 0
  · simp [releaseSharedTexture, deleteSharedTexture, pointer, used, last]
  · simp [releaseSharedTexture, pointer, used, last]

end Specification

end LightTexture

/-- `LightSource::Properties`. -/
structure Properties where
  initialized : Bool
  radius : ℚ
  color : Color
  deriving DecidableEq

/-- `LightSource`. -/
structure LightSource where
  texture : Option Texture
  sharedTexture : Option RenderTexture
  properties : Properties
  deriving DecidableEq

namespace LightSource

/-- `LightSource::LightSource`. -/
def new : LightSource :=
  ⟨none, none, ⟨false, 0, ⟨0, 0, 0, 0⟩⟩⟩

/-- `IsUsingSharedTexture`. -/
def isUsingSharedTexture (source : LightSource) : Bool :=
  source.sharedTexture.isSome

/-- `UseSharedTexture`. -/
def useSharedTexture (source : LightSource) (textures : Textures) : LightSource × Textures :=
  let source := { source with texture := none }
  if source.isUsingSharedTexture then (source, textures)
  else
    let (sharedTexture, textures) := LightTexture.getSharedTexture textures
    ({ source with sharedTexture }, LightTexture.retainSharedTexture textures)

/-- `ReleaseSharedTexture`. -/
def releaseSharedTexture (source : LightSource) (textures : Textures) : LightSource × Textures :=
  if source.isUsingSharedTexture then
    ({ source with sharedTexture := none }, LightTexture.releaseSharedTexture textures)
  else (source, textures)

/-- `SetLightProperties`. -/
def setLightProperties (lightDistance : ℚ) (color : Color) (source : LightSource)
    (textures : Textures) : LightSource × Textures :=
  { source with properties := ⟨true, lightDistance, color⟩ }.useSharedTexture textures

/-- `SetTexture`, which dereferences its argument. -/
def setTexture (texture : Option Texture) (source : LightSource) (textures : Textures) :
    Option (LightSource × Textures) :=
  let (source, textures) := source.releaseSharedTexture textures
  texture.map fun texture =>
    ({ source with
        texture := some texture
        properties := { source.properties with
          initialized := false
          radius := texture.dimensions.x } },
      { textures with calls := textures.calls ++ [.retain texture] })

/-- `~LightSource`. -/
def destroy (source : LightSource) (textures : Textures) : Textures :=
  let (source, textures) := source.releaseSharedTexture textures
  match source.texture with
  | some texture => { textures with calls := textures.calls ++ [.release texture] }
  | none => textures

section Specification

variable {source : LightSource} {textures : Textures}

theorem setLightProperties_of_some {texture : RenderTexture}
    (shares : source.sharedTexture = some texture) (lightDistance : ℚ) (color : Color) :
    source.setLightProperties lightDistance color textures =
      ({ source with texture := none, properties := ⟨true, lightDistance, color⟩ }, textures) := by
  simp [setLightProperties, useSharedTexture, isUsingSharedTexture, shares]

theorem setLightProperties_of_none (unshared : source.sharedTexture = none) (lightDistance : ℚ)
    (color : Color) :
    source.setLightProperties lightDistance color textures =
      (⟨none, (LightTexture.getSharedTexture textures).1, ⟨true, lightDistance, color⟩⟩,
        LightTexture.retainSharedTexture (LightTexture.getSharedTexture textures).2) := by
  simp [setLightProperties, useSharedTexture, isUsingSharedTexture, unshared]

theorem releaseSharedTexture_of_some {texture : RenderTexture}
    (shares : source.sharedTexture = some texture) :
    source.releaseSharedTexture textures =
      ({ source with sharedTexture := none }, LightTexture.releaseSharedTexture textures) := by
  simp [releaseSharedTexture, isUsingSharedTexture, shares]

theorem releaseSharedTexture_of_none (unshared : source.sharedTexture = none) :
    source.releaseSharedTexture textures = (source, textures) := by
  simp [releaseSharedTexture, isUsingSharedTexture, unshared]

theorem sharedTexture_releaseSharedTexture :
    (source.releaseSharedTexture textures).1.sharedTexture = none := by
  cases shares : source.sharedTexture with
  | some texture => rw [releaseSharedTexture_of_some shares]
  | none =>
      rw [releaseSharedTexture_of_none shares]
      exact shares

/-- A light source with a texture of its own does not share. -/
theorem setTexture_eq_some {texture : Option Texture} {result : LightSource × Textures}
    (set : source.setTexture texture textures = some result) :
    result.1.sharedTexture = none ∧
      ∃ calls, result.2 = { (source.releaseSharedTexture textures).2 with calls } := by
  rcases Option.map_eq_some_iff.mp set with ⟨texture, rfl, rfl⟩
  exact ⟨sharedTexture_releaseSharedTexture, _, rfl⟩

theorem destroy_eq (source : LightSource) (textures : Textures) :
    ∃ calls, source.destroy textures =
      { (source.releaseSharedTexture textures).2 with calls } := by
  let after := (source.releaseSharedTexture textures).2
  cases own : (source.releaseSharedTexture textures).1.texture with
  | some texture => exact ⟨after.calls ++ [.release texture], by simp only [destroy, own]; rfl⟩
  | none => exact ⟨after.calls, by simp only [destroy, own]; rfl⟩

end Specification

end LightSource

/-- The static members and every light source that was constructed, in that order; a
destroyed one is `none`. -/
structure Lights where
  textures : Textures
  sources : List (Option LightSource)
  deriving DecidableEq

/-- What is done with a light source. -/
inductive Operation
  | construct
  | setLightProperties (index : Nat) (lightDistance : ℚ) (color : Color)
  | setTexture (index : Nat) (texture : Option Texture)
  | destroy (index : Nat)

namespace Lights

/-- Before the first light source. -/
def start : Lights :=
  ⟨⟨0, none, .empty, []⟩, []⟩

/-- The light source at an index, if it is alive. -/
def source (lights : Lights) (index : Nat) : Option LightSource :=
  lights.sources[index]?.join

/-- One operation.  It is possible on a light source that is alive. -/
def step : Step Operation Lights
  | .construct, lights => some { lights with sources := lights.sources ++ [some .new] }
  | .setLightProperties index lightDistance color, lights =>
      (lights.source index).map fun source =>
        let result := source.setLightProperties lightDistance color lights.textures
        ⟨result.2, lights.sources.set index (some result.1)⟩
  | .setTexture index texture, lights =>
      (lights.source index).bind fun source =>
        (source.setTexture texture lights.textures).map fun result =>
          ⟨result.2, lights.sources.set index (some result.1)⟩
  | .destroy index, lights =>
      (lights.source index).map fun source =>
        ⟨source.destroy lights.textures, lights.sources.set index none⟩

/-- The count is right, what is shared exists, no light source has two textures, and no
render texture has been deleted twice. -/
structure Sound (lights : Lights) : Prop where
  counted : lights.textures.refs =
    lights.sources.countP (·.any LightSource.isUsingSharedTexture)
  live : ∀ source, some source ∈ lights.sources → ∀ texture,
    source.sharedTexture = some texture → lights.textures.created.Live texture
  exclusive : ∀ source, some source ∈ lights.sources →
    ¬ (source.sharedTexture.isSome ∧ source.texture.isSome)
  once : lights.textures.created.releases.Nodup

/-- No light source starts to share the texture that was deleted with its last user. -/
def AvoidsDeleted (lights : Lights) : Operation → Prop
  | .setLightProperties index _ _ =>
      ∀ source, lights.source index = some source → source.sharedTexture = none →
        lights.textures.refs = 0 → lights.textures.renderTexture = none
  | _ => True

/-- The shared textures that the light sources point to. -/
def shared (lights : Lights) : List (Option RenderTexture) :=
  lights.sources.map (·.bind LightSource.sharedTexture)

theorem countP_shared (lights : Lights) :
    lights.shared.countP Option.isSome =
      lights.sources.countP (·.any LightSource.isUsingSharedTexture) := by
  rw [shared, List.countP_map]
  apply List.countP_congr
  intro slot _
  cases slot <;> rfl

theorem some_mem_shared {lights : Lights} {texture : RenderTexture} :
    some texture ∈ lights.shared ↔
      ∃ source, some source ∈ lights.sources ∧ source.sharedTexture = some texture := by
  simp only [shared, List.mem_map, Option.bind_eq_some_iff]
  constructor
  · rintro ⟨_, member, source, rfl, shares⟩
    exact ⟨source, member, shares⟩
  · rintro ⟨source, member, shares⟩
    exact ⟨some source, member, source, rfl, shares⟩

theorem source_eq_some_iff {lights : Lights} {index : Nat} {source : LightSource} :
    lights.source index = some source ↔ lights.sources[index]? = some (some source) :=
  Option.join_eq_some_iff

theorem shared_getElem? {lights : Lights} {index : Nat} {source : LightSource}
    (found : lights.source index = some source) :
    lights.shared[index]? = some source.sharedTexture := by
  rw [shared, List.getElem?_map, source_eq_some_iff.mp found]
  rfl

theorem shared_set (textures : Textures) (lights : Lights) (index : Nat)
    (slot : Option LightSource) :
    (⟨textures, lights.sources.set index slot⟩ : Lights).shared =
      lights.shared.set index (slot.bind LightSource.sharedTexture) := by
  rw [shared, shared, List.map_set]

theorem shared_set_self {lights : Lights} {index : Nat} {pointer : Option RenderTexture}
    (there : lights.shared[index]? = some pointer) :
    lights.shared.set index pointer = lights.shared := by
  rcases List.getElem?_eq_some_iff.mp there with ⟨_, rfl⟩
  exact List.set_getElem_self _

/-- A step leaves the shared texture alone, or one light source starts or stops sharing
it. -/
inductive Effect (lights : Lights) (operation : Operation) (next : Lights) : Prop
  | idle (calls : List TextureCall) :
      next.textures = { lights.textures with calls } →
      next.shared = lights.shared ∨ next.shared = lights.shared ++ [none] →
      lights.AvoidsDeleted operation → Effect lights operation next
  | joins (index : Nat) :
      lights.shared[index]? = some none →
      next.textures = LightTexture.retainSharedTexture
        (LightTexture.getSharedTexture lights.textures).2 →
      next.shared = lights.shared.set index (LightTexture.getSharedTexture lights.textures).1 →
      (lights.AvoidsDeleted operation ↔
        (lights.textures.refs = 0 → lights.textures.renderTexture = none)) →
      Effect lights operation next
  | leaves (index : Nat) (texture : RenderTexture) (calls : List TextureCall) :
      lights.shared[index]? = some (some texture) →
      next.textures = { LightTexture.releaseSharedTexture lights.textures with calls } →
      next.shared = lights.shared.set index none →
      lights.AvoidsDeleted operation → Effect lights operation next

theorem Effect.ofRelease {lights : Lights} {operation : Operation} {index : Nat}
    {source : LightSource} {slot : Option LightSource} {calls : List TextureCall}
    (found : lights.source index = some source)
    (unshared : slot.bind LightSource.sharedTexture = none)
    (avoids : lights.AvoidsDeleted operation) :
    Effect lights operation
      ⟨{ (source.releaseSharedTexture lights.textures).2 with calls },
        lights.sources.set index slot⟩ := by
  have there := shared_getElem? found
  cases shares : source.sharedTexture with
  | none =>
      apply Effect.idle calls
      · rw [LightSource.releaseSharedTexture_of_none shares]
      · left
        rw [shared_set, unshared, ← shares, shared_set_self there]
      · exact avoids
  | some texture =>
      rw [shares] at there
      apply Effect.leaves index texture calls there
      · rw [LightSource.releaseSharedTexture_of_some shares]
      · rw [shared_set, unshared]
      · exact avoids

theorem step_effect {lights next : Lights} {operation : Operation}
    (stepped : step operation lights = some next) : Effect lights operation next := by
  cases operation with
  | construct =>
      cases stepped
      apply Effect.idle lights.textures.calls
      · rfl
      · right
        rw [shared, List.map_append]
        rfl
      · trivial
  | setLightProperties index lightDistance color =>
      rcases Option.map_eq_some_iff.mp stepped with ⟨source, found, rfl⟩
      have there := shared_getElem? found
      cases shares : source.sharedTexture with
      | some texture =>
          simp only [LightSource.setLightProperties_of_some shares]
          apply Effect.idle lights.textures.calls
          · rfl
          · left
            rw [shared_set]
            exact shared_set_self there
          · intro other same unshared
            rw [found] at same
            cases same
            rw [shares] at unshared
            contradiction
      | none =>
          simp only [LightSource.setLightProperties_of_none shares]
          rw [shares] at there
          apply Effect.joins index there
          · rfl
          · exact shared_set ..
          · simp [AvoidsDeleted, found, shares]
  | setTexture index texture =>
      rcases Option.bind_eq_some_iff.mp stepped with ⟨source, found, mapped⟩
      rcases Option.map_eq_some_iff.mp mapped with ⟨result, set, rfl⟩
      rcases LightSource.setTexture_eq_some set with ⟨unshared, calls, after⟩
      rw [after]
      exact .ofRelease found unshared trivial
  | destroy index =>
      rcases Option.map_eq_some_iff.mp stepped with ⟨source, found, rfl⟩
      rcases source.destroy_eq lights.textures with ⟨calls, after⟩
      rw [after]
      exact .ofRelease found rfl trivial

/-! ## The invariant -/

/-- The pointer and the count agree with what the light sources point to, and with the
textures that were created and deleted. -/
structure Linked (lights : Lights) : Prop where
  counted : lights.textures.refs = lights.shared.countP Option.isSome
  pointed : ∀ texture, some texture ∈ lights.shared →
    lights.textures.renderTexture = some texture
  allocated : ∀ texture, lights.textures.renderTexture = some texture →
    texture < lights.textures.created.allocated
  unused : lights.textures.refs = 0 → ∀ texture, lights.textures.renderTexture = some texture →
    texture ∈ lights.textures.created.releases
  released : ∀ texture ∈ lights.textures.created.releases,
    lights.textures.renderTexture = some texture

/-- What is shared exists, and no render texture has been deleted twice. -/
structure Intact (lights : Lights) : Prop where
  live : ∀ texture, some texture ∈ lights.shared → lights.textures.created.Live texture
  once : lights.textures.created.releases.Nodup

/-- Nobody shares if the count is zero. -/
theorem Linked.refs_eq_zero_iff {lights : Lights} (linked : lights.Linked) :
    lights.textures.refs = 0 ↔ ∀ texture, some texture ∉ lights.shared := by
  rw [linked.counted, Int.natCast_eq_zero, List.countP_eq_zero]
  constructor
  · intro none texture member
    exact none _ member rfl
  · rintro none (_ | texture) member
    · exact Bool.false_ne_true
    · exact absurd member (none texture)

/-- After one more light source points to a texture, all point to it, if the pointer
points nowhere else. -/
theorem Linked.eq_of_mem_set {lights : Lights} (linked : lights.Linked) {index : Nat}
    {texture other : RenderTexture}
    (only : ∀ pointed, lights.textures.renderTexture = some pointed → pointed = texture)
    (member : some other ∈ lights.shared.set index (some texture)) : other = texture := by
  rcases List.mem_or_eq_of_mem_set member with old | new
  · exact only other (linked.pointed other old)
  · exact Option.some.inj new

/-- Who stops sharing leaves the others as they were. -/
theorem mem_of_mem_set_none {shared : List (Option RenderTexture)} {index : Nat}
    {texture : RenderTexture} (member : some texture ∈ shared.set index none) :
    some texture ∈ shared := by
  rcases List.mem_or_eq_of_mem_set member with old | new
  · exact old
  · contradiction

theorem linked_start : start.Linked where
  counted := rfl
  pointed _ member := absurd member List.not_mem_nil
  allocated _ := nofun
  unused _ _ := nofun
  released _ member := absurd member List.not_mem_nil

theorem intact_start : start.Intact where
  live _ member := absurd member List.not_mem_nil
  once := List.nodup_nil

section Step

variable {lights next : Lights}

/-- A step that leaves the shared texture alone. -/
theorem linked_idle (linked : lights.Linked) {calls : List TextureCall}
    (textures : next.textures = { lights.textures with calls })
    (shared : next.shared = lights.shared ∨ next.shared = lights.shared ++ [none]) :
    next.Linked ∧ (next.Intact ↔ lights.Intact) := by
  have same (texture : RenderTexture) :
      some texture ∈ next.shared ↔ some texture ∈ lights.shared := by
    rcases shared with same | appended
    · rw [same]
    · simp [appended]
  have count : next.shared.countP Option.isSome = lights.shared.countP Option.isSome := by
    rcases shared with same | appended
    · rw [same]
    · simp [appended]
  constructor
  · constructor
    · rw [textures, count]
      exact linked.counted
    · intro texture member
      rw [textures]
      exact linked.pointed texture ((same texture).mp member)
    · rw [textures]
      exact linked.allocated
    · rw [textures]
      exact linked.unused
    · rw [textures]
      exact linked.released
  · constructor
    · rintro ⟨live, once⟩
      rw [textures] at live once
      exact ⟨fun texture member => live texture ((same texture).mpr member), once⟩
    · rintro ⟨live, once⟩
      constructor
      · intro texture member
        rw [textures]
        exact live texture ((same texture).mp member)
      · rw [textures]
        exact once

theorem countP_set {α : Type} (kind : α → Bool) {xs : List α} {index : Nat} {before : α}
    (there : xs[index]? = some before) (after : α) :
    (xs.set index after).countP kind + (if kind before then 1 else 0) =
      xs.countP kind + if kind after then 1 else 0 := by
  rcases List.getElem?_eq_some_iff.mp there with ⟨below, rfl⟩
  rw [List.countP_set below]
  by_cases counts : kind xs[index]
  · have counted : 0 < xs.countP kind :=
      List.countP_pos_iff.mpr ⟨_, List.getElem_mem below, counts⟩
    rw [if_pos counts]
    omega
  · rw [if_neg counts]
    omega

theorem countP_set_some {shared : List (Option RenderTexture)} {index : Nat}
    (there : shared[index]? = some none) (texture : RenderTexture) :
    (shared.set index (some texture)).countP Option.isSome = shared.countP Option.isSome + 1 :=
  countP_set Option.isSome there (some texture)

theorem countP_set_none {shared : List (Option RenderTexture)} {index : Nat}
    {texture : RenderTexture} (there : shared[index]? = some (some texture)) :
    (shared.set index none).countP Option.isSome + 1 = shared.countP Option.isSome :=
  countP_set Option.isSome there none

/-- A light source starts to share the texture to which all others point. -/
theorem Linked.joins (linked : lights.Linked) {index : Nat} {texture : RenderTexture}
    (there : lights.shared[index]? = some none)
    (only : ∀ pointed, lights.textures.renderTexture = some pointed → pointed = texture)
    (refs : next.textures.refs = lights.textures.refs + 1)
    (shared : next.shared = lights.shared.set index (some texture))
    (pointer : next.textures.renderTexture = some texture)
    (allocated : texture < next.textures.created.allocated)
    (released : ∀ other ∈ next.textures.created.releases, other = texture) : next.Linked where
  counted := by
    rw [refs, shared, countP_set_some there, linked.counted]
    rfl
  pointed other member := by
    rw [shared] at member
    rw [linked.eq_of_mem_set only member]
    exact pointer
  allocated other pointed := by
    rw [← Option.some.inj (pointer.symm.trans pointed)]
    exact allocated
  unused zero := by
    have counted := linked.counted
    omega
  released other member := by
    rw [released other member]
    exact pointer

/-- All light sources that share point to the same texture. -/
theorem Linked.eq_of_mem (linked : lights.Linked) {texture other : RenderTexture}
    (pointer : lights.textures.renderTexture = some texture)
    (member : some other ∈ lights.shared) : other = texture :=
  Option.some.inj ((linked.pointed other member).symm.trans pointer)

theorem linked_joins_of_none (linked : lights.Linked) (intact : lights.Intact) {index : Nat}
    (there : lights.shared[index]? = some none) (pointer : lights.textures.renderTexture = none)
    (textures : next.textures = LightTexture.retainSharedTexture
      (LightTexture.getSharedTexture lights.textures).2)
    (shared : next.shared =
      lights.shared.set index (LightTexture.getSharedTexture lights.textures).1) :
    next.Linked ∧ next.Intact := by
  have nothing : lights.textures.created.releases = [] := by
    apply List.eq_nil_iff_forall_not_mem.mpr
    intro texture member
    have pointed := linked.released texture member
    rw [pointer] at pointed
    contradiction
  have live : lights.textures.created.allocate.Live lights.textures.created.allocated :=
    ⟨Nat.lt_succ_self _, by simp [nothing]⟩
  rw [LightTexture.getSharedTexture_of_none pointer live] at textures shared
  have created : next.textures.created = lights.textures.created.allocate := by
    rw [textures]; rfl
  have pointerNext : next.textures.renderTexture = some lights.textures.created.allocated := by
    rw [textures]; rfl
  have linkedNext : next.Linked := by
    apply linked.joins there _ _ shared pointerNext
    · rw [created]
      exact Nat.lt_succ_self _
    · intro texture member
      rw [created, Heap.releases_allocate, nothing] at member
      exact absurd member List.not_mem_nil
    · intro pointed other
      rw [pointer] at other
      contradiction
    · rw [textures]
      rfl
  refine ⟨linkedNext, ?_, ?_⟩
  · intro texture member
    rw [created, linkedNext.eq_of_mem pointerNext member]
    exact live
  · rw [created]
    exact intact.once

/-- Another light source starts to share: the texture exists exactly if it has users. -/
theorem linked_joins_of_some (linked : lights.Linked) (intact : lights.Intact) {index : Nat}
    {texture : RenderTexture} (there : lights.shared[index]? = some none)
    (pointer : lights.textures.renderTexture = some texture)
    (textures : next.textures = LightTexture.retainSharedTexture
      (LightTexture.getSharedTexture lights.textures).2)
    (shared : next.shared =
      lights.shared.set index (LightTexture.getSharedTexture lights.textures).1) :
    next.Linked ∧ (next.Intact ↔ lights.textures.refs ≠ 0) := by
  rw [LightTexture.getSharedTexture_of_some pointer] at textures shared
  have created : next.textures.created = lights.textures.created := by rw [textures]; rfl
  have pointerNext : next.textures.renderTexture = some texture := by
    rw [textures]
    exact pointer
  have linkedNext : next.Linked := by
    apply linked.joins there _ _ shared pointerNext
    · rw [created]
      exact linked.allocated texture pointer
    · intro other member
      rw [created] at member
      exact Option.some.inj ((linked.released other member).symm.trans pointer)
    · intro pointed other
      exact Option.some.inj (other.symm.trans pointer)
    · rw [textures]
      rfl
  refine ⟨linkedNext, ?_, ?_⟩
  · intro after zero
    have member : some texture ∈ next.shared := by
      rw [shared]
      exact List.mem_of_getElem? (List.getElem?_set_self (List.getElem?_eq_some_iff.mp there).1)
    have live := after.live texture member
    rw [created] at live
    exact live.2 (linked.unused zero texture pointer)
  · intro used
    have shares : some texture ∈ lights.shared := by
      by_contra absent
      apply used
      apply linked.refs_eq_zero_iff.mpr
      intro other member
      rw [linked.eq_of_mem pointer member] at member
      exact absent member
    constructor
    · intro other member
      rw [created, linkedNext.eq_of_mem pointerNext member]
      exact intact.live texture shares
    · rw [created]
      exact intact.once

/-- The texture is released with its last user and is live until then. -/
theorem Intact.leaves (intact : lights.Intact) (linkedNext : next.Linked)
    {texture : RenderTexture} (member : some texture ∈ lights.shared)
    (refs : next.textures.refs = lights.textures.refs - 1)
    (created : next.textures.created =
      if lights.textures.refs - 1 = 0 then lights.textures.created.release texture
      else lights.textures.created)
    (remain : ∀ other, some other ∈ next.shared → some other ∈ lights.shared) : next.Intact := by
  by_cases last : lights.textures.refs - 1 = 0
  · rw [if_pos last] at created
    constructor
    · intro other shares
      exact absurd shares (linkedNext.refs_eq_zero_iff.mp (refs.trans last) other)
    · rw [created]
      exact Heap.nodup_releases_release intact.once (intact.live texture member)
  · rw [if_neg last] at created
    constructor
    · intro other shares
      rw [created]
      exact intact.live other (remain other shares)
    · rw [created]
      exact intact.once

/-- A light source stops sharing; the texture is deleted with its last user. -/
theorem linked_leaves (linked : lights.Linked) {index : Nat} {texture : RenderTexture}
    {calls : List TextureCall} (there : lights.shared[index]? = some (some texture))
    (textures : next.textures = { LightTexture.releaseSharedTexture lights.textures with calls })
    (shared : next.shared = lights.shared.set index none) :
    next.Linked ∧ (lights.Intact → next.Intact) := by
  have counted := linked.counted
  have member := List.mem_of_getElem? there
  have pointer := linked.pointed texture member
  have used : lights.textures.refs ≠ 0 :=
    fun zero => linked.refs_eq_zero_iff.mp zero texture member
  rw [LightTexture.releaseSharedTexture_of_some pointer used] at textures
  have refs : next.textures.refs = lights.textures.refs - 1 := by rw [textures]
  have created : next.textures.created =
      if lights.textures.refs - 1 = 0 then lights.textures.created.release texture
      else lights.textures.created := by rw [textures]
  have pointerNext : next.textures.renderTexture = lights.textures.renderTexture := by
    rw [textures]
  have remain : ∀ other, some other ∈ next.shared → some other ∈ lights.shared :=
    fun other member => mem_of_mem_set_none (shared ▸ member)
  have linkedNext : next.Linked := by
    constructor
    · have left := countP_set_none there
      rw [refs, shared]
      omega
    · intro other member
      rw [pointerNext]
      exact linked.pointed other (remain other member)
    · intro other pointed
      have allocated := linked.allocated other (pointerNext ▸ pointed)
      rw [created]
      split <;> exact allocated
    · intro last other pointed
      rw [refs] at last
      rw [pointerNext, pointer] at pointed
      rw [created, if_pos last, ← Option.some.inj pointed]
      exact List.mem_append_right _ (List.mem_singleton_self _)
    · intro other member
      rw [pointerNext]
      rw [created] at member
      split at member
      · rcases List.mem_append.mp member with earlier | last
        · exact linked.released other earlier
        · rw [List.mem_singleton.mp last]
          exact pointer
      · exact linked.released other member
  exact ⟨linkedNext, fun intact => intact.leaves linkedNext member refs created remain⟩

/-- A step keeps the render textures intact exactly if it avoids the deleted one. -/
theorem intact_step_iff (linked : lights.Linked) (intact : lights.Intact) {operation : Operation}
    (stepped : step operation lights = some next) :
    next.Linked ∧ (next.Intact ↔ lights.AvoidsDeleted operation) := by
  cases step_effect stepped with
  | idle calls textures shared avoids =>
      rcases linked_idle linked textures shared with ⟨linkedNext, same⟩
      exact ⟨linkedNext, iff_of_true (same.mpr intact) avoids⟩
  | joins index there textures shared avoids =>
      rw [avoids]
      cases pointer : lights.textures.renderTexture with
      | none =>
          rcases linked_joins_of_none linked intact there pointer textures shared with
            ⟨linkedNext, intactNext⟩
          exact ⟨linkedNext, iff_of_true intactNext fun _ => rfl⟩
      | some texture =>
          rcases linked_joins_of_some linked intact there pointer textures shared with
            ⟨linkedNext, used⟩
          refine ⟨linkedNext, used.trans ?_⟩
          simp
  | leaves index texture calls there textures shared avoids =>
      rcases linked_leaves linked there textures shared with ⟨linkedNext, keeps⟩
      exact ⟨linkedNext, iff_of_true (keeps intact) avoids⟩

end Step

/-- No light source has both a shared and a custom texture. -/
def Exclusive (lights : Lights) : Prop :=
  ∀ source, some source ∈ lights.sources →
    ¬ (source.sharedTexture.isSome ∧ source.texture.isSome)

/-- A light source that was just set has at most one texture. -/
theorem exclusive_set {lights : Lights} (exclusive : lights.Exclusive) (textures : Textures)
    (index : Nat) {slot : Option LightSource}
    (single : ∀ source, slot = some source →
      source.sharedTexture = none ∨ source.texture = none) :
    (⟨textures, lights.sources.set index slot⟩ : Lights).Exclusive := by
  rintro source member ⟨shares, owns⟩
  rcases List.mem_or_eq_of_mem_set member with old | new
  · exact exclusive source old ⟨shares, owns⟩
  · rcases single source new.symm with unshared | unowned
    · rw [unshared] at shares
      contradiction
    · rw [unowned] at owns
      contradiction

theorem exclusive_step {lights next : Lights} {operation : Operation}
    (exclusive : lights.Exclusive) (stepped : step operation lights = some next) :
    next.Exclusive := by
  cases operation with
  | construct =>
      cases stepped
      rintro source member ⟨shares, owns⟩
      rcases List.mem_append.mp member with old | new
      · exact exclusive source old ⟨shares, owns⟩
      · cases List.mem_singleton.mp new
        contradiction
  | setLightProperties index lightDistance color =>
      rcases Option.map_eq_some_iff.mp stepped with ⟨source, found, rfl⟩
      apply exclusive_set exclusive
      rintro _ ⟨rfl⟩
      right
      cases shares : source.sharedTexture with
      | some texture => rw [LightSource.setLightProperties_of_some shares]
      | none => rw [LightSource.setLightProperties_of_none shares]
  | setTexture index texture =>
      rcases Option.bind_eq_some_iff.mp stepped with ⟨source, found, mapped⟩
      rcases Option.map_eq_some_iff.mp mapped with ⟨result, set, rfl⟩
      apply exclusive_set exclusive
      rintro _ ⟨rfl⟩
      left
      exact (LightSource.setTexture_eq_some set).1
  | destroy index =>
      rcases Option.map_eq_some_iff.mp stepped with ⟨source, found, rfl⟩
      apply exclusive_set exclusive
      intro other gone
      contradiction

/-! ## Whole runs -/

theorem sound_iff {lights : Lights} (linked : lights.Linked) (exclusive : lights.Exclusive) :
    lights.Sound ↔ lights.Intact := by
  constructor
  · intro sound
    refine ⟨?_, sound.once⟩
    intro texture member
    rcases some_mem_shared.mp member with ⟨source, alive, shares⟩
    exact sound.live source alive texture shares
  · intro intact
    refine ⟨?_, ?_, exclusive, intact.once⟩
    · rw [linked.counted, countP_shared]
    · intro source alive texture shares
      exact intact.live texture (some_mem_shared.mpr ⟨source, alive, shares⟩)

/-- The life cycle of the shared texture: in every run the light sources and the render
textures are sound throughout exactly when no light source starts to share after the
last user has left. -/
theorem sound_iff_avoidsDeleted (operations : List Operation) :
    Always step Sound operations start ↔ Meets step AvoidsDeleted operations start := by
  apply always_iff_meets fun lights => lights.Linked ∧ lights.Exclusive
  · rintro lights operation next ⟨linked, exclusive⟩ sound stepped
    have intact := (sound_iff linked exclusive).mp sound
    have exclusiveNext := exclusive_step exclusive stepped
    rcases intact_step_iff linked intact stepped with ⟨linkedNext, kept⟩
    exact ⟨⟨linkedNext, exclusiveNext⟩, (sound_iff linkedNext exclusiveNext).trans kept⟩
  · exact ⟨linked_start, fun _ member => absurd member List.not_mem_nil⟩
  · exact (sound_iff linked_start fun _ member => absurd member List.not_mem_nil).mpr intact_start

/-- A second light source is given the texture that was deleted with the first. -/
theorem not_sound_secondLight :
    ¬ ∀ operations : List Operation, Always step Sound operations start := by
  intro claimed
  let white : Color := ⟨1, 1, 1, 1⟩
  let second : LightSource := ⟨none, some 0, ⟨true, 256, white⟩⟩
  have always := claimed [.construct, .setLightProperties 0 256 white, .destroy 0, .construct,
    .setLightProperties 1 256 white]
  have sound : Sound ⟨⟨1, some 0, ⟨1, [0], []⟩, []⟩, [none, some second]⟩ := always.last rfl
  have live := sound.live second (.tail _ (.head _)) 0 rfl
  revert live
  decide

end Lights

end LegendOfStealth.Light
