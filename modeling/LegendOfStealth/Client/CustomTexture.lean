import LegendOfStealth.Client.LightSource
import Mathlib.Tactic.Linarith
import Mathlib.Tactic.Zify

/-!
# Custom light textures

A light source retains the texture that it is given and releases the texture that it has
when it is destroyed.  `SetTexture` and `SetLightProperties` overwrite the pointer without
releasing what was there, and that texture is never released by the light source.
-/

namespace LegendOfStealth.Light

open LegendOfStealth.Library LegendOfStealth.Geometry

section Specification

variable {source : LightSource} {textures : Textures}

theorem LightTexture.calls_getSharedTexture (textures : Textures) :
    (LightTexture.getSharedTexture textures).2.calls = textures.calls := by
  rw [getSharedTexture]
  split
  · rw [createSharedTexture]
    split
    · rfl
    · rfl
  · rfl

theorem LightTexture.calls_deleteSharedTexture (textures : Textures) :
    (LightTexture.deleteSharedTexture textures).calls = textures.calls := by
  rw [deleteSharedTexture]
  split
  · rfl
  · rfl

theorem LightTexture.calls_releaseSharedTexture (textures : Textures) :
    (LightTexture.releaseSharedTexture textures).calls = textures.calls := by
  rw [releaseSharedTexture]
  split
  · split
    · exact calls_deleteSharedTexture _
    · rfl
  · split
    · exact calls_deleteSharedTexture _
    · rfl

namespace LightSource

/-- Sharing drops the custom texture without a call. -/
theorem setLightProperties_custom (lightDistance : ℚ) (color : Color) (source : LightSource)
    (textures : Textures) :
    (source.setLightProperties lightDistance color textures).1.texture = none ∧
      (source.setLightProperties lightDistance color textures).2.calls = textures.calls := by
  cases shares : source.sharedTexture with
  | some texture =>
      rw [setLightProperties_of_some shares]
      exact ⟨rfl, rfl⟩
  | none =>
      rw [setLightProperties_of_none shares]
      exact ⟨rfl, LightTexture.calls_getSharedTexture textures⟩

theorem releaseSharedTexture_custom (source : LightSource) (textures : Textures) :
    (source.releaseSharedTexture textures).1.texture = source.texture ∧
      (source.releaseSharedTexture textures).2.calls = textures.calls := by
  cases shares : source.sharedTexture with
  | some texture =>
      rw [releaseSharedTexture_of_some shares]
      exact ⟨rfl, LightTexture.calls_releaseSharedTexture textures⟩
  | none =>
      rw [releaseSharedTexture_of_none shares]
      exact ⟨rfl, rfl⟩

/-- A custom texture is retained, whatever was there before. -/
theorem setTexture_custom {given : Option Texture} {result : LightSource × Textures}
    (set : source.setTexture given textures = some result) :
    ∃ texture, result.1.texture = some texture ∧
      result.2.calls = textures.calls ++ [.retain texture] := by
  obtain ⟨texture, rfl, rfl⟩ := Option.map_eq_some_iff.mp set
  refine ⟨texture, rfl, ?_⟩
  exact congrArg (· ++ [.retain texture]) (source.releaseSharedTexture_custom textures).2

theorem calls_destroy (source : LightSource) (textures : Textures) :
    (source.destroy textures).calls =
      textures.calls ++ source.texture.toList.map TextureCall.release := by
  obtain ⟨texture_eq, calls_eq⟩ := source.releaseSharedTexture_custom textures
  rw [destroy, ← texture_eq]
  dsimp only
  cases (source.releaseSharedTexture textures).1.texture with
  | some texture => exact congrArg (· ++ [.release texture]) calls_eq
  | none => exact calls_eq.trans (List.append_nil _).symm

end LightSource

end Specification

/-! ## The balance of a texture -/

/-- How often a texture was retained, minus how often it was released. -/
def balance (calls : List TextureCall) (texture : Texture) : Int :=
  calls.count (.retain texture) - calls.count (.release texture)

section Balance

variable (calls : List TextureCall) (texture : Texture)

theorem balance_append (later : List TextureCall) :
    balance (calls ++ later) texture = balance calls texture + balance later texture := by
  rw [balance, balance, balance, List.count_append, List.count_append]
  omega

theorem balance_retain (retained : Texture) :
    balance [.retain retained] texture = if some retained = some texture then 1 else 0 := by
  simp [balance, List.count_singleton]

theorem balance_release (released : Option Texture) :
    balance (released.toList.map .release) texture =
      -if released = some texture then 1 else 0 := by
  cases released with
  | some released => simp [balance, List.count_singleton]
  | none => rfl

end Balance

namespace Lights

/-- Every texture is retained once more than released for each light source that is alive
and has it, so as often as released once all light sources are destroyed. -/
structure Balanced (lights : Lights) : Prop where
  owned : ∀ texture, balance lights.textures.calls texture =
    lights.sources.countP (·.any fun source => source.texture = some texture)
  settled : (∀ slot ∈ lights.sources, slot = none) →
    ∀ texture, balance lights.textures.calls texture = 0

/-- No custom texture is replaced, by another texture, itself or the shared one. -/
def KeepsCustom (lights : Lights) : Operation → Prop
  | .setLightProperties index _ _ =>
      ∀ source, lights.source index = some source → source.texture = none
  | .setTexture index _ => ∀ source, lights.source index = some source → source.texture = none
  | _ => True

/-- The custom textures of the light sources. -/
def customs (lights : Lights) : List (Option Texture) :=
  lights.sources.map (·.bind LightSource.texture)

theorem countP_customs (lights : Lights) (texture : Texture) :
    lights.customs.countP (· = some texture) =
      lights.sources.countP (·.any fun source => source.texture = some texture) := by
  rw [customs, List.countP_map]
  apply List.countP_congr
  intro slot _
  cases slot with
  | some source => rfl
  | none => simp

theorem customs_getElem? {lights : Lights} {index : Nat} {source : LightSource}
    (found : lights.source index = some source) :
    lights.customs[index]? = some source.texture := by
  rw [customs, List.getElem?_map, source_eq_some_iff.mp found]
  rfl

theorem customs_set (textures : Textures) (lights : Lights) (index : Nat)
    (slot : Option LightSource) :
    (⟨textures, lights.sources.set index slot⟩ : Lights).customs =
      lights.customs.set index (slot.bind LightSource.texture) := by
  rw [customs, customs, List.map_set]

/-- Light sources that are destroyed have no textures, so the second half of the balance
follows from the first. -/
theorem balanced_iff {lights : Lights} :
    lights.Balanced ↔ ∀ texture, balance lights.textures.calls texture =
      lights.customs.countP (· = some texture) := by
  simp only [countP_customs]
  constructor
  · exact Balanced.owned
  · intro owned
    refine ⟨owned, ?_⟩
    intro destroyed texture
    rw [owned texture, Int.natCast_eq_zero, List.countP_eq_zero]
    intro slot member
    rw [destroyed slot member]
    exact Bool.false_ne_true

/-- After an operation on one light source the balance is right exactly if the calls make
up for the texture that it has and the one that it had. -/
theorem balanced_set_iff {lights : Lights} (balanced : lights.Balanced) {index : Nat}
    {source : LightSource} (found : lights.source index = some source) {textures : Textures}
    {slot : Option LightSource} {calls : List TextureCall}
    (made : textures.calls = lights.textures.calls ++ calls) :
    (⟨textures, lights.sources.set index slot⟩ : Lights).Balanced ↔
      ∀ texture, balance calls texture + (if source.texture = some texture then 1 else 0) =
        if slot.bind LightSource.texture = some texture then 1 else 0 := by
  rw [balanced_iff]
  apply forall_congr'
  intro texture
  have before := balanced_iff.mp balanced texture
  have counted := countP_set (· = some texture) (customs_getElem? found)
    (slot.bind LightSource.texture)
  simp only [decide_eq_true_eq] at counted
  zify at counted
  rw [customs_set, made, balance_append, before]
  constructor
  · intro kept
    linarith
  · intro makesUp
    linarith

theorem forall_ite_eq_zero_iff {own : Option Texture} :
    (∀ texture, (if own = some texture then 1 else 0 : Int) = 0) ↔ own = none := by
  constructor
  · intro zero
    cases own with
    | none => rfl
    | some texture =>
        have counted := zero texture
        rw [if_pos rfl] at counted
        contradiction
  · rintro rfl texture
    rfl

section Step

variable {lights next : Lights}

theorem keepsCustom_iff {index : Nat} {source : LightSource}
    (found : lights.source index = some source) :
    (∀ other, lights.source index = some other → other.texture = none) ↔
      source.texture = none := by
  simp [found]

/-- An operation keeps the balance exactly if it replaces no custom texture. -/
theorem balanced_step_iff (balanced : lights.Balanced) {operation : Operation}
    (stepped : step operation lights = some next) :
    next.Balanced ↔ lights.KeepsCustom operation := by
  cases operation with
  | construct =>
      cases stepped
      apply iff_of_true _ trivial
      rw [balanced_iff]
      intro texture
      rw [customs, List.map_append, ← customs, List.countP_append]
      exact balanced_iff.mp balanced texture
  | setLightProperties index lightDistance color =>
      obtain ⟨source, found, rfl⟩ := Option.map_eq_some_iff.mp stepped
      obtain ⟨texture_eq, calls_eq⟩ :=
        source.setLightProperties_custom lightDistance color lights.textures
      rw [balanced_set_iff balanced found (calls_eq.trans (List.append_nil _).symm), KeepsCustom,
        keepsCustom_iff found, ← forall_ite_eq_zero_iff]
      apply forall_congr'
      intro texture
      rw [Option.bind_some, texture_eq, if_neg (Option.some_ne_none texture).symm]
      exact Eq.congr_left (zero_add _)
  | setTexture index given =>
      obtain ⟨source, found, mapped⟩ := Option.bind_eq_some_iff.mp stepped
      obtain ⟨result, set, rfl⟩ := Option.map_eq_some_iff.mp mapped
      obtain ⟨retained, texture_eq, calls_eq⟩ := LightSource.setTexture_custom set
      rw [balanced_set_iff balanced found calls_eq, KeepsCustom, keepsCustom_iff found,
        ← forall_ite_eq_zero_iff]
      apply forall_congr'
      intro texture
      rw [Option.bind_some, texture_eq, balance_retain]
      exact add_eq_left
  | destroy index =>
      obtain ⟨source, found, rfl⟩ := Option.map_eq_some_iff.mp stepped
      apply iff_of_true _ trivial
      rw [balanced_set_iff balanced found (source.calls_destroy lights.textures)]
      intro texture
      rw [balance_release]
      exact neg_add_cancel _

end Step

theorem balanced_start : start.Balanced :=
  balanced_iff.mpr fun _ => rfl

/-- Custom light textures: in every run the calls are balanced throughout exactly when no
light source that has a custom texture is given another or made to share. -/
theorem balanced_iff_keepsCustom (operations : List Operation) :
    Always step Balanced operations start ↔ Meets step KeepsCustom operations start := by
  apply always_iff_meets fun _ => True
  · intro lights operation next _ balanced stepped
    exact ⟨trivial, balanced_step_iff balanced stepped⟩
  · trivial
  · exact balanced_start

/-- A texture that is replaced by another is not released, even when its light source is
destroyed. -/
theorem not_balanced_secondTexture :
    ¬ ∀ operations : List Operation, Always step Balanced operations start := by
  intro claimed
  let cone : Texture := ⟨0, ⟨256, 128⟩⟩
  let disc : Texture := ⟨1, ⟨128, 128⟩⟩
  have always := claimed [.construct, .setTexture 0 (some cone), .setTexture 0 (some disc),
    .destroy 0]
  have balanced : Balanced ⟨⟨0, none, .empty, [.retain cone, .retain disc, .release disc]⟩,
    [none]⟩ := always.last rfl
  exact absurd (balanced.settled (by decide) cone) (by decide)

end Lights

end LegendOfStealth.Light
