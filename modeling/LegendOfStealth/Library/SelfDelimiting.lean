import Mathlib.Data.List.Basic

/-!
# Self-delimiting encodings

An encoding is self-delimiting if a stream that starts with an encoded value
determines the content of the value and the rest of the stream.  Nothing else
has to mark where a value ends: no encoding is a proper prefix of another, and a
concatenation of encodings determines its parts.
-/

namespace LegendOfStealth.Library

universe u v w x

variable {α : Type u} {β : Type v} {κ : Type w} {τ : Type x}

/-- Equal streams start with values of the same content and continue alike. -/
def SelfDelimiting (content : α → κ) (encode : α → List β) : Prop :=
  ∀ first second rest others, encode first ++ rest = encode second ++ others →
    content first = content second ∧ rest = others

namespace SelfDelimiting

variable {content : α → κ} {encode : α → List β}

/-- It is enough that streams reveal a tag that fixes the length, and that values
of one tag have different encodings. -/
theorem of_tag (tag : α → τ)
    (reveals : ∀ first second rest others,
      encode first ++ rest = encode second ++ others → tag first = tag second)
    (fixesLength : ∀ first second, tag first = tag second →
      (encode first).length = (encode second).length)
    (injective : ∀ first second, tag first = tag second → encode first = encode second →
      content first = content second) :
    SelfDelimiting content encode := by
  intro first second rest others same
  have sameTag := reveals first second rest others same
  rcases List.append_inj same (fixesLength first second sameTag) with ⟨sameCode, sameRest⟩
  exact ⟨injective first second sameTag sameCode, sameRest⟩

/-- No encoding is a proper prefix of another. -/
theorem content_eq_of_isPrefix (delimiting : SelfDelimiting content encode) {first second : α}
    (isPrefix : encode first <+: encode second) : content first = content second := by
  rcases isPrefix with ⟨rest, same⟩
  rw [← List.append_nil (encode second)] at same
  exact (delimiting first second rest [] same).1

/-- A concatenation of non-empty encodings determines the encoded values. -/
theorem map_content_eq (delimiting : SelfDelimiting content encode)
    (nonempty : ∀ value, encode value ≠ []) {first second : List α}
    (same : first.flatMap encode = second.flatMap encode) :
    first.map content = second.map content := by
  induction first generalizing second with
  | nil =>
      cases second with
      | nil => rfl
      | cons value others =>
          rw [List.flatMap_nil, List.flatMap_cons] at same
          exact absurd (List.append_eq_nil_iff.mp same.symm).1 (nonempty value)
  | cons value rest ih =>
      cases second with
      | nil =>
          rw [List.flatMap_nil, List.flatMap_cons] at same
          exact absurd (List.append_eq_nil_iff.mp same).1 (nonempty value)
      | cons value' others =>
          rw [List.flatMap_cons, List.flatMap_cons] at same
          rcases delimiting value value' _ _ same with ⟨sameContent, sameRest⟩
          rw [List.map_cons, List.map_cons, sameContent, ih sameRest]

end SelfDelimiting

end LegendOfStealth.Library
