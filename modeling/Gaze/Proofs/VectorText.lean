import Gaze.Proofs.FloatText
import Gaze.Proofs.MessageRoundTrip

/-! Reading a vector back from its text. The text of a sensor vector is its components'
float texts between braces, separated by commas. The vector grammar of a message field strips
the braces, cuts the inside at its commas, trims each piece and reads it as a float literal:
since no float text holds a comma, the pieces are the components' texts, and each reads back to
its component, as the text of every float does. The components then rebuild the vector, and a
field that wants a planar or a spatial vector gets it exactly when the vector has that dimension,
with a dimension error naming both counts otherwise. -/

namespace Gaze.Message

open Text

/-- Each piece of the inside of a vector's text, trimmed, is a component's text. -/
theorem pieces_text (v : SensorVector Float) :
    (Text.split [','] (",".intercalate (v.components.map floatText)).toList).map
      (fun c => String.ofList (trimChars c)) = v.components.map floatText := by
  rw [split_components, List.map_map]
  exact List.map_congr_left fun x _ => by simp

namespace Fields

variable {f : Fields} {k : String} {v : SensorVector Float}

theorem vec2_of_vector (h : f.vector k = .ok v) : f.vec2 k = v.toVec2 := by
  simp only [vec2, h, bind, Except.bind]

theorem vec3_of_vector (h : f.vector k = .ok v) : f.vec3 k = v.toVec3 := by
  simp only [vec3, h, bind, Except.bind]

end Fields

/-- The vector grammar reads the text of a vector back to the vector: the pieces between the
braces read to the components, which rebuild the vector; a planar field reads it exactly when it
is planar and a spatial field exactly when it is spatial, and the wrong kind is refused with both
dimensions. -/
theorem vector_text_roundTrip {v : SensorVector Float} {f : Fields} {k : String}
    (h : f.get? k = some v.text) :
    (∃ inner, Fields.unbrace v.text.toList = some inner ∧
      (Text.split [','] inner).map (fun c => readFloat (String.ofList (trimChars c))) =
        v.components.map .ok) ∧
    SensorVector.ofComponents v.components = .ok v ∧ f.vector k = .ok v ∧
    (∀ w, f.vec2 k = .ok w ↔ v = .planar w) ∧ (∀ w, f.vec3 k = .ok w ↔ v = .spatial w) ∧
    (v.dimension = 3 → f.vec2 k = .error (.dimension 2 3)) ∧
    (v.dimension = 2 → f.vec3 k = .error (.dimension 3 2)) := by
  have hx : ∀ x ∈ v.components, readFloat (floatText x) = .ok x :=
    fun x _ => readFloat_floatText x
  have hvector := vector_eq h hx
  have hpieces : (Text.split [','] (",".intercalate (v.components.map floatText)).toList).map
      (fun c => readFloat (String.ofList (trimChars c))) = v.components.map .ok := by
    have hcomp : (fun c => readFloat (String.ofList (trimChars c))) =
        readFloat ∘ fun c => String.ofList (trimChars c) := rfl
    rw [hcomp, ← List.map_map, pieces_text, List.map_map]
    exact List.map_congr_left fun x hmem => hx x hmem
  refine ⟨⟨_, unbrace_text v, hpieces⟩, SensorVector.ofComponents_components v, hvector,
    fun w => ?_, fun w => ?_, fun hdim => ?_, fun hdim => ?_⟩
  · rw [Fields.vec2_of_vector hvector, SensorVector.toVec2_eq_ok_iff]
  · rw [Fields.vec3_of_vector hvector, SensorVector.toVec3_eq_ok_iff]
  · cases v with
    | planar w => cases hdim
    | spatial w => rw [Fields.vec2_of_vector hvector]; rfl
  · cases v with
    | planar w => rw [Fields.vec3_of_vector hvector]; rfl
    | spatial w => cases hdim

/-- The planar pupil position of the publisher's test, read from a field that holds its text. -/
theorem vector_text_roundTrip_pupil :
    (∃ inner, Fields.unbrace (SensorVector.planar ⟨0.4, 0.6⟩).text.toList = some inner ∧
      (Text.split [','] inner).map (fun c => readFloat (String.ofList (trimChars c))) =
        (SensorVector.planar ⟨0.4, 0.6⟩).components.map .ok) ∧
    SensorVector.ofComponents (SensorVector.planar ⟨0.4, 0.6⟩).components =
      .ok (SensorVector.planar ⟨0.4, 0.6⟩) ∧
    Fields.vector ⟨[("pupil_posn_l", (SensorVector.planar ⟨0.4, 0.6⟩).text)]⟩ "pupil_posn_l" =
      .ok (SensorVector.planar ⟨0.4, 0.6⟩) ∧
    (∀ w, Fields.vec2 ⟨[("pupil_posn_l", (SensorVector.planar ⟨0.4, 0.6⟩).text)]⟩
      "pupil_posn_l" = .ok w ↔ SensorVector.planar ⟨0.4, 0.6⟩ = .planar w) ∧
    (∀ w, Fields.vec3 ⟨[("pupil_posn_l", (SensorVector.planar ⟨0.4, 0.6⟩).text)]⟩
      "pupil_posn_l" = .ok w ↔ SensorVector.planar ⟨0.4, 0.6⟩ = .spatial w) ∧
    ((SensorVector.planar ⟨0.4, 0.6⟩).dimension = 3 →
      Fields.vec2 ⟨[("pupil_posn_l", (SensorVector.planar ⟨0.4, 0.6⟩).text)]⟩ "pupil_posn_l" =
        .error (.dimension 2 3)) ∧
    ((SensorVector.planar ⟨0.4, 0.6⟩).dimension = 2 →
      Fields.vec3 ⟨[("pupil_posn_l", (SensorVector.planar ⟨0.4, 0.6⟩).text)]⟩ "pupil_posn_l" =
        .error (.dimension 3 2)) :=
  vector_text_roundTrip (by simp [Fields.get?])

end Gaze.Message
