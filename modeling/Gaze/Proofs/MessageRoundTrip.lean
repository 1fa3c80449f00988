import Gaze.Config
import Gaze.Proofs.MessageFields
import Gaze.Proofs.FloatText

/-! Reading a written message back. Under a delimiter that the message configuration accepts, the
line written for a sample and a stamp parses to that stamp and sample, as long as the actor in
focus, if any, is not named like the sentinel for no actor and its name uses characters of pairs
only. Floats are read back through their decimal text, so the reading asks that each float
written reads back to itself, which every float does; integers, flags and vectors need nothing.
The reading is stated once for any fields that hold the written pairs, whatever else they hold,
and the round trip takes the fields of the split line. -/

namespace Gaze

/-- The floats an eye writes into a message. -/
def Eye.floats (e : Eye Float) : List Float :=
  [e.gazeRay.x, e.gazeRay.y, e.gazeRay.z, e.origin.x, e.origin.y, e.origin.z, e.openness,
    e.pupilPosition.x, e.pupilPosition.y, e.pupilDiameter]

/-- The floats a sample writes into a message, but for the zero point and distance written for
no focus. -/
def Sample.floats (s : Sample Float) : List Float :=
  [s.simulatorTime, s.deviceTime, s.streamTime, s.combined.gazeRay.x, s.combined.gazeRay.y,
    s.combined.gazeRay.z, s.combined.origin.x, s.combined.origin.y, s.combined.origin.z,
    s.combined.vergence] ++ s.left.floats ++ s.right.floats ++
  [s.headLocation.x, s.headLocation.y, s.headLocation.z, s.headRotation.x, s.headRotation.y,
    s.headRotation.z] ++
  match s.focus with
  | some f => [f.point.x, f.point.y, f.point.z, f.distance]
  | none => []

namespace Message

open Text

/-- The eye with a side's suffix is read from fields that hold its texts under the suffixed
keys. -/
theorem readEye_eq {f : Fields} {side : String} {e : Eye Float}
    (hgaze : f.get? ("gaze_ray" ++ side) = some (SensorVector.spatial e.gazeRay).text)
    (horigin : f.get? ("eye_origin" ++ side) = some (SensorVector.spatial e.origin).text)
    (hgazeValid : f.get? ("validity_gaze" ++ side) = some (flagText e.gazeValid))
    (hopen : f.get? ("eye_open" ++ side) = some (floatText e.openness))
    (hopenValid : f.get? ("validity_eye_open" ++ side) = some (flagText e.opennessValid))
    (hpupil : f.get? ("pupil_posn" ++ side) = some (SensorVector.planar e.pupilPosition).text)
    (hpupilValid : f.get? ("validity_pupil_posn" ++ side) = some (flagText e.pupilPositionValid))
    (hdiam : f.get? ("pupil_diam" ++ side) = some (floatText e.pupilDiameter))
    (hx : ∀ x ∈ e.floats, readFloat (floatText x) = .ok x) :
    readEye f side = .ok e := by
  have hsub : ∀ {xs : List Float}, xs ⊆ e.floats → ∀ x ∈ xs, readFloat (floatText x) = .ok x :=
    fun hxs x hmem => hx x (hxs hmem)
  simp only [readEye,
    Fields.vec3_eq hgaze (hsub (by simp [Eye.floats])),
    Fields.vec3_eq horigin (hsub (by simp [Eye.floats])), Fields.flag_eq hgazeValid,
    Fields.number_eq hopen (hx _ (by simp [Eye.floats])), Fields.flag_eq hopenValid,
    Fields.vec2_eq hpupil (hsub (by simp [Eye.floats])), Fields.flag_eq hpupilValid,
    Fields.number_eq hdiam (hx _ (by simp [Eye.floats])), bind, Except.bind]
  rfl

/-- A line whose fields hold, under each key of a sample's message, the value written for it
parses to the stamp and the sample, when the actor is not named like the sentinel and every
float written reads back to itself. Keys besides those of the message, and the order of the
fields, do not matter. -/
theorem parse_eq_of_fields {line delim : String} {f : Fields} {s : Sample Float} {stamp : Float}
    (hsplit : Fields.split line delim = .ok f)
    (hget : ∀ p ∈ pairs s stamp, f.get? p.1 = some p.2)
    (hnone : ∀ g ∈ s.focus, g.actorName ≠ noFocus)
    (hfloat : ∀ x ∈ stamp :: s.floats, readFloat (floatText x) = .ok x) :
    parse line delim = .ok (stamp, s) := by
  have hat : ∀ (i : Nat) {k v : String}, (pairs s stamp)[i]? = some (k, v) → f.get? k = some v :=
    fun _ _ _ h => hget _ (List.mem_of_getElem? h)
  have hsub : ∀ {xs : List Float}, xs ⊆ stamp :: s.floats →
      ∀ x ∈ xs, readFloat (floatText x) = .ok x :=
    fun hxs x hmem => hfloat x (hxs hmem)
  -- every field but the focus is read at its fixed position among the written pairs
  have hsim := Fields.number_eq (hat 1 rfl) (hfloat _ (by simp [Sample.floats]))
  have hdev := Fields.number_eq (hat 2 rfl) (hfloat _ (by simp [Sample.floats]))
  have hstream := Fields.number_eq (hat 3 rfl) (hfloat _ (by simp [Sample.floats]))
  have hframe := Fields.integer_eq (hat 4 rfl)
  have hgaze := Fields.vec3_eq (hat 5 rfl) (hsub (by simp [Sample.floats]))
  have horigin := Fields.vec3_eq (hat 6 rfl) (hsub (by simp [Sample.floats]))
  have hverg := Fields.number_eq (hat 7 rfl) (hfloat _ (by simp [Sample.floats]))
  have hvalid := Fields.flag_eq (hat 23 rfl)
  have hleft : readEye f "_l" = .ok s.left :=
    readEye_eq (hat 10 rfl) (hat 11 rfl) (hat 24 rfl) (hat 14 rfl) (hat 26 rfl) (hat 16 rfl)
      (hat 28 rfl) (hat 18 rfl) (fun x hx => hfloat x (by simp [Sample.floats, hx]))
  have hright : readEye f "_r" = .ok s.right :=
    readEye_eq (hat 12 rfl) (hat 13 rfl) (hat 25 rfl) (hat 15 rfl) (hat 27 rfl) (hat 17 rfl)
      (hat 29 rfl) (hat 19 rfl) (fun x hx => hfloat x (by simp [Sample.floats, hx]))
  have hloc := Fields.vec3_eq (hat 8 rfl) (hsub (by simp [Sample.floats]))
  have hrot := Fields.vec3_eq (hat 9 rfl) (hsub (by simp [Sample.floats]))
  have hstamp := Fields.number_eq (hat 0 rfl) (hfloat _ (by simp))
  -- the focus is the sentinel name alone, or a name with its point and distance
  cases hf : s.focus with
  | none =>
    have hactor : f.text "focus_actor_name" = .ok noFocus :=
      Fields.text_eq (hat 20 (by simp only [pairs, hf]; rfl))
    simp only [parse, hsplit, hactor, hsim, hdev, hstream, hframe, hgaze, horigin, hverg, hvalid,
      hleft, hright, hloc, hrot, hstamp, bind, Except.bind, pure, Except.pure, ↓reduceIte]
    rw [← hf]
  | some g =>
    have hactor : f.text "focus_actor_name" = .ok g.actorName :=
      Fields.text_eq (hat 20 (by simp only [pairs, hf]; rfl))
    have hpoint : f.vec3 "focus_actor_pt" = .ok g.point :=
      Fields.vec3_eq (hat 21 (by simp only [pairs, hf]; rfl)) (hsub (by simp [Sample.floats, hf]))
    have hdist : f.number "focus_actor_dist" = .ok g.distance :=
      Fields.number_eq (hat 22 (by simp only [pairs, hf]; rfl))
        (hfloat _ (by simp [Sample.floats, hf]))
    simp only [parse, hsplit, hactor, if_neg (hnone g hf), hpoint, hdist, hsim, hdev, hstream,
      hframe, hgaze, horigin, hverg, hvalid, hleft, hright, hloc, hrot, hstamp, bind, Except.bind,
      pure, Except.pure]
    rw [← hf]

/-- A line that splits into exactly the pairs of a sample's message is read as that sample. -/
theorem parse_eq_of_split {line delim : String} {s : Sample Float} {stamp : Float}
    (hsplit : Fields.split line delim = .ok ⟨pairs s stamp⟩)
    (hnone : ∀ g ∈ s.focus, g.actorName ≠ noFocus)
    (hfloat : ∀ x ∈ stamp :: s.floats, readFloat (floatText x) = .ok x) :
    parse line delim = .ok (stamp, s) := by
  refine parse_eq_of_fields hsplit (fun p hp => ?_) hnone hfloat
  obtain ⟨i, hi⟩ := List.getElem?_of_mem hp
  exact get?_pairs s stamp i hi

/-- A message written under an accepted delimiter parses back to its stamp and sample, when the
actor's name can be written and every float written reads back to itself. -/
theorem parse_format {s : Sample Float} {stamp : Float} {delim : String}
    (hdelim : (MessageConfig.mk delim).validate = .ok ()) (hname : NameInPair s)
    (hnone : ∀ f ∈ s.focus, f.actorName ≠ noFocus)
    (hfloat : ∀ x ∈ stamp :: s.floats, readFloat (floatText x) = .ok x) :
    parse (format s stamp delim) delim = .ok (stamp, s) := by
  obtain ⟨c, hc, hcd⟩ := (MessageConfig.validate_eq_ok_iff _).mp hdelim
  exact parse_eq_of_split (split_format hc hcd hname) hnone hfloat

/-- The sample of the publisher's own test, focused on a pedestrian. -/
def walkerSample : Sample Float where
  simulatorTime := 3.25
  deviceTime := 3.2
  streamTime := 3.3
  frame := 41
  combined := ⟨⟨0.99, 0.01, -0.1⟩, ⟨-0.056, -0.0014, 0.0112⟩, 2.75, true⟩
  left := ⟨⟨0.98, -0.02, -0.1⟩, ⟨0.0, 0.0, 0.0⟩, false, 1.0, false, ⟨0.4, 0.6⟩, true, 0.0⟩
  right := ⟨⟨0.0, 0.0, 0.0⟩, ⟨0.0, 0.0, 0.0⟩, true, 0.0, false, ⟨0.0, 0.0⟩, false, 3.5⟩
  headLocation := ⟨1.0, 2.0, 1.2⟩
  headRotation := ⟨0.0, 15.0, -90.0⟩
  focus := some ⟨"walker.pedestrian.0001", ⟨12.0, -3.5, 0.25⟩, 12.5⟩

theorem parse_format_walkerSample :
    parse (format walkerSample 7.0 "; ") "; " = .ok (7.0, walkerSample) :=
  parse_format ((MessageConfig.validate_eq_ok_iff _).mpr ⟨' ', by decide,
    inPair_eq_false_of_isBlank (by decide)⟩)
    (fun f hf => by
      cases hf
      exact forall_inPair_of_ascii (by decide))
    (fun f hf => by
      cases hf
      decide)
    (fun x _ => readFloat_floatText x)

end Message

end Gaze
