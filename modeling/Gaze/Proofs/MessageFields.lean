import Gaze.Message.Parse
import Gaze.Proofs.Split
import Gaze.Proofs.ValueText

/-! The fields of a written message. Under a delimiter with a character that no pair can hold,
a message line splits back into exactly the pairs that were written, each with its key and its
value text, as long as the actor's name uses characters of pairs only. The keys of a message
are all different, so a key's value is the one written for it. A vector field's text reads back
to its components whenever each component's text reads back to it. -/

namespace Gaze.Message

open Text

/-- The keys of a message, in the order they are written. -/
def keys : List String :=
  ["rosT", "t_carla", "t_sranipal", "t_carla_stream", "sr_frameseq", "gaze_ray", "eye_origin",
    "vergence", "hmd_locn", "hmd_rotn", "gaze_ray_l", "eye_origin_l", "gaze_ray_r",
    "eye_origin_r", "eye_open_l", "eye_open_r", "pupil_posn_l", "pupil_posn_r", "pupil_diam_l",
    "pupil_diam_r", "focus_actor_name", "focus_actor_pt", "focus_actor_dist", "validity_gaze",
    "validity_gaze_l", "validity_gaze_r", "validity_eye_open_l", "validity_eye_open_r",
    "validity_pupil_posn_l", "validity_pupil_posn_r"]

theorem map_fst_pairs (s : Sample Float) (stamp : Float) :
    (pairs s stamp).map Prod.fst = keys := rfl

theorem keys_nodup : keys.Nodup := by decide

theorem keys_shape :
    ∀ k ∈ keys, k.toList ≠ [] ∧ '=' ∉ k.toList ∧ ∀ c ∈ k.toList, inPair c = true := by
  intro k hk
  refine ⟨?_, ?_, forall_inPair_of_ascii ?_⟩ <;> revert k <;> decide

/-- The actor's name of a sample uses characters of pairs only. -/
def NameInPair (s : Sample Float) : Prop :=
  ∀ f ∈ s.focus, ∀ c ∈ f.actorName.toList, inPair c = true

/-- Every value of a message uses characters of pairs only, when the actor's name does. -/
theorem value_inPair {s : Sample Float} {stamp : Float} (hname : NameInPair s) :
    ∀ p ∈ pairs s stamp, ∀ c ∈ p.2.toList, inPair c = true := by
  have hnone : ∀ c ∈ noFocus.toList, inPair c = true := forall_inPair_of_ascii (by decide)
  have hfloat : ∀ x : Float, ∀ c ∈ (floatText x).toList, inPair c = true :=
    fun _ _ hc => (mem_floatText hc).1
  have hvec : ∀ v : SensorVector Float, ∀ c ∈ v.text.toList, inPair c = true :=
    fun _ _ hc => mem_sensorVector_text hc
  have hint : ∀ n : Int64, ∀ c ∈ (intText n).toList, inPair c = true := fun _ _ hc => mem_intText hc
  cases hf : s.focus with
  | none =>
    simp only [pairs, hf, List.forall_mem_cons]
    exact ⟨hfloat _, hfloat _, hfloat _, hfloat _, hint _, hvec _, hvec _, hfloat _, hvec _, hvec _,
      hvec _, hvec _, hvec _, hvec _, hfloat _, hfloat _, hvec _, hvec _, hfloat _, hfloat _, hnone,
      hvec _, hfloat _, mem_flagText _, mem_flagText _, mem_flagText _, mem_flagText _,
      mem_flagText _, mem_flagText _, mem_flagText _, List.forall_mem_nil _⟩
  | some f =>
    have hn : ∀ c ∈ f.actorName.toList, inPair c = true := hname f (by simp [hf])
    simp only [pairs, hf, List.forall_mem_cons]
    exact ⟨hfloat _, hfloat _, hfloat _, hfloat _, hint _, hvec _, hvec _, hfloat _, hvec _, hvec _,
      hvec _, hvec _, hvec _, hvec _, hfloat _, hfloat _, hvec _, hvec _, hfloat _, hfloat _, hn,
      hvec _, hfloat _, mem_flagText _, mem_flagText _, mem_flagText _, mem_flagText _,
      mem_flagText _, mem_flagText _, mem_flagText _, List.forall_mem_nil _⟩

/-! ### Splitting a written line -/

/-- The characters of a pair as it is written. -/
def pairChars (p : String × String) : List Char := (p.1 ++ "=" ++ p.2).toList

theorem pairChars_eq (p : String × String) : pairChars p = p.1.toList ++ '=' :: p.2.toList := by
  simp [pairChars, String.toList_append]

/-- The line that writes pairs in order, each as `key=value` followed by the delimiter. -/
def writePairs (ps : List (String × String)) (delim : String) : String :=
  String.join (ps.map fun p => p.1 ++ "=" ++ p.2 ++ delim)

theorem writePairs_toList (ps : List (String × String)) (delim : String) :
    (writePairs ps delim).toList = (ps.map pairChars).flatMap (· ++ delim.toList) := by
  simp [writePairs, String.toList_join, pairChars, List.flatMap_map]

/-- A message line is the line that writes the message's pairs. -/
theorem format_eq_writePairs (s : Sample Float) (stamp : Float) (delim : String) :
    format s stamp delim = writePairs (pairs s stamp) delim := rfl

theorem format_toList (s : Sample Float) (stamp : Float) (delim : String) :
    (format s stamp delim).toList = ((pairs s stamp).map pairChars).flatMap (· ++ delim.toList) := by
  rw [format_eq_writePairs, writePairs_toList]

/-- A written pair with a trimmed value is read back as itself: it is cut at the `=` that ends
its key. -/
theorem pairOf_pairChars_of_trimmed {p : String × String} (hkey : '=' ∉ p.1.toList)
    (hkc : ∀ c ∈ p.1.toList, inPair c = true) (hv : trimChars p.2.toList = p.2.toList) :
    Fields.pairOf (pairChars p) = .ok p := by
  have hne : ∀ c ∈ p.1.toList, (c ≠ '=') = True := fun c hc => by
    simp only [ne_eq, eq_iff_iff, iff_true]
    rintro rfl
    exact hkey hc
  have htake : (p.1.toList ++ '=' :: p.2.toList).takeWhile (· ≠ '=') = p.1.toList := by
    rw [List.takeWhile_append_of_pos (fun c hc => by simp [hne c hc])]
    simp
  have hdrop : (p.1.toList ++ '=' :: p.2.toList).dropWhile (· ≠ '=') = '=' :: p.2.toList := by
    rw [List.dropWhile_append_of_pos (fun c hc => by simp [hne c hc])]
    simp
  simp only [Fields.pairOf, pairChars_eq, hdrop, htake, trimChars_of_inPair hkc, hv,
    String.ofList_toList]

theorem pairOf_pairChars {p : String × String} (hkey : '=' ∉ p.1.toList)
    (hkc : ∀ c ∈ p.1.toList, inPair c = true) (hvc : ∀ c ∈ p.2.toList, inPair c = true) :
    Fields.pairOf (pairChars p) = .ok p :=
  pairOf_pairChars_of_trimmed hkey hkc (trimChars_of_inPair hvc)

theorem mapM_map_eq_ok {α β ε : Type} {g : α → β} {r : β → Except ε α} {xs : List α}
    (h : ∀ x ∈ xs, r (g x) = .ok x) : (xs.map g).mapM r = .ok xs := by
  induction xs with
  | nil => rfl
  | cons x xs ih =>
    rw [List.map_cons, List.mapM_cons, h x (by simp), ih fun y hy => h y (by simp [hy])]
    rfl

/-- A pair whose key and value use characters of pairs is written in characters of pairs. -/
theorem pairChars_inPair {p : String × String} (hkc : ∀ c ∈ p.1.toList, inPair c = true)
    (hvc : ∀ c ∈ p.2.toList, inPair c = true) : ∀ x ∈ pairChars p, inPair x = true := by
  intro x hx
  rw [pairChars_eq, List.mem_append, List.mem_cons] at hx
  rcases hx with hx | rfl | hx
  · exact hkc x hx
  · exact inPair_of_mem_pairPunctuation (by decide)
  · exact hvc x hx

section WrittenPairs

variable {ps : List (String × String)} {delim : String} {c : Char}

/-- Under a delimiter with a character that no pair holds, a line of pairs written in characters
of pairs is cut at the delimiters written after the pairs and nowhere else. -/
theorem pieces_writePairs (hc : c ∈ delim.toList) (hcd : inPair c = false)
    (hkc : ∀ p ∈ ps, ∀ c ∈ p.1.toList, inPair c = true)
    (hvc : ∀ p ∈ ps, ∀ c ∈ p.2.toList, inPair c = true) :
    Text.split delim.toList (writePairs ps delim).toList = ps.map pairChars ++ [[]] := by
  rw [writePairs_toList]
  refine split_flatMap_append hc hcd _ fun w hw => ?_
  obtain ⟨p, hp, rfl⟩ := List.mem_map.mp hw
  exact pairChars_inPair (hkc p hp) (hvc p hp)

/-- Such a line, with no `=` in its keys, splits into the pairs that were written, in order. -/
theorem Fields.split_writePairs (hc : c ∈ delim.toList) (hcd : inPair c = false)
    (hkey : ∀ p ∈ ps, '=' ∉ p.1.toList) (hkc : ∀ p ∈ ps, ∀ c ∈ p.1.toList, inPair c = true)
    (hvc : ∀ p ∈ ps, ∀ c ∈ p.2.toList, inPair c = true) :
    Fields.split (writePairs ps delim) delim = .ok ⟨ps⟩ := by
  have hchars : ∀ w ∈ ps.map pairChars, ∀ x ∈ w, inPair x = true := by
    intro w hw
    obtain ⟨p, hp, rfl⟩ := List.mem_map.mp hw
    exact pairChars_inPair (hkc p hp) (hvc p hp)
  -- trimming leaves every written pair alone, and only the empty last piece is dropped
  have hpieces : ((Text.split delim.toList (writePairs ps delim).toList).map trimChars).filter
      (· ≠ []) = ps.map pairChars := by
    have htrim : (ps.map pairChars).map trimChars = ps.map pairChars := by
      rw [List.map_congr_left fun w hw => trimChars_of_inPair (hchars w hw), List.map_id']
    rw [pieces_writePairs hc hcd hkc hvc, List.map_append, htrim]
    simp only [List.map_cons, List.map_nil, List.filter_append, List.filter_cons,
      trimChars_of_forall (List.forall_mem_nil _)]
    rw [List.filter_eq_self.mpr]
    · simp
    · intro w hw
      obtain ⟨p, hp, rfl⟩ := List.mem_map.mp hw
      simp [pairChars_eq]
  simp only [Fields.split, hpieces, mapM_map_eq_ok fun p hp =>
    pairOf_pairChars (hkey p hp) (hkc p hp) (hvc p hp)]
  rfl

end WrittenPairs

/-- A line written under a delimiter with a character that no pair holds splits into the pairs
that were written. -/
theorem split_format {s : Sample Float} {stamp : Float} {delim : String} {c : Char}
    (hc : c ∈ delim.toList) (hcd : inPair c = false) (hname : NameInPair s) :
    Fields.split (format s stamp delim) delim = .ok ⟨pairs s stamp⟩ := by
  have hkeys : ∀ p ∈ pairs s stamp, p.1.toList ≠ [] ∧ '=' ∉ p.1.toList ∧
      ∀ c ∈ p.1.toList, inPair c = true := fun p hp =>
    keys_shape p.1 (by rw [← map_fst_pairs s stamp]; exact List.mem_map_of_mem hp)
  rw [format_eq_writePairs]
  exact Fields.split_writePairs hc hcd (fun p hp => (hkeys p hp).2.1)
    (fun p hp => (hkeys p hp).2.2) (value_inPair hname)

/-! ### Reading fields -/

/-- When the keys are all different, a key's value is the one listed with it. -/
theorem get?_eq_lookup {ps : List (String × String)} (hnd : (ps.map Prod.fst).Nodup)
    (k : String) : Fields.get? ⟨ps⟩ k = ps.lookup k := by
  induction ps with
  | nil => rfl
  | cons q ps ih =>
    obtain ⟨qk, qv⟩ := q
    obtain ⟨hq, hnd⟩ := List.nodup_cons.mp hnd
    have hrec := ih hnd
    simp only [Fields.get?, List.reverse_cons, List.find?_append, List.find?_singleton] at hrec ⊢
    by_cases hk : qk = k
    · -- the key is listed first and nowhere else
      subst hk
      have hnone : ps.reverse.find? (·.1 == qk) = none := by
        rw [List.find?_eq_none]
        intro x hx hxq
        exact hq (List.mem_map.mpr ⟨x, List.mem_reverse.mp hx, by simpa using hxq⟩)
      simp [hnone, List.lookup_cons_self]
    · have hne : (k == qk) = false := beq_eq_false_iff_ne.mpr (Ne.symm hk)
      simp only [beq_iff_eq, hk, ↓reduceIte, Option.or_none, hrec]
      rw [List.lookup_cons, hne]

@[simp] theorem trimChars_floatText (x : Float) :
    trimChars (floatText x).toList = (floatText x).toList :=
  trimChars_of_inPair fun _ hc => (mem_floatText hc).1

/-- The inside of a vector's text is its components' texts joined by commas. -/
@[simp] theorem unbrace_text (v : SensorVector Float) :
    Fields.unbrace v.text.toList = some (",".intercalate (v.components.map floatText)).toList := by
  simp [Fields.unbrace, SensorVector.text, String.toList_append, List.getLast?_append,
    List.dropLast_append_of_ne_nil]

/-- Components' texts joined by commas split back into the texts: a float's text has no comma. -/
@[simp] theorem split_components (v : SensorVector Float) :
    Text.split [','] (",".intercalate (v.components.map floatText)).toList =
      v.components.map fun x => (floatText x).toList := by
  have hne : v.components.map (fun x => (floatText x).toList) ≠ [] := by
    cases v <;> simp [SensorVector.components]
  rw [String.toList_intercalate, List.map_map]
  exact @split_intercalate [','] (fun x => x != ',') ',' (by simp) rfl _ hne fun w hw x hx => by
    obtain ⟨y, -, rfl⟩ := List.mem_map.mp hw
    simpa using (mem_floatText hx).2

/-- A vector field whose text is the text of a vector reads back to the vector, when each
component's text reads back to the component. -/
theorem vector_eq {f : Fields} {k : String} {v : SensorVector Float} (h : f.get? k = some v.text)
    (hx : ∀ x ∈ v.components, readFloat (floatText x) = .ok x) : f.vector k = .ok v := by
  simp only [Fields.vector, Fields.text, h, unbrace_text, split_components, bind, Except.bind]
  rw [mapM_map_eq_ok fun x hx' => by simp [hx x hx']]
  exact SensorVector.ofComponents_components v

namespace Fields

variable {f : Fields} {k : String}

theorem text_eq {v : String} (h : f.get? k = some v) : f.text k = .ok v := by
  simp only [text, h]

theorem number_eq {x : Float} (h : f.get? k = some (floatText x))
    (hx : readFloat (floatText x) = .ok x) : f.number k = .ok x := by
  simp only [number, text_eq h, bind, Except.bind, hx]

theorem integer_eq {n : Int64} (h : f.get? k = some (intText n)) : f.integer k = .ok n := by
  simp only [integer, text_eq h, bind, Except.bind, readInt64_intText]

theorem flag_eq {b : Bool} (h : f.get? k = some (flagText b)) : f.flag k = .ok b := by
  simp only [flag, text_eq h, bind, Except.bind]
  cases b <;> rfl

theorem vec3_eq {v : Vec3 Float} (h : f.get? k = some (SensorVector.spatial v).text)
    (hx : ∀ x ∈ [v.x, v.y, v.z], readFloat (floatText x) = .ok x) : f.vec3 k = .ok v := by
  simp only [vec3, vector_eq h hx, bind, Except.bind]
  rfl

theorem vec2_eq {v : Vec2 Float} (h : f.get? k = some (SensorVector.planar v).text)
    (hx : ∀ x ∈ [v.x, v.y], readFloat (floatText x) = .ok x) : f.vec2 k = .ok v := by
  simp only [vec2, vector_eq h hx, bind, Except.bind]
  rfl

end Fields

theorem lookup_of_mem {ps : List (String × String)} (hnd : (ps.map Prod.fst).Nodup)
    {k v : String} (h : (k, v) ∈ ps) : ps.lookup k = some v := by
  induction ps with
  | nil => exact absurd h List.not_mem_nil
  | cons q ps ih =>
    obtain ⟨qk, qv⟩ := q
    obtain ⟨hq, hnd⟩ := List.nodup_cons.mp hnd
    rcases List.mem_cons.mp h with heq | hmem
    · obtain ⟨rfl, rfl⟩ := Prod.mk.inj heq
      exact List.lookup_cons_self
    · have hk : (k == qk) = false := beq_eq_false_iff_ne.mpr fun hkq => by
        subst hkq
        exact hq (List.mem_map.mpr ⟨_, hmem, rfl⟩)
      rw [List.lookup_cons, hk]
      exact ih hnd hmem

theorem get?_pairs (s : Sample Float) (stamp : Float) (i : Nat) {k v : String}
    (h : (pairs s stamp)[i]? = some (k, v)) : Fields.get? ⟨pairs s stamp⟩ k = some v := by
  have hnd : ((pairs s stamp).map Prod.fst).Nodup := by
    rw [map_fst_pairs]
    exact keys_nodup
  rw [get?_eq_lookup hnd]
  exact lookup_of_mem hnd (List.mem_of_getElem? h)

/-! ### The later of two pairs wins

The fields answer for a key with the value of its last pair, and know no key that no pair has;
this is what inserting the pairs one by one into a map gives. -/

/-- `v` is the value of the last pair with the key `k`. -/
def IsLastValue (ps : List (String × String)) (k v : String) : Prop :=
  ∃ ps₁ ps₂, ps = ps₁ ++ (k, v) :: ps₂ ∧ k ∉ ps₂.map Prod.fst

theorem get?_eq_some_iff {ps : List (String × String)} {k v : String} :
    Fields.get? ⟨ps⟩ k = some v ↔ IsLastValue ps k v := by
  simp only [Fields.get?, Option.map_eq_some_iff, List.find?_eq_some_iff_append, beq_iff_eq,
    Bool.not_eq_true', beq_eq_false_iff_ne]
  constructor
  · rintro ⟨⟨k', v'⟩, ⟨rfl, as, bs, hrev, has⟩, rfl⟩
    -- the pairs read backwards: the later pairs `as`, the last pair with the key, the earlier `bs`
    refine ⟨bs.reverse, as.reverse, ?_, ?_⟩
    · rw [← List.reverse_reverse ps, hrev]
      simp
    · simp only [List.mem_map, List.mem_reverse, not_exists, not_and]
      exact fun p hp hk => has p hp hk
  · rintro ⟨ps₁, ps₂, rfl, hk⟩
    refine ⟨(k, v), ⟨rfl, ps₂.reverse, ps₁.reverse, by simp, ?_⟩, rfl⟩
    intro p hp hpk
    exact hk (List.mem_map.mpr ⟨p, List.mem_reverse.mp hp, hpk⟩)

theorem get?_eq_none_iff {ps : List (String × String)} {k : String} :
    Fields.get? ⟨ps⟩ k = none ↔ k ∉ ps.map Prod.fst := by
  simp only [Fields.get?, Option.map_eq_none_iff, List.find?_eq_none, List.mem_reverse, beq_iff_eq,
    List.mem_map, not_exists, not_and]

/-- Under a delimiter that the message configuration accepts, a line of pairs whose keys and
values use characters of pairs only, and whose keys have no `=`, is cut exactly at the written
delimiters; its fields are read, and answer for each key with the value of its last pair and
for no other key. -/
theorem writePairs_fields_lastValue {delim : String}
    (hdelim : (MessageConfig.mk delim).validate = .ok ()) {ps : List (String × String)}
    (hkey : ∀ p ∈ ps, '=' ∉ p.1.toList) (hkc : ∀ p ∈ ps, ∀ c ∈ p.1.toList, inPair c = true)
    (hvc : ∀ p ∈ ps, ∀ c ∈ p.2.toList, inPair c = true) :
    Text.split delim.toList (writePairs ps delim).toList = ps.map pairChars ++ [[]] ∧
    ∃ f, Fields.split (writePairs ps delim) delim = .ok f ∧
      (∀ k v, f.get? k = some v ↔ IsLastValue ps k v) ∧
      ∀ k, f.get? k = none ↔ k ∉ ps.map Prod.fst := by
  obtain ⟨c, hc, hcd⟩ := (MessageConfig.validate_eq_ok_iff _).mp hdelim
  exact ⟨pieces_writePairs hc hcd hkc hvc, ⟨ps⟩, Fields.split_writePairs hc hcd hkey hkc hvc,
    fun _ _ => get?_eq_some_iff, fun _ => get?_eq_none_iff⟩

/-- A key written twice, with a pair whose value holds `=` in between, under the default
delimiter: the later value counts. -/
theorem writePairs_fields_repeated_key :
    Text.split "; ".toList
        (writePairs [("gaze", "1"), ("name", "a=b"), ("gaze", "\x7b2,3\x7d")] "; ").toList =
      [("gaze", "1"), ("name", "a=b"), ("gaze", "\x7b2,3\x7d")].map pairChars ++ [[]] ∧
    ∃ f, Fields.split (writePairs [("gaze", "1"), ("name", "a=b"), ("gaze", "\x7b2,3\x7d")] "; ")
        "; " = .ok f ∧
      (∀ k v, f.get? k = some v ↔
        IsLastValue [("gaze", "1"), ("name", "a=b"), ("gaze", "\x7b2,3\x7d")] k v) ∧
      ∀ k, f.get? k = none ↔
        k ∉ [("gaze", "1"), ("name", "a=b"), ("gaze", "\x7b2,3\x7d")].map Prod.fst :=
  writePairs_fields_lastValue
    ((MessageConfig.validate_eq_ok_iff _).mpr ⟨' ', by decide,
      inPair_eq_false_of_isBlank (by decide)⟩)
    (by decide)
    (fun p hp => forall_inPair_of_ascii (by revert p; decide))
    (fun p hp => forall_inPair_of_ascii (by revert p; decide))

end Gaze.Message
