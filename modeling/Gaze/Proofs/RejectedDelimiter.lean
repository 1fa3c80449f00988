import Gaze.Proofs.MessageRoundTrip

/-! Which delimiters a message can use. The configuration rejects a delimiter made only of
characters that pairs may hold, the empty one included, and each rejection is needed: for every
rejected delimiter some sample breaks the round trip, although its floats read back, none is NaN
and its actor's name can be written. The empty delimiter cuts the line into single characters,
and the first, `r`, is no pair. A nonempty delimiter is never inside a piece of the split line,
while the value read for a key always is; the actor named by an underscore and the delimiter
cannot be read back. -/

namespace Gaze.Text

theorem isInfix_trimChars (cs : List Char) : trimChars cs <:+: cs := by
  have hsuf : (cs.dropWhile isBlank).reverse.dropWhile isBlank <:+ (cs.dropWhile isBlank).reverse :=
    List.dropWhile_suffix _
  have hpre : trimChars cs <+: cs.dropWhile isBlank := by
    rw [trimChars, ← List.reverse_suffix, List.reverse_reverse]
    exact hsuf
  exact hpre.isInfix.trans (List.dropWhile_suffix _).isInfix

end Gaze.Text

namespace Gaze.Message

open Text

/-- A read followed by more reads succeeds only when the first read succeeds and the rest
succeeds on what it read. -/
theorem bind_eq_ok {α β ε : Type} {x : Except ε α} {f : α → Except ε β} {b : β}
    (h : (x >>= f) = .ok b) : ∃ a, x = .ok a ∧ f a = .ok b := by
  cases x with
  | error e => cases h
  | ok a => exact ⟨a, rfl, h⟩

/-- Reading every item succeeds only when each item is read, and each result is read from an
item. -/
theorem mapM_eq_ok {α β ε : Type} {r : α → Except ε β} {xs : List α} {ys : List β}
    (h : xs.mapM r = .ok ys) :
    (∀ x ∈ xs, ∃ y ∈ ys, r x = .ok y) ∧ ∀ y ∈ ys, ∃ x ∈ xs, r x = .ok y := by
  induction xs generalizing ys with
  | nil =>
    cases h
    simp
  | cons x xs ih =>
    rw [List.mapM_cons] at h
    obtain ⟨y, hx, h⟩ := bind_eq_ok h
    obtain ⟨ys', hxs, h⟩ := bind_eq_ok h
    cases h
    obtain ⟨hl, hr⟩ := ih hxs
    refine ⟨fun x' hx' => ?_, fun y' hy' => ?_⟩
    · rcases List.mem_cons.mp hx' with rfl | hx'
      · exact ⟨y, List.mem_cons_self, hx⟩
      · obtain ⟨y', hy', h'⟩ := hl x' hx'
        exact ⟨y', List.mem_cons_of_mem _ hy', h'⟩
    · rcases List.mem_cons.mp hy' with rfl | hy'
      · exact ⟨x, List.mem_cons_self, hx⟩
      · obtain ⟨x', hx', h'⟩ := hr y' hy'
        exact ⟨x', List.mem_cons_of_mem _ hx', h'⟩

namespace Fields

theorem get?_of_text {f : Fields} {k v : String} (h : f.text k = .ok v) : f.get? k = some v := by
  simp only [text] at h
  split at h <;> simp_all

theorem mem_of_get? {f : Fields} {k v : String} (h : f.get? k = some v) : (k, v) ∈ f.pairs := by
  simp only [get?, Option.map_eq_some_iff] at h
  obtain ⟨q, hq, rfl⟩ := h
  have hk : q.1 = k := by simpa using List.find?_some hq
  rw [← hk]
  exact List.mem_reverse.mp (List.mem_of_find?_eq_some hq)

theorem value_infix_of_pairOf {piece : List Char} {p : String × String}
    (h : pairOf piece = .ok p) : p.2.toList <:+: piece := by
  simp only [pairOf] at h
  split at h
  · cases h
  · rename_i c value hdrop
    cases h
    simp only [String.toList_ofList]
    have hsuf : c :: value <:+ piece := hdrop ▸ List.dropWhile_suffix _
    exact (isInfix_trimChars value).trans ((List.suffix_cons c value).isInfix.trans hsuf.isInfix)

/-- The pieces of a line that are read as pairs. -/
theorem mapM_pairOf_of_split {line delim : String} {fs : Fields} (h : split line delim = .ok fs) :
    (((Text.split delim.toList line.toList).map trimChars).filter (· ≠ [])).mapM pairOf =
      .ok fs.pairs := by
  simp only [split, bind, Except.bind, pure, Except.pure] at h
  split at h
  · cases h
  · cases h
    assumption

theorem value_infix_of_split {line delim : String} {fs : Fields} (h : split line delim = .ok fs) :
    ∀ p ∈ fs.pairs, ∃ piece ∈ Text.split delim.toList line.toList, p.2.toList <:+: piece := by
  intro p hp
  obtain ⟨w, hw, hread⟩ := (mapM_eq_ok (mapM_pairOf_of_split h)).2 p hp
  obtain ⟨piece, hpiece, rfl⟩ := List.mem_map.mp (List.mem_filter.mp hw).1
  exact ⟨piece, hpiece, (value_infix_of_pairOf hread).trans (isInfix_trimChars piece)⟩

end Fields

/-- A parsed sample's actor, if any, is named by the value that the split line holds for the
name, and that name is not the sentinel. -/
theorem split_of_parse {line delim : String} {t : Float} {s : Sample Float}
    (h : parse line delim = .ok (t, s)) :
    ∃ fs, Fields.split line delim = .ok fs ∧
      ∀ g ∈ s.focus, fs.get? "focus_actor_name" = some g.actorName ∧ g.actorName ≠ noFocus := by
  rw [parse] at h
  obtain ⟨fs, hfs, h⟩ := bind_eq_ok h
  obtain ⟨name, hname, h⟩ := bind_eq_ok h
  refine ⟨fs, hfs, fun g hg => ?_⟩
  -- the focus is read as nothing under the sentinel and as the named actor otherwise; the
  -- thirteen reads after it return it as read
  dsimp only at h
  split at h
  · obtain ⟨focus, hfocus, h⟩ := bind_eq_ok h
    iterate 13 obtain ⟨_, -, h⟩ := bind_eq_ok h
    cases hfocus
    cases h
    cases hg
  · rename_i hne
    obtain ⟨_, -, h⟩ := bind_eq_ok h
    obtain ⟨_, -, h⟩ := bind_eq_ok h
    obtain ⟨focus, hfocus, h⟩ := bind_eq_ok h
    iterate 13 obtain ⟨_, -, h⟩ := bind_eq_ok h
    cases hfocus
    cases h
    cases hg
    exact ⟨Fields.get?_of_text hname, hne⟩

theorem format_toList_eq_cons (s : Sample Float) (stamp : Float) (delim : String) :
    ∃ rest, (format s stamp delim).toList = 'r' :: rest := by
  rw [format_toList]
  exact ⟨_, by simp only [pairs, List.map_cons, List.flatMap_cons, pairChars, String.toList_append]; rfl⟩

/-- A sample with every number zero and every flag off, focused on the named actor at the
origin. -/
def zeroSample (name : String) : Sample Float where
  simulatorTime := 0.0
  deviceTime := 0.0
  streamTime := 0.0
  frame := 0
  combined := ⟨Vec3.zero, Vec3.zero, 0.0, false⟩
  left := ⟨Vec3.zero, Vec3.zero, false, 0.0, false, Vec2.zero, false, 0.0⟩
  right := ⟨Vec3.zero, Vec3.zero, false, 0.0, false, Vec2.zero, false, 0.0⟩
  headLocation := Vec3.zero
  headRotation := Vec3.zero
  focus := some ⟨name, Vec3.zero, 0.0⟩

/-- The zero sample focused on an actor named by an underscore and the delimiter. -/
def namingSample (delim : String) : Sample Float := zeroSample ("_" ++ delim)

theorem parse_format_ne_of_rejected {delim : String}
    (hrej : (MessageConfig.mk delim).validate ≠ .ok ()) :
    ∃ (s : Sample Float) (t : Float), NameInPair s ∧ (∀ f ∈ s.focus, f.actorName ≠ noFocus) ∧
      (∀ x ∈ t :: s.floats, x.isNaN = false ∧ readFloat (floatText x) = .ok x) ∧
      parse (format s t delim) delim ≠ .ok (t, s) := by
  have hall : ∀ c ∈ delim.toList, inPair c = true := by
    intro c hc
    cases hic : inPair c with
    | true => rfl
    | false => exact absurd ((MessageConfig.validate_eq_ok_iff _).mpr ⟨c, hc, hic⟩) hrej
  refine ⟨namingSample delim, 0.0, ?_, ?_, ?_, ?_⟩
  · intro f hf c hc
    cases hf
    simp only [String.toList_append, List.mem_append] at hc
    rcases hc with hc | hc
    · rw [show "_".toList = ['_'] from rfl, List.mem_singleton] at hc
      subst hc
      exact inPair_of_mem_pairPunctuation (by decide)
    · exact hall c hc
  · intro f hf heq
    cases hf
    have h := congrArg String.toList heq
    rw [String.toList_append, show "_".toList = ['_'] from rfl,
      show noFocus.toList = ['N', 'o', 'n', 'e'] from rfl] at h
    cases h
  · intro x hx
    simp [Sample.floats, Eye.floats, namingSample, zeroSample, Vec3.zero, Vec2.zero] at hx
    subst hx
    exact ⟨rfl, readFloat_floatText _⟩
  · intro h
    obtain ⟨fs, hfs, hname⟩ := split_of_parse h
    by_cases hd : delim.toList = []
    · -- the empty delimiter cuts the line into characters, and the first, `r`, is no pair
      obtain ⟨rest, hline⟩ := format_toList_eq_cons (namingSample delim) 0.0 delim
      have hsplit : ['r'] ∈ Text.split delim.toList (format (namingSample delim) 0.0 delim).toList := by
        rw [hd, hline, split_nil, List.map_cons, List.cons_append]
        exact List.mem_cons_of_mem _ List.mem_cons_self
      have hr : ['r'] ∈ ((Text.split delim.toList (format (namingSample delim) 0.0 delim).toList).map
          trimChars).filter (· ≠ []) :=
        List.mem_filter.mpr ⟨List.mem_map.mpr ⟨['r'], hsplit,
          trimChars_of_inPair (forall_inPair_of_ascii (by decide))⟩, by decide⟩
      obtain ⟨p, -, hp⟩ := (mapM_eq_ok (Fields.mapM_pairOf_of_split hfs)).1 _ hr
      cases hp
    · -- no piece holds a nonempty delimiter, but the actor's name ends with it
      obtain ⟨piece, hpiece, hinf⟩ :=
        Fields.value_infix_of_split hfs _ (Fields.mem_of_get? (hname _ rfl).1)
      apply not_infix_of_mem_split hd _ piece hpiece
      refine List.IsInfix.trans ?_ hinf
      rw [String.toList_append]
      exact (List.suffix_append _ _).isInfix

theorem comma_breaks_round_trip :
    ∃ (s : Sample Float) (t : Float), NameInPair s ∧ (∀ f ∈ s.focus, f.actorName ≠ noFocus) ∧
      (∀ x ∈ t :: s.floats, x.isNaN = false ∧ readFloat (floatText x) = .ok x) ∧
      parse (format s t ",") "," ≠ .ok (t, s) :=
  parse_format_ne_of_rejected fun h => by
    obtain ⟨c, hc, hcf⟩ := (MessageConfig.validate_eq_ok_iff _).mp h
    have hall : ∀ c ∈ ",".toList, inPair c = true := forall_inPair_of_ascii (by decide)
    rw [hall c hc] at hcf
    cases hcf

end Gaze.Message
