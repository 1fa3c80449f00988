import Gaze.Text.Split

/-! Where splitting cuts. A separator that holds a character outside some class of characters is
never found inside a run of that class, not even across the end of the run into a copy of the
separator that follows it: the character outside the class could only be matched by a character
of the run or by the separator's own character one run length earlier, and by induction all of
the separator would then lie in the class. So a text of runs of the class, each followed by the
separator, splits into exactly those runs. Besides, no piece of a split holds the separator, and
the empty separator cuts a text into its characters. -/

namespace Gaze.Text

variable {sep : List Char} {p : Char → Bool} {c : Char}

/-- A separator with a character outside the class does not start inside a nonempty run of the
class followed by the separator itself. -/
theorem not_prefix_run_append (hc : c ∈ sep) (hpc : p c = false) {u rest : List Char}
    (hu : u ≠ []) (hup : ∀ x ∈ u, p x = true) : ¬sep <+: u ++ sep ++ rest := by
  intro h
  rw [List.append_assoc] at h
  -- strong induction on the position: the separator's character at `i` is a character of `u`,
  -- or else the separator's own character at `i - u.length`, which comes earlier
  have hall : ∀ i (hi : i < sep.length), p sep[i] = true := by
    intro i
    induction i using Nat.strongRecOn with
    | ind i ih =>
      intro hi
      rw [h.getElem hi]
      by_cases hiu : i < u.length
      · rw [List.getElem_append_left hiu]
        exact hup _ (List.getElem_mem _)
      · have hpos : 0 < u.length := List.length_pos_iff.mpr hu
        rw [List.getElem_append_right (by omega), List.getElem_append_left (by omega)]
        exact ih _ (by omega) _
  obtain ⟨i, hi, rfl⟩ := List.getElem_of_mem hc
  rw [hall i hi] at hpc
  exact Bool.noConfusion hpc

theorem not_prefix_run (hc : c ∈ sep) (hpc : p c = false) {u : List Char}
    (hup : ∀ x ∈ u, p x = true) : ¬sep <+: u := by
  intro h
  rw [hup c (h.subset hc)] at hpc
  exact Bool.noConfusion hpc

/-! ### Pieces where the separator first occurs at their end

A piece `w` followed by the separator is cut off as it is exactly when the separator does not
start inside `w`, that is, when it does not occur in `w` followed by all of the separator but
its last character. A run of a class is such a piece whenever the separator holds a character
outside the class, but so are many pieces that hold the separator's own characters. -/

/-- The separator does not start inside a nonempty piece where it first occurs at the end. -/
theorem not_prefix_append_of_not_infix {w rest : List Char} (hw : w ≠ [])
    (h : ¬sep <:+: w ++ sep.dropLast) : ¬sep <+: w ++ sep ++ rest := by
  intro hpre
  -- a prefix no longer than `w` and all but one character of `sep` lies in that part
  have hshort : w ++ sep.dropLast <+: w ++ sep ++ rest := by
    rw [List.append_assoc, List.prefix_append_right_inj]
    exact (List.dropLast_prefix sep).trans (List.prefix_append sep rest)
  have hlen : sep.length ≤ (w ++ sep.dropLast).length := by
    have := List.length_pos_iff.mpr hw
    simp only [List.length_append, List.length_dropLast]
    omega
  exact h (List.prefix_of_prefix_length_le hpre hshort hlen).isInfix

/-- A piece followed by the separator, which first occurs at its end, closes the current piece
there. -/
theorem splitNonempty_append_of_not_infix (hsep : sep ≠ []) (w rest acc : List Char)
    (h : ¬sep <:+: w ++ sep.dropLast) :
    splitNonempty sep hsep (w ++ sep ++ rest) acc =
      (acc.reverse ++ w) :: splitNonempty sep hsep rest [] := by
  induction w generalizing acc with
  | nil =>
    obtain ⟨d, ds, rfl⟩ := List.exists_cons_of_ne_nil hsep
    have hpre : (d :: ds).isPrefixOf (d :: (ds ++ rest)) = true :=
      List.isPrefixOf_iff_prefix.mpr (List.prefix_append (d :: ds) rest)
    rw [List.nil_append, List.cons_append, splitNonempty, if_pos hpre]
    simp
  | cons x w ih =>
    have hno : ¬sep.isPrefixOf (x :: (w ++ sep ++ rest)) = true := fun hpre =>
      not_prefix_append_of_not_infix (List.cons_ne_nil x w) h (List.isPrefixOf_iff_prefix.mp hpre)
    have htail : ¬sep <:+: w ++ sep.dropLast := fun hinf => h (List.infix_cons hinf)
    rw [List.cons_append, List.cons_append, splitNonempty, if_neg hno, ih _ htail]
    simp

/-- Pieces each followed by the separator, where it first occurs at the piece's end, split
into the pieces and an empty last piece. -/
theorem split_flatMap_append_of_not_infix (hsep : sep ≠ []) (ws : List (List Char))
    (hws : ∀ w ∈ ws, ¬sep <:+: w ++ sep.dropLast) :
    split sep (ws.flatMap (· ++ sep)) = ws ++ [[]] := by
  obtain ⟨d, ds, rfl⟩ := List.exists_cons_of_ne_nil hsep
  simp only [split]
  induction ws with
  | nil => simp [splitNonempty]
  | cons w ws ih =>
    rw [List.flatMap_cons, List.append_assoc, ← List.append_assoc w,
      splitNonempty_append_of_not_infix _ w _ [] (hws w List.mem_cons_self),
      ih fun v hv => hws v (List.mem_cons_of_mem w hv)]
    simp

/-- A run of a class is a piece where a separator with a character outside the class first
occurs at the end. -/
theorem not_infix_run_append_dropLast (hc : c ∈ sep) (hpc : p c = false) {w : List Char}
    (hw : ∀ x ∈ w, p x = true) : ¬sep <:+: w ++ sep.dropLast := by
  rintro ⟨a, b, hab⟩
  have hsep : sep ≠ [] := List.ne_nil_of_mem hc
  -- the occurrence starts inside the run, since the separator is longer than its own front
  have hlen : a.length < w.length := by
    have := congrArg List.length hab
    have := List.length_pos_iff.mpr hsep
    simp only [List.length_append, List.length_dropLast] at *
    omega
  have hrest : sep ++ b = w.drop a.length ++ sep.dropLast := by
    have := congrArg (List.drop a.length) hab
    rwa [List.append_assoc, List.drop_left, List.drop_append_of_le_length (Nat.le_of_lt hlen)]
      at this
  have hu : w.drop a.length ≠ [] := by simpa using hlen
  have hpre : sep <+: w.drop a.length ++ sep ++ [] := by
    rw [List.append_nil]
    refine List.IsPrefix.trans ⟨b, hrest⟩ ?_
    rw [List.prefix_append_right_inj]
    exact List.dropLast_prefix sep
  exact not_prefix_run_append hc hpc hu (fun x hx => hw x (List.mem_of_mem_drop hx)) hpre

/-! ### Runs of a class -/

/-- A run of the class followed by the separator closes the current piece at the separator. -/
theorem splitNonempty_run_append (hsep : sep ≠ []) (hc : c ∈ sep) (hpc : p c = false)
    (w rest acc : List Char) (hw : ∀ x ∈ w, p x = true) :
    splitNonempty sep hsep (w ++ sep ++ rest) acc =
      (acc.reverse ++ w) :: splitNonempty sep hsep rest [] :=
  splitNonempty_append_of_not_infix hsep w rest acc (not_infix_run_append_dropLast hc hpc hw)

theorem splitNonempty_run (hsep : sep ≠ []) (hc : c ∈ sep) (hpc : p c = false)
    (w acc : List Char) (hw : ∀ x ∈ w, p x = true) :
    splitNonempty sep hsep w acc = [acc.reverse ++ w] := by
  induction w generalizing acc with
  | nil => rw [splitNonempty]; simp
  | cons x w ih =>
    have hno : ¬sep.isPrefixOf (x :: w) = true := fun hpre =>
      not_prefix_run hc hpc hw (List.isPrefixOf_iff_prefix.mp hpre)
    rw [splitNonempty, if_neg hno, ih _ fun y hy => hw y (List.mem_cons_of_mem x hy)]
    simp

/-- Runs of the class, each followed by the separator, split into the runs and an empty last
piece. -/
theorem split_flatMap_append (hc : c ∈ sep) (hpc : p c = false) (ws : List (List Char))
    (hws : ∀ w ∈ ws, ∀ x ∈ w, p x = true) :
    split sep (ws.flatMap (· ++ sep)) = ws ++ [[]] :=
  split_flatMap_append_of_not_infix (List.ne_nil_of_mem hc) ws fun w hw =>
    not_infix_run_append_dropLast hc hpc (hws w hw)

/-- Runs of the class joined by the separator split back into the runs. -/
theorem split_intercalate (hc : c ∈ sep) (hpc : p c = false) (ws : List (List Char))
    (hne : ws ≠ []) (hws : ∀ w ∈ ws, ∀ x ∈ w, p x = true) :
    split sep (sep.intercalate ws) = ws := by
  obtain ⟨d, ds, rfl⟩ := List.exists_cons_of_ne_nil (List.ne_nil_of_mem hc)
  simp only [split]
  induction ws with
  | nil => exact absurd rfl hne
  | cons w ws ih =>
    cases ws with
    | nil => simpa using splitNonempty_run _ hc hpc w [] (hws w (by simp))
    | cons w' ws =>
      rw [List.intercalate_cons_cons,
        splitNonempty_run_append _ hc hpc w _ [] (hws w (by simp)),
        ih (List.cons_ne_nil _ _) fun v hv => hws v (List.mem_cons_of_mem w hv)]
      simp

/-! ### No piece holds the separator -/

/-- The separator starts at no position of the current piece, read on into the rest of the
text. -/
def NoMatchIn (sep acc s : List Char) : Prop :=
  ∀ i < acc.length, ¬sep <+: acc.reverse.drop i ++ s

theorem not_infix_of_noMatchIn (hsep : sep ≠ []) {acc s : List Char}
    (h : NoMatchIn sep acc s) : ¬sep <:+: acc.reverse := by
  rintro ⟨a, b, hab⟩
  have hlen : a.length < acc.length := by
    have := congrArg List.length hab
    have := List.length_pos_iff.mpr hsep
    simp at *
    omega
  apply h a.length hlen
  rw [← hab, List.append_assoc, List.drop_left, List.append_assoc]
  exact List.prefix_append _ _

theorem not_infix_of_mem_splitNonempty (hsep : sep ≠ []) (s acc : List Char)
    (hacc : NoMatchIn sep acc s) : ∀ piece ∈ splitNonempty sep hsep s acc, ¬sep <:+: piece := by
  fun_induction splitNonempty sep hsep s acc with
  | case1 acc =>
    intro piece hmem
    rw [List.mem_singleton.mp hmem]
    exact not_infix_of_noMatchIn hsep hacc
  | case2 acc c rest _ ih =>
    intro piece hmem
    rcases List.mem_cons.mp hmem with rfl | hmem
    · exact not_infix_of_noMatchIn hsep hacc
    · exact ih (fun i hi => absurd hi (Nat.not_lt_zero i)) piece hmem
  | case3 acc c rest hno ih =>
    -- pushing `c` keeps the invariant: at the new last position the separator does not start,
    -- since the split did not cut there
    refine ih (fun i hi hpre => ?_)
    simp only [List.reverse_cons, List.length_cons] at hi hpre
    by_cases hil : i < acc.length
    · apply hacc i hil
      rwa [List.drop_append_of_le_length (by simp; omega), List.append_assoc] at hpre
    · have hi' : i = acc.length := by omega
      subst hi'
      rw [List.drop_append_of_le_length (by simp), List.drop_of_length_le (by simp)] at hpre
      exact hno (List.isPrefixOf_iff_prefix.mpr (by simpa using hpre))

/-- No piece of a split at a nonempty separator holds the separator. -/
theorem not_infix_of_mem_split (hsep : sep ≠ []) (s piece : List Char)
    (hmem : piece ∈ split sep s) : ¬sep <:+: piece := by
  obtain ⟨d, ds, rfl⟩ := List.exists_cons_of_ne_nil hsep
  exact not_infix_of_mem_splitNonempty _ s [] (fun i hi => absurd hi (Nat.not_lt_zero i)) piece
    hmem

/-- The empty separator cuts a text into its characters, with an empty piece at each end. -/
theorem split_nil (s : List Char) : split [] s = [] :: s.map (fun c => [c]) ++ [[]] := rfl

end Gaze.Text
