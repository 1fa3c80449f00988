import Gaze.Proofs.RejectedDelimiter

/-! Writing a parsed message again.

Whatever line a message is parsed from, its values come back trimmed, and the actor's name is
never the sentinel for no actor. Writing the parsed sample again splits back into the written
pairs as soon as the delimiter, in the written pair of the actor's name followed by the
delimiter, first occurs at the end: every other pair is a run of characters of pairs. Only the
name can break this, since the parser lets it hold anything but the delimiter. A name that ends
in the start of a delimiter which overlaps itself, such as `x;` under `;;`, runs into the
delimiter written after it, and the line then cuts before the name's last character. -/

namespace Gaze.Text

theorem dropWhile_eq_self_of_head? {p : Char → Bool} {cs : List Char}
    (h : ∀ x ∈ cs.head?, p x = false) : cs.dropWhile p = cs := by
  cases cs with
  | nil => rfl
  | cons x xs => simp [h x rfl]

theorem head?_dropWhile (p : Char → Bool) (cs : List Char) :
    ∀ x ∈ (cs.dropWhile p).head?, p x = false := by
  intro x hx
  have hnot := List.head?_dropWhile_not p cs
  rw [Option.mem_def] at hx
  rw [hx] at hnot
  exact hnot

/-- A text whose two ends are not blank is its own trimming. -/
theorem trimChars_eq_self {cs : List Char} (hh : ∀ x ∈ cs.head?, isBlank x = false)
    (hl : ∀ x ∈ cs.getLast?, isBlank x = false) : trimChars cs = cs := by
  unfold trimChars
  rw [dropWhile_eq_self_of_head? hh,
    dropWhile_eq_self_of_head? (by rwa [List.head?_reverse]), List.reverse_reverse]

theorem getLast?_trimChars (cs : List Char) : ∀ x ∈ (trimChars cs).getLast?, isBlank x = false := by
  unfold trimChars
  rw [List.getLast?_reverse]
  exact head?_dropWhile _ _

theorem head?_trimChars (cs : List Char) : ∀ x ∈ (trimChars cs).head?, isBlank x = false := by
  intro x hx
  -- the trimmed text starts the text with its leading blanks dropped
  have hpre : trimChars cs <+: cs.dropWhile isBlank := by
    rw [trimChars, ← List.reverse_suffix, List.reverse_reverse]
    exact List.dropWhile_suffix _
  obtain ⟨t, ht⟩ := hpre
  have hx' : x ∈ (cs.dropWhile isBlank).head? := by
    rw [← ht, List.head?_append, Option.mem_def, Option.mem_def.mp hx]
    rfl
  exact head?_dropWhile isBlank cs x hx'

/-- Trimming twice trims nothing more. -/
theorem trimChars_trimChars (cs : List Char) : trimChars (trimChars cs) = trimChars cs :=
  trimChars_eq_self (head?_trimChars cs) (getLast?_trimChars cs)

end Gaze.Text

namespace Gaze.Message

open Text

/-! ### Writing a sample whose name is trimmed -/

/-- A value read from a piece is trimmed. -/
theorem value_trimmed_of_pairOf {piece : List Char} {p : String × String}
    (h : Fields.pairOf piece = .ok p) : trimChars p.2.toList = p.2.toList := by
  simp only [Fields.pairOf] at h
  split at h
  · cases h
  · cases h
    simp only [String.toList_ofList]
    exact trimChars_trimChars _

/-- A pair whose key is a nonempty run of pair characters and whose value is trimmed is written
as a trimmed piece: trimming sees the key's first character and the value's last, or the `=`. -/
theorem trimChars_pairChars {p : String × String} (hkey : p.1.toList ≠ [])
    (hkc : ∀ c ∈ p.1.toList, inPair c = true) (hv : trimChars p.2.toList = p.2.toList) :
    trimChars (pairChars p) = pairChars p := by
  obtain ⟨k, ks, hk⟩ := List.exists_cons_of_ne_nil hkey
  have hkb : isBlank k = false := isBlank_eq_false_of_inPair (hkc k (by rw [hk]; exact List.mem_cons_self))
  have heq : isBlank '=' = false := isBlank_eq_false_of_inPair (inPair_of_mem_pairPunctuation (by decide))
  rw [pairChars_eq]
  apply trimChars_eq_self
  · rw [hk]
    intro x hx
    cases hx
    exact hkb
  · intro x hx
    have hx' : x = p.2.toList.getLast?.getD '=' := by
      rw [List.getLast?_append, List.getLast?_cons, Option.some_or, Option.mem_def,
        Option.some.injEq] at hx
      exact hx.symm
    cases hl : p.2.toList.getLast? with
    | none =>
      rw [hx', hl, Option.getD_none]
      exact heq
    | some y =>
      rw [hx', hl, Option.getD_some]
      rw [← hv] at hl
      exact getLast?_trimChars _ y hl

/-- Every value of a message uses characters of pairs only, except the actor's name. -/
theorem value_inPair_or_name (s : Sample Float) (stamp : Float) :
    ∀ p ∈ pairs s stamp, (∀ c ∈ p.2.toList, inPair c = true) ∨
      ∃ g ∈ s.focus, p = ("focus_actor_name", g.actorName) := by
  cases hf : s.focus with
  | none =>
    intro p hp
    exact .inl (value_inPair (fun g hg => by rw [hf] at hg; cases hg) p hp)
  | some g =>
    -- the same sample with the sentinel as the name writes the same pairs but the name
    let s' : Sample Float := { s with focus := some { g with actorName := noFocus } }
    have hset : pairs s stamp = (pairs s' stamp).set 20 ("focus_actor_name", g.actorName) := by
      simp only [pairs, hf, s']
      rfl
    have hname : NameInPair s' := fun g' hg' => by
      cases hg'
      show ∀ c ∈ noFocus.toList, inPair c = true
      exact forall_inPair_of_ascii (by decide)
    intro p hp
    rw [hset] at hp
    rcases List.mem_or_eq_of_mem_set hp with hp | rfl
    · exact .inl (value_inPair hname p hp)
    · exact .inr ⟨g, rfl, rfl⟩

/-- The delimiter first occurs at the end of the written pair of an actor's name followed by
the delimiter. -/
def NameFits (delim : String) (s : Sample Float) : Prop :=
  ∀ g ∈ s.focus,
    ¬delim.toList <:+: ("focus_actor_name=" ++ g.actorName).toList ++ delim.toList.dropLast

/-- A line written under a delimiter with a character that no pair holds splits into the pairs
that were written, when the actor's name is trimmed and fits before the delimiter. -/
theorem split_format_of_fits {s : Sample Float} {stamp : Float} {delim : String} {c : Char}
    (hc : c ∈ delim.toList) (hcd : inPair c = false) (hfits : NameFits delim s)
    (htrim : ∀ g ∈ s.focus, trimChars g.actorName.toList = g.actorName.toList) :
    Fields.split (format s stamp delim) delim = .ok ⟨pairs s stamp⟩ := by
  have hsep : delim.toList ≠ [] := List.ne_nil_of_mem hc
  have hkeys : ∀ p ∈ pairs s stamp, p.1.toList ≠ [] ∧ '=' ∉ p.1.toList ∧
      ∀ c ∈ p.1.toList, inPair c = true := fun p hp =>
    keys_shape p.1 (by rw [← map_fst_pairs s stamp]; exact List.mem_map_of_mem hp)
  -- each written pair is cut off as it is, comes out of trimming as it is, and has a trimmed
  -- value
  have hpiece : ∀ p ∈ pairs s stamp,
      ¬delim.toList <:+: pairChars p ++ delim.toList.dropLast ∧
      trimChars (pairChars p) = pairChars p ∧ trimChars p.2.toList = p.2.toList := by
    intro p hp
    rcases value_inPair_or_name s stamp p hp with hv | ⟨g, hg, rfl⟩
    · have hchars := pairChars_inPair (hkeys p hp).2.2 hv
      exact ⟨not_infix_run_append_dropLast hc hcd hchars, trimChars_of_inPair hchars,
        trimChars_of_inPair hv⟩
    · have hname : pairChars ("focus_actor_name", g.actorName) =
          ("focus_actor_name=" ++ g.actorName).toList := by
        simp only [pairChars, String.toList_append]
        rfl
      refine ⟨hname ▸ hfits g hg, ?_, htrim g hg⟩
      exact trimChars_pairChars (hkeys _ hp).1 (hkeys _ hp).2.2 (htrim g hg)
  have hpieces : ((Text.split delim.toList (format s stamp delim).toList).map trimChars).filter
      (· ≠ []) = (pairs s stamp).map pairChars := by
    have htrim' : ((pairs s stamp).map pairChars).map trimChars = (pairs s stamp).map pairChars := by
      rw [List.map_map]
      exact List.map_congr_left fun p hp => (hpiece p hp).2.1
    rw [format_toList, split_flatMap_append_of_not_infix hsep _ fun w hw => by
        obtain ⟨p, hp, rfl⟩ := List.mem_map.mp hw
        exact (hpiece p hp).1,
      List.map_append, htrim']
    simp only [List.map_cons, List.map_nil, List.filter_append, List.filter_cons,
      trimChars_of_forall (List.forall_mem_nil _)]
    rw [List.filter_eq_self.mpr]
    · simp
    · intro w hw
      obtain ⟨p, hp, rfl⟩ := List.mem_map.mp hw
      simp [pairChars, String.toList_append]
  simp only [Fields.split, hpieces, mapM_map_eq_ok fun p hp =>
    pairOf_pairChars_of_trimmed (hkeys p hp).2.1 (hkeys p hp).2.2 (hpiece p hp).2.2]
  rfl

/-- A sample whose actor's name is trimmed, fits before an accepted delimiter and is not the
sentinel is read back from its message. -/
theorem parse_format_of_fits {s : Sample Float} {stamp : Float} {delim : String}
    (hdelim : (MessageConfig.mk delim).validate = .ok ()) (hfits : NameFits delim s)
    (htrim : ∀ g ∈ s.focus, trimChars g.actorName.toList = g.actorName.toList)
    (hnone : ∀ g ∈ s.focus, g.actorName ≠ noFocus) :
    parse (format s stamp delim) delim = .ok (stamp, s) := by
  obtain ⟨c, hc, hcd⟩ := (MessageConfig.validate_eq_ok_iff _).mp hdelim
  exact parse_eq_of_split (split_format_of_fits hc hcd hfits htrim) hnone
    fun x _ => readFloat_floatText x

/-! ### What a parsed sample is like -/

/-- The actor of a parsed sample is not named like the sentinel. -/
theorem actorName_ne_of_parse {line delim : String} {t : Float} {s : Sample Float}
    (h : parse line delim = .ok (t, s)) : ∀ g ∈ s.focus, g.actorName ≠ noFocus := by
  obtain ⟨fs, -, hname⟩ := split_of_parse h
  exact fun g hg => (hname g hg).2

/-- The actor's name of a parsed sample is trimmed. -/
theorem actorName_trimmed_of_parse {line delim : String} {t : Float} {s : Sample Float}
    (h : parse line delim = .ok (t, s)) :
    ∀ g ∈ s.focus, trimChars g.actorName.toList = g.actorName.toList := by
  obtain ⟨fs, hfs, hname⟩ := split_of_parse h
  intro g hg
  obtain ⟨w, -, hread⟩ :=
    (mapM_eq_ok (Fields.mapM_pairOf_of_split hfs)).2 _ (Fields.mem_of_get? (hname g hg).1)
  -- elaborated apart from the goal, which would otherwise first meet the unknown pair's value
  exact (value_trimmed_of_pairOf hread :)

/-- Writing a parsed message again under an accepted delimiter parses back to the same stamp and
sample, whenever the actor's name fits before the delimiter. -/
theorem parse_format_parse {line delim : String} {t : Float} {s : Sample Float}
    (hdelim : (MessageConfig.mk delim).validate = .ok ()) (hparse : parse line delim = .ok (t, s))
    (hfits : NameFits delim s) :
    parse (format s t delim) delim = .ok (t, s) :=
  parse_format_of_fits hdelim hfits (actorName_trimmed_of_parse hparse)
    (actorName_ne_of_parse hparse)

/-! ### Names under a delimiter that overlaps itself -/

theorem semicolons_accepted : (MessageConfig.mk ";;").validate = .ok () :=
  (MessageConfig.validate_eq_ok_iff _).mpr
    ⟨';', by decide, by decide +kernel⟩

/-- A name holding the delimiter's character, but not ending in the start of the delimiter, is
written and read back under a delimiter that overlaps itself. -/
theorem parse_format_parse_semicolon_name :
    (MessageConfig.mk ";;").validate = .ok () ∧
    parse (format (zeroSample "x;y") 0.0 ";;") ";;" = .ok (0.0, zeroSample "x;y") ∧
    NameFits ";;" (zeroSample "x;y") ∧
    parse (format (zeroSample "x;y") 0.0 ";;") ";;" = .ok (0.0, zeroSample "x;y") := by
  have hfits : NameFits ";;" (zeroSample "x;y") := by
    intro g hg
    cases hg
    decide
  have hparse : parse (format (zeroSample "x;y") 0.0 ";;") ";;" = .ok (0.0, zeroSample "x;y") :=
    parse_format_of_fits semicolons_accepted hfits (fun g hg => by cases hg; decide)
      fun g hg => by cases hg; decide
  exact ⟨semicolons_accepted, hparse, hfits, parse_format_parse semicolons_accepted hparse hfits⟩

/-- The line written for the actor `x; ` under `;;` splits where it was written, and trimming
reads the actor `x;`. -/
theorem parse_format_padded_name :
    parse (format (zeroSample "x; ") 0.0 ";;") ";;" = .ok (0.0, zeroSample "x;") := by
  have hfits : ∀ w ∈ (pairs (zeroSample "x; ") 0.0).map pairChars,
      ¬";;".toList <:+: w ++ ";;".toList.dropLast := by
    decide
  have hpieces : ((((pairs (zeroSample "x; ") 0.0).map pairChars ++ [[]]).map trimChars).filter
      (· ≠ [])).mapM Fields.pairOf = .ok (pairs (zeroSample "x;") 0.0) := by
    rfl
  have hsplit : Fields.split (format (zeroSample "x; ") 0.0 ";;") ";;" =
      .ok ⟨pairs (zeroSample "x;") 0.0⟩ := by
    simp only [Fields.split]
    rw [format_toList, split_flatMap_append_of_not_infix (by decide) _ hfits, hpieces]
    rfl
  exact parse_eq_of_split hsplit (fun g hg => by cases hg; decide) fun x _ => readFloat_floatText x

/-- Writing the actor `x;` under `;;` puts three semicolons after its name; the split cuts at
the first two, so the name's pair loses its semicolon and the point's pair gains one. -/
theorem split_format_semicolon_end :
    Text.split ";;".toList (format (zeroSample "x;") 0.0 ";;").toList =
      (((pairs (zeroSample "x;") 0.0).map pairChars).set 20 "focus_actor_name=x".toList).set 21
        ";focus_actor_pt={0,0,0}".toList ++ [[]] := by
  have hline : (format (zeroSample "x;") 0.0 ";;").toList =
      ((((pairs (zeroSample "x;") 0.0).map pairChars).set 20 "focus_actor_name=x".toList).set 21
        ";focus_actor_pt={0,0,0}".toList).flatMap (· ++ ";;".toList) := by
    rw [format_toList]
    rfl
  rw [hline, split_flatMap_append_of_not_infix (by decide) _ (by decide)]

/-- Re-encoding a parsed message can fail. The line written for the actor `x; ` under the
accepted delimiter `;;` parses to the actor `x;`, and the line written for that sample no longer
parses back to it. -/
theorem reencoding_cuts_name_before_delimiter :
    (MessageConfig.mk ";;").validate = .ok () ∧
    parse (format (zeroSample "x; ") 0.0 ";;") ";;" = .ok (0.0, zeroSample "x;") ∧
    parse (format (zeroSample "x;") 0.0 ";;") ";;" ≠ .ok (0.0, zeroSample "x;") := by
  refine ⟨semicolons_accepted, parse_format_padded_name, fun h => ?_⟩
  -- the name read back must lie inside one piece, and no piece holds `x;`
  obtain ⟨fs, hfs, hname⟩ := split_of_parse h
  obtain ⟨piece, hpiece, hinf⟩ :=
    Fields.value_infix_of_split hfs _ (Fields.mem_of_get? (hname _ rfl).1)
  rw [split_format_semicolon_end] at hpiece
  have hnone : ∀ w ∈ (((pairs (zeroSample "x;") 0.0).map pairChars).set 20
      "focus_actor_name=x".toList).set 21 ";focus_actor_pt={0,0,0}".toList ++ [[]],
      ¬"x;".toList <:+: w := by
    decide
  exact hnone piece hpiece hinf

end Gaze.Message
