/-!
Splitting a text at a separator.

The separator's occurrences are found from the left and do not overlap: after a match the search
continues behind it. The pieces are the texts between the occurrences, so there is always one
more piece than there are occurrences. An empty separator occurs before every character and at
the end, so it cuts a text into its characters with an empty piece at each end.
-/

namespace Gaze.Text

/-- The pieces of `s` between the occurrences of the nonempty separator `sep`; `acc` holds the
current piece reversed. -/
def splitNonempty (sep : List Char) (hsep : sep ≠ []) (s acc : List Char) : List (List Char) :=
  match s with
  | [] => [acc.reverse]
  | c :: rest =>
    if sep.isPrefixOf (c :: rest) then
      acc.reverse :: splitNonempty sep hsep ((c :: rest).drop sep.length) []
    else splitNonempty sep hsep rest (c :: acc)
termination_by s.length
decreasing_by
  · have : sep.length ≠ 0 := by simpa using hsep
    simp only [List.length_drop, List.length_cons]
    omega
  · simp only [List.length_cons]
    omega

/-- The pieces of `s` between the occurrences of `sep`. -/
def split (sep s : List Char) : List (List Char) :=
  match sep with
  | [] => [] :: s.map (fun c => [c]) ++ [[]]
  | d :: ds => splitNonempty (d :: ds) (List.cons_ne_nil d ds) s []

end Gaze.Text
