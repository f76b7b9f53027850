import StatementPad.Text

/-! # Wrapped texts

A line that is too long is broken before a word. The gap in front of that word ends with the line: what has
no room in it, less the blank at which the line broke, goes on in the next one. A word that is longer than a
line is cut. Every character counts as one column.
-/
namespace StatementPad.Text

def words : Text → List (Text × Text)
  | [] => []
  | c :: rest =>
    match words rest with
    | [] => if c = ' ' then [([c], [])] else [([], [c])]
    | (gap, word) :: more =>
      if c = ' ' then (c :: gap, word) :: more
      else if gap.isEmpty then ([], c :: word) :: more
      else ([], [c]) :: (gap, word) :: more

def cutUp (width : Nat) (t : Text) : List Text :=
  if _h : width = 0 ∨ t.length ≤ width then [t]
  else t.take width :: cutUp width (t.drop width)
termination_by t.length
decreasing_by simp only [List.length_drop]; omega

/-- What is left of a gap that does not fit behind `line`. -/
def gapBelow (width : Nat) (line gap : Text) : Text :=
  let room := width - line.length
  if line.isEmpty then gap else if gap.length ≤ room then [] else gap.drop (room + 1)

def wrapFrom (width : Nat) (line : Text) : List (Text × Text) → List Text
  | [] => [line]
  | (gap, word) :: rest =>
    if line.length + gap.length + word.length ≤ width then wrapFrom width (line ++ gap ++ word) rest
    else
      let pieces := cutUp width (gapBelow width line gap ++ word)
      (if line.isEmpty then [] else [line]) ++ pieces.dropLast ++ wrapFrom width (pieces.getLastD []) rest

def wrapped (width : Nat) (t : Text) : List Text := wrapFrom width [] (words t)

end StatementPad.Text
