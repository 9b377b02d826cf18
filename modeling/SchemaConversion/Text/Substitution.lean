/-!
# Finding and replacing a fixed text

`replaceAll` replaces the occurrences of a pattern from left to right, where one ends before the
next begins, and leaves everything else as it is. What is put in is never searched again.
-/

namespace SchemaConversion.Text

/-- The pattern occurs somewhere in the text. -/
def occurs (pattern : List Char) : List Char → Bool
  | [] => pattern.isEmpty
  | c :: rest => pattern.isPrefixOf (c :: rest) || occurs pattern rest

/-- Replaces in the text behind its first `skip` characters, which are dropped. -/
def replaceFrom (pattern replacement : List Char) : Nat → List Char → List Char
  | _, [] => []
  | skip + 1, _ :: rest => replaceFrom pattern replacement skip rest
  | 0, c :: rest =>
    if pattern.isPrefixOf (c :: rest) then
      replacement ++ replaceFrom pattern replacement (pattern.length - 1) rest
    else c :: replaceFrom pattern replacement 0 rest

/-- The text with each occurrence of the pattern, which is not empty, replaced. -/
def replaceAll (pattern replacement s : List Char) : List Char :=
  replaceFrom pattern replacement 0 s

/-- The string with each occurrence of the pattern, which is not empty, replaced. -/
def replaceText (pattern replacement s : String) : String :=
  String.ofList (replaceAll pattern.toList replacement.toList s.toList)

/-- The string contains the pattern. -/
def containsText (pattern s : String) : Bool := occurs pattern.toList s.toList

/-- A text without the pattern stays as it is. -/
theorem replaceAll_of_not_occurs {pattern s : List Char} (replacement : List Char)
    (h : occurs pattern s = false) : replaceAll pattern replacement s = s := by
  unfold replaceAll
  induction s with
  | nil => rfl
  | cons c rest ih =>
    simp only [occurs, Bool.or_eq_false_iff] at h
    simp [replaceFrom, h.1, ih h.2]

end SchemaConversion.Text
