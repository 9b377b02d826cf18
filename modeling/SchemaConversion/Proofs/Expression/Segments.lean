import SchemaConversion.Expression
import Mathlib.Data.List.Basic

/-!
# The parts of a condition

A condition is read character by character, with the letters of the current word and the quote that
is open. What it is made of can be told without a reader:

> `segments`: stretches in quotes, each up to the same quote again or to the end of the condition,
> and outside of them maximal words and single other characters.

The parts put together are the condition (`flatMap_text`), and the reader does nothing but to put
the placeholder for the parts that are the word `VALUE`:

> `toList_forColumn`: the condition for a column consists of the parts of the condition, each word
> `VALUE` replaced and every other part as it is.
-/

namespace SchemaConversion.Expression

/-- A part of a condition. -/
inductive Segment where
  /-- A stretch in quotes with its quotes; the last one need not be closed. -/
  | quoted (text : List Char)
  /-- A word with its letters, digits and underscores. -/
  | word (letters : List Char)
  /-- Any other character. -/
  | mark (c : Char)
  deriving DecidableEq, Repr

/-- The characters of a part. -/
def Segment.text : Segment → List Char
  | .quoted text => text
  | .word letters => letters
  | .mark c => [c]

/-- The part with something in place of the word `VALUE`. -/
def Segment.withValue (value : List Char) : Segment → List Char
  | .word letters => if letters.map Char.toLower = "value".toList then value else letters
  | part => part.text

/-- A character that opens a stretch in quotes. -/
def isQuote (c : Char) : Bool := c = '\'' || c = '"'

/-- What follows an open quote, up to the quote that closes it. -/
def upTo (quote : Char) (l : List Char) : List Char :=
  l.takeWhile (· ≠ quote) ++ (l.dropWhile (· ≠ quote)).take 1

/-- What follows the quote that closes an open one. -/
def past (quote : Char) (l : List Char) : List Char := (l.dropWhile (· ≠ quote)).drop 1

theorem length_dropWhile_le (p : Char → Bool) (l : List Char) :
    (l.dropWhile p).length ≤ l.length :=
  (List.dropWhile_suffix p).length_le

theorem length_past_le (quote : Char) (l : List Char) : (past quote l).length ≤ l.length := by
  unfold past
  rw [List.length_drop]
  exact Nat.le_trans (Nat.sub_le _ _) (length_dropWhile_le _ l)

/-- The parts of a condition, in order. -/
def segments : List Char → List Segment
  | [] => []
  | c :: rest =>
    if isWordChar c then
      .word (c :: rest.takeWhile isWordChar) :: segments (rest.dropWhile isWordChar)
    else if isQuote c then .quoted (c :: upTo c rest) :: segments (past c rest)
    else .mark c :: segments rest
termination_by l => l.length
decreasing_by
  -- each part takes a character at least
  · exact Nat.lt_succ_of_le (length_dropWhile_le _ rest)
  · exact Nat.lt_succ_of_le (length_past_le c rest)
  · exact Nat.lt_succ_self _

/-- Nothing is lost between a stretch in quotes and what follows it. -/
theorem upTo_append_past (quote : Char) (l : List Char) : upTo quote l ++ past quote l = l := by
  unfold upTo past
  rw [List.append_assoc, List.take_append_drop, List.takeWhile_append_dropWhile]

/-- **The parts make up the condition.** -/
theorem flatMap_text (l : List Char) : (segments l).flatMap Segment.text = l := by
  induction l using segments.induct with
  | case1 => rw [segments, List.flatMap_nil]
  | case2 c rest hword ih =>
    rw [segments, if_pos hword, List.flatMap_cons, ih]
    exact congrArg (c :: ·) List.takeWhile_append_dropWhile
  | case3 c rest hword hquote ih =>
    rw [segments, if_neg hword, if_pos hquote, List.flatMap_cons, ih]
    exact congrArg (c :: ·) (upTo_append_past c rest)
  | case4 c rest hword hquote ih =>
    rw [segments, if_neg hword, if_neg hquote, List.flatMap_cons, ih]
    rfl

/-! ## The reader -/

theorem placeWord_nil : placeWord [] = [] := by
  rfl

/-- A word is read to its end. -/
theorem placeColumn_outside (word l : List Char) :
    placeColumn (.outside word) l =
      placeWord (word.reverse ++ l.takeWhile isWordChar) ++
        placeColumn (.outside []) (l.dropWhile isWordChar) := by
  induction l generalizing word with
  | nil => simp [placeColumn, placeWord_nil]
  | cons c rest ih =>
    -- the letters read so far are kept in reverse, so the next one goes in front of them
    by_cases hc : isWordChar c = true
    · rw [placeColumn, if_pos hc, ih, List.reverse_cons, List.append_assoc,
        List.takeWhile_cons_of_pos hc, List.dropWhile_cons_of_pos hc, List.singleton_append]
    · rw [List.takeWhile_cons_of_neg hc, List.dropWhile_cons_of_neg hc, List.append_nil,
        placeColumn, placeColumn, if_neg hc, if_neg hc, List.reverse_nil, placeWord_nil,
        List.nil_append]

/-- A stretch in quotes is copied. -/
theorem placeColumn_quoted (quote : Char) (l : List Char) :
    placeColumn (.quoted quote) l = upTo quote l ++ placeColumn (.outside []) (past quote l) := by
  induction l with
  | nil => rfl
  | cons c rest ih =>
    rw [placeColumn]
    by_cases hc : c = quote
    · -- this is the quote that closes the stretch
      simp [hc, upTo, past]
    · rw [if_neg hc, ih]
      simp [hc, upTo, past]

/-- **The reader replaces the words `VALUE` among the parts.** -/
theorem placeColumn_eq (l : List Char) :
    placeColumn (.outside []) l =
      (segments l).flatMap (Segment.withValue columnPlaceholder.toList) := by
  induction l using segments.induct with
  | case1 => rw [segments, List.flatMap_nil, placeColumn, List.reverse_nil, placeWord_nil]
  | case2 c rest hword ih =>
    rw [segments, if_pos hword, List.flatMap_cons, ← ih, placeColumn, if_pos hword,
      placeColumn_outside]
    rfl
  | case3 c rest hword hquote ih =>
    have hopens : c = '\'' ∨ c = '"' := by simpa [isQuote] using hquote
    rw [segments, if_neg hword, if_pos hquote, List.flatMap_cons, ← ih, placeColumn,
      if_neg hword, if_pos (by simpa using hopens), placeColumn_quoted, List.reverse_nil,
      placeWord_nil]
    rfl
  | case4 c rest hword hquote ih =>
    have hcopied : ¬(c = '\'' ∨ c = '"') := by simpa [isQuote] using hquote
    rw [segments, if_neg hword, if_neg hquote, List.flatMap_cons, ← ih, placeColumn,
      if_neg hword, if_neg (by simpa using hcopied), List.reverse_nil, placeWord_nil]
    rfl

/-- **The condition for a column, part by part.** -/
theorem toList_forColumn (condition : String) :
    (forColumn condition).toList =
      (segments condition.toList).flatMap (Segment.withValue columnPlaceholder.toList) := by
  unfold forColumn
  rw [String.toList_ofList, placeColumn_eq]

example : forColumn "VALUE <> 'it''s value' OR \"value\" = Value" =
    "\x7bcolumn\x7d <> 'it''s value' OR \"value\" = \x7bcolumn\x7d" := by decide +kernel

end SchemaConversion.Expression
