import SchemaConversion.Text.CodePoints

/-!
# Blank characters, trimming and words

Blank characters are the 25 of the Unicode property White_Space. Text is trimmed at both ends of
them, and cut at them into words; both are functions on character lists with a wrapper on strings.
-/

namespace SchemaConversion.Text

/-- The characters with the property White_Space. -/
def blankRanges : List (Nat × Nat) :=
  [(0x09, 0x0D), (0x20, 0x20), (0x85, 0x85), (0xA0, 0xA0), (0x1680, 0x1680), (0x2000, 0x200A),
    (0x2028, 0x2029), (0x202F, 0x202F), (0x205F, 0x205F), (0x3000, 0x3000)]

/-- White space of any script. -/
def isBlank (c : Char) : Bool := inRanges blankRanges c.toNat

/-- The text without the blanks before its first visible character. -/
def dropBlanks (s : List Char) : List Char := s.dropWhile isBlank

/-- The text without the blanks at either end. -/
def trimChars (s : List Char) : List Char := (dropBlanks (dropBlanks s).reverse).reverse

/-- The text without the blanks at either end. -/
def trim (s : String) : String := String.ofList (trimChars s.toList)

/-- A text that holds nothing but blanks. -/
def isBlankText (s : String) : Bool := s.toList.all isBlank

/-- The stretches between the characters that satisfy `cut`, empty ones included: one more than
there are such characters. -/
def pieces (cut : Char → Bool) : List Char → List (List Char)
  | [] => [[]]
  | c :: rest =>
    match pieces cut rest with
    | [] => []
    | piece :: more => if cut c then [] :: piece :: more else (c :: piece) :: more

/-- The maximal runs of visible characters, in order. -/
def words (s : List Char) : List (List Char) := (pieces isBlank s).filter (· ≠ [])

/-- There is always a stretch, so the empty case of `pieces` never arises. -/
theorem pieces_ne_nil (cut : Char → Bool) (s : List Char) : pieces cut s ≠ [] := by
  induction s with
  | nil => simp [pieces]
  | cons c rest ih =>
    unfold pieces
    split
    · contradiction
    · split <;> simp

/-- Trimming never lengthens. -/
theorem length_trimChars_le (s : List Char) : (trimChars s).length ≤ s.length := by
  have drop_le (t : List Char) : (dropBlanks t).length ≤ t.length :=
    (List.dropWhile_suffix isBlank).length_le
  have h := drop_le (dropBlanks s).reverse
  rw [List.length_reverse] at h
  rw [trimChars, List.length_reverse]
  exact Nat.le_trans h (drop_le s)

end SchemaConversion.Text
