import SchemaConversion.Proofs.Identifier
import Mathlib.Order.Bounds.Basic

/-!
# Where the base of a derived name is cut

A character takes one to four bytes, so a base cannot be cut wherever its bytes are used up. From
there one goes backwards, a byte at a time, to a position that cuts no character in two, and keeps
what stands before it. The beginning is such a position, so that there is one to be found:

> `isGreatest_boundaryFrom?`: going backwards stops at the last position that cuts no character.

These positions are the ends of the texts that the base begins with (`isValid_iff`), and the one
that is found is the end of the longest of them that fits:

> `derived_keeps_longest`: what a derived name keeps of its base is the longest beginning that
> leaves the bytes for the rest; going backwards stops at its end, where the base can be cut.
-/

namespace SchemaConversion.Identifier

variable {s front : String} {budget n : Nat}

/-- The longest text of whole characters that a text begins with and that fits the bytes. -/
structure IsLongestWithin (budget : Nat) (s front : String) : Prop where
  begins : front.toList <+: s.toList
  fits : front.utf8ByteSize ≤ budget
  longest : ∀ other : String, other.toList <+: s.toList → other.utf8ByteSize ≤ budget →
    other.toList <+: front.toList

/-- Goes backwards from a position to one that cuts no character in two, as long as there is a
position before it. -/
def boundaryFrom? (s : String) (n : Nat) : Option Nat :=
  if String.Pos.Raw.isValid s ⟨n⟩ then some n
  else
    match n with
    | 0 => none
    | before + 1 => boundaryFrom? s before

/-- The text before a position, if it cuts no character in two. -/
def before? (s : String) (n : Nat) : Option String :=
  if h : String.Pos.Raw.IsValid s ⟨n⟩ then some (s.sliceTo (s.pos ⟨n⟩ h)).copy else none

/-! ## Positions that cut no character -/

theorem exists_eq_append (h : front.toList <+: s.toList) : ∃ back, s = front ++ back := by
  obtain ⟨back, hback⟩ := h
  refine ⟨String.ofList back, ?_⟩
  rw [← String.toList_inj, String.toList_append, String.toList_ofList, hback]

/-- A position cuts no character if a text that the whole begins with ends there. -/
theorem isValid_iff :
    String.Pos.Raw.IsValid s ⟨n⟩ ↔
      ∃ front : String, front.toList <+: s.toList ∧ front.utf8ByteSize = n := by
  rw [String.Pos.Raw.isValid_iff_exists_append]
  constructor
  · rintro ⟨front, back, rfl, hend⟩
    exact ⟨front, ⟨back.toList, String.toList_append.symm⟩,
      (congrArg String.Pos.Raw.byteIdx hend).symm⟩
  · rintro ⟨front, hbegins, rfl⟩
    obtain ⟨back, hs⟩ := exists_eq_append hbegins
    exact ⟨front, back, hs, rfl⟩

/-- A text can be cut at the end of what it begins with. -/
theorem before?_eq (h : front.toList <+: s.toList) : before? s front.utf8ByteSize = some front := by
  have hvalid := isValid_iff.2 ⟨front, h, rfl⟩
  obtain ⟨back, hs⟩ := exists_eq_append h
  have hsplits : (s.pos ⟨front.utf8ByteSize⟩ hvalid).Splits front back := ⟨hs, String.offset_pos⟩
  rw [before?, dif_pos hvalid, hsplits.copy_sliceTo_eq]

theorem boundaryFrom?_of_isValid (h : String.Pos.Raw.IsValid s ⟨n⟩) :
    boundaryFrom? s n = some n := by
  unfold boundaryFrom?
  rw [if_pos (String.Pos.Raw.isValid_eq_true_iff.2 h)]

/-- **Going backwards stops**, and it does so at the last position that cuts no character. -/
theorem isGreatest_boundaryFrom? (s : String) (n : Nat) :
    ∃ stop, boundaryFrom? s n = some stop ∧
      IsGreatest {k | k ≤ n ∧ String.Pos.Raw.IsValid s ⟨k⟩} stop := by
  induction n with
  | zero =>
    have hvalid : String.Pos.Raw.IsValid s ⟨0⟩ := String.Pos.Raw.isValid_zero
    exact ⟨0, boundaryFrom?_of_isValid hvalid, ⟨Nat.le_refl 0, hvalid⟩, fun k hk => hk.1⟩
  | succ n ih =>
    by_cases hvalid : String.Pos.Raw.IsValid s ⟨n + 1⟩
    · exact ⟨n + 1, boundaryFrom?_of_isValid hvalid, ⟨Nat.le_refl _, hvalid⟩, fun k hk => hk.1⟩
    · -- the position itself is none of those that count, so that the ones before it decide
      obtain ⟨stop, hstop, ⟨hle, hstops⟩, hlast⟩ := ih
      refine ⟨stop, ?_, ⟨Nat.le_succ_of_le hle, hstops⟩, fun k hk => hlast ⟨?_, hk.2⟩⟩
      · rw [boundaryFrom?, if_neg (by simpa using hvalid)]
        exact hstop
      · have hne : k ≠ n + 1 := fun heq => hvalid (heq ▸ hk.2)
        have hle : k ≤ n + 1 := hk.1
        omega

/-! ## What is kept of the base -/

/-- What fits is not longer than what is taken. -/
theorem isPrefix_takeBytes {chars kept : List Char} (hbegins : kept <+: chars)
    (hfits : String.utf8Len kept ≤ budget) : kept <+: takeBytes budget chars := by
  induction chars generalizing budget kept with
  | nil => exact hbegins.trans List.nil_prefix
  | cons c rest ih =>
    -- a character that belongs to what fits is taken, and what is left of the bytes suffices
    cases kept with
    | nil => exact List.nil_prefix
    | cons d kept =>
      obtain ⟨rfl, hkept⟩ := List.cons_prefix_cons.1 hbegins
      rw [String.utf8Len_cons] at hfits
      rw [takeBytes, if_pos (by omega)]
      exact (List.prefix_cons_inj d).2 (ih hkept (by omega))

theorem isLongestWithin_takeBytes (budget : Nat) (s : String) :
    IsLongestWithin budget s (String.ofList (takeBytes budget s.toList)) where
  begins := by
    rw [String.toList_ofList]
    exact takeBytes_isPrefix budget s.toList
  fits := by
    rw [String.utf8ByteSize_ofList]
    exact takeBytes_size_le budget s.toList
  longest other hbegins hfits := by
    rw [String.toList_ofList]
    exact isPrefix_takeBytes hbegins (size_eq_utf8Len other ▸ hfits)

/-- The last position that cuts no character and is within the bytes is the end of the longest text
that is. -/
theorem IsLongestWithin.boundaryFrom?_eq (h : IsLongestWithin budget s front) :
    boundaryFrom? s (min s.utf8ByteSize budget) = some front.utf8ByteSize := by
  have hend : IsGreatest {k | k ≤ min s.utf8ByteSize budget ∧ String.Pos.Raw.IsValid s ⟨k⟩}
      front.utf8ByteSize := by
    have hfits := Nat.le_min.2 ⟨size_le_of_isPrefix h.begins, h.fits⟩
    refine ⟨⟨hfits, isValid_iff.2 ⟨front, h.begins, rfl⟩⟩, ?_⟩
    -- any other position that can be cut is the end of a shorter beginning
    rintro k ⟨hk, hvalid⟩
    obtain ⟨other, hbegins, rfl⟩ := isValid_iff.1 hvalid
    exact size_le_of_isPrefix (h.longest other hbegins (Nat.le_min.1 hk).2)
  obtain ⟨stop, hstop, hlast⟩ := isGreatest_boundaryFrom? s (min s.utf8ByteSize budget)
  rw [hstop, hlast.unique hend]

/-- **What is kept of the base of a derived name**: its longest beginning that leaves a byte for the
underscore and the bytes of the suffix. Going backwards stops at its end, where the base can be cut,
and the name fits if the suffix leaves a byte. -/
theorem derived_keeps_longest (base suffix : String) :
    ∃ kept : String,
      derived base suffix = kept ++ "_" ++ suffix ∧
      IsLongestWithin (maxBytes - (suffix.utf8ByteSize + 1)) base kept ∧
      boundaryFrom? base (min base.utf8ByteSize (maxBytes - (suffix.utf8ByteSize + 1))) =
        some kept.utf8ByteSize ∧
      before? base kept.utf8ByteSize = some kept ∧
      ((derived base suffix).utf8ByteSize ≤ maxBytes ↔ suffix.utf8ByteSize < maxBytes) := by
  have hkept := isLongestWithin_takeBytes (maxBytes - (suffix.utf8ByteSize + 1)) base
  exact ⟨_, rfl, hkept, hkept.boundaryFrom?_eq, before?_eq hkept.begins, derived_size_le_maxBytes⟩

end SchemaConversion.Identifier
