import SchemaConversion.Identifier
import Mathlib.Data.String.Basic

/-!
# Derived names

A derived name keeps its suffix whole and cuts only its base, so whether it is usable depends on
the suffix alone:

> `fault?_derived`: a name derived from a usable base is usable if the suffix attaches, which is to
> say that it holds no null character and leaves a byte for the underscore.

> `derived_eq`: a base that fits is not cut.
-/

namespace SchemaConversion.Identifier

variable {base suffix name : String}

/-- A suffix that leaves the names derived with it usable. -/
def Attaches (suffix : String) : Prop :=
  '\x00' ∉ suffix.toList ∧ suffix.utf8ByteSize < maxBytes

instance (suffix : String) : Decidable (Attaches suffix) :=
  inferInstanceAs (Decidable (_ ∧ _))

/-- A usable name shows something, holds no null character and fits the bytes. -/
theorem fault?_eq_none :
    fault? name = none ↔
      Text.isBlankText name = false ∧ '\x00' ∉ name.toList ∧ name.utf8ByteSize ≤ maxBytes := by
  unfold fault?
  split
  · next hblank => simp [hblank]
  · next hshows =>
    split
    -- each test refuses exactly what one of the conditions excludes
    · next hnull => simpa using fun _ hno => absurd (List.contains_iff_mem.1 hnull) hno
    · next hnull =>
      split
      · next hlong => simpa using fun _ _ => hlong
      · next hfits => simpa using ⟨by simpa using hshows, by simpa using hnull, by omega⟩

/-! ## What is left of the base -/

theorem size_eq_utf8Len (s : String) : s.utf8ByteSize = String.utf8Len s.toList := by
  rw [← String.utf8ByteSize_ofList, String.ofList_toList]

/-- A text is no shorter than what it begins with. -/
theorem size_le_of_isPrefix {a b : String} (h : a.toList <+: b.toList) :
    a.utf8ByteSize ≤ b.utf8ByteSize := by
  obtain ⟨rest, hrest⟩ := h
  rw [size_eq_utf8Len, size_eq_utf8Len, ← hrest, String.utf8Len_append]
  exact Nat.le_add_right _ _

theorem takeBytes_isPrefix (budget : Nat) (chars : List Char) :
    takeBytes budget chars <+: chars := by
  induction chars generalizing budget with
  | nil => exact List.prefix_rfl
  | cons c rest ih =>
    unfold takeBytes
    split
    · exact (List.prefix_cons_inj c).2 (ih _)
    · exact List.nil_prefix

/-- What is taken fits. -/
theorem takeBytes_size_le (budget : Nat) (chars : List Char) :
    String.utf8Len (takeBytes budget chars) ≤ budget := by
  induction chars generalizing budget with
  | nil => exact Nat.zero_le _
  | cons c rest ih =>
    unfold takeBytes
    split
    · next hfits =>
      have hrest := ih (budget - c.utf8Size)
      rw [String.utf8Len_cons]
      omega
    · exact Nat.zero_le _

/-- What fits is left as it is. -/
theorem takeBytes_eq_self {budget : Nat} {chars : List Char} (h : String.utf8Len chars ≤ budget) :
    takeBytes budget chars = chars := by
  induction chars generalizing budget with
  | nil => rfl
  | cons c rest ih =>
    rw [String.utf8Len_cons] at h
    rw [takeBytes, if_pos (by omega), ih (by omega)]

/-! ## Derived names -/

theorem derived_toList (base suffix : String) :
    (derived base suffix).toList =
      takeBytes (maxBytes - (suffix.utf8ByteSize + 1)) base.toList ++ '_' :: suffix.toList := by
  unfold derived
  simp [String.toList_append]

theorem derived_size (base suffix : String) :
    (derived base suffix).utf8ByteSize =
      String.utf8Len (takeBytes (maxBytes - (suffix.utf8ByteSize + 1)) base.toList) + 1 +
        suffix.utf8ByteSize := by
  unfold derived
  rw [String.utf8ByteSize_append, String.utf8ByteSize_append, String.utf8ByteSize_ofList]
  rfl

/-- **A base that fits is not cut.** -/
theorem derived_eq (h : base.utf8ByteSize + 1 + suffix.utf8ByteSize ≤ maxBytes) :
    derived base suffix = base ++ "_" ++ suffix := by
  have hbase : String.utf8Len base.toList ≤ maxBytes - (suffix.utf8ByteSize + 1) := by
    rw [← size_eq_utf8Len]
    omega
  unfold derived
  rw [takeBytes_eq_self hbase, String.ofList_toList]

example : derived "address" "street" = "address_street" := by decide

/-- A derived name is no longer than its parts and the underscore. -/
theorem derived_size_le (base suffix : String) :
    (derived base suffix).utf8ByteSize ≤ base.utf8ByteSize + 1 + suffix.utf8ByteSize := by
  have hbase := takeBytes_isPrefix (maxBytes - (suffix.utf8ByteSize + 1)) base.toList
  rw [← String.toList_ofList (l := takeBytes _ _)] at hbase
  have hsize := size_le_of_isPrefix hbase
  rw [String.utf8ByteSize_ofList] at hsize
  rw [derived_size]
  omega

/-- A derived name fits if its suffix leaves a byte for the underscore. -/
theorem derived_size_le_maxBytes :
    (derived base suffix).utf8ByteSize ≤ maxBytes ↔ suffix.utf8ByteSize < maxBytes := by
  have hbase := takeBytes_size_le (maxBytes - (suffix.utf8ByteSize + 1)) base.toList
  rw [derived_size]
  omega

/-- An underscore is visible. -/
theorem derived_not_blank (base suffix : String) :
    Text.isBlankText (derived base suffix) = false := by
  unfold Text.isBlankText
  rw [derived_toList, List.all_append, List.all_cons]
  have hvisible : Text.isBlank '_' = false := by decide
  rw [hvisible, Bool.false_and, Bool.and_false]

/-- A null character can only come from the suffix. -/
theorem null_mem_derived (hbase : '\x00' ∉ base.toList) :
    '\x00' ∈ (derived base suffix).toList ↔ '\x00' ∈ suffix.toList := by
  -- what is taken of the base is part of it
  have hcut : '\x00' ∉ takeBytes (maxBytes - (suffix.utf8ByteSize + 1)) base.toList := fun hmem =>
    hbase ((takeBytes_isPrefix _ _).subset hmem)
  rw [derived_toList, List.mem_append, List.mem_cons]
  constructor
  · rintro (hmem | hmem | hmem)
    · exact absurd hmem hcut
    · cases hmem
    · exact hmem
  · exact fun hmem => .inr (.inr hmem)

/-- **A name derived from a usable base is usable if its suffix attaches.** -/
theorem fault?_derived (hbase : fault? base = none) :
    fault? (derived base suffix) = none ↔ Attaches suffix := by
  obtain ⟨-, hnull, -⟩ := fault?_eq_none.1 hbase
  rw [fault?_eq_none, null_mem_derived hnull, derived_size_le_maxBytes]
  exact ⟨And.right, fun hattaches => ⟨derived_not_blank base suffix, hattaches⟩⟩

end SchemaConversion.Identifier
