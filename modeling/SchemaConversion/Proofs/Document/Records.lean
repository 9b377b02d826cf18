import SchemaConversion.Dictionary
import SchemaConversion.Document.Decode
import SchemaConversion.Document.Encode
import Mathlib.Data.List.Nodup

/-!
# What decoders find in records

Encoders put records together from members, some of which are left out. Decoders look members up by
name, and refuse records in which a name is repeated. Both sides are about the same list of names,
each with the document that stands for it or with nothing:

> `members?_record`: if the names differ, the record is not refused, and under each of them the
> decoder finds what the encoder put there.

For each way in which a member is encoded there is one in which it is decoded: a required member, a
list that is left out when it is empty, and a value that is left out when it is missing.
-/

namespace SchemaConversion

/-- Steps for the items of a list that all lead somewhere. -/
theorem mapM_eq_some {α β : Type} {f : α → Option β} {g : α → β} {l : List α}
    (h : ∀ a ∈ l, f a = some (g a)) : l.mapM f = some (l.map g) := by
  induction l with
  | nil => rfl
  | cons a l ih =>
    rw [List.mapM_cons, h a List.mem_cons_self, ih fun b hb => h b (List.mem_cons_of_mem a hb)]
    rfl

namespace Document

/-! ## Members -/

/-- The names of a record, each with the document that stands there unless it is left out. -/
abbrev Slots := List (String × Option Document)

/-- The entries of a record for some names. -/
def Slots.entries (slots : Slots) : Entries :=
  slots.filterMap fun slot => slot.2.map fun d => (slot.1, d)

/-- What stands under each name. -/
def Slots.members (slots : Slots) : Members Document := fun name => (slots.lookup name).join

/-- The names that are there are some of the names. -/
theorem Slots.keys_sublist (slots : Slots) :
    (slots.entries.map Prod.fst).Sublist (slots.map Prod.fst) := by
  unfold entries
  induction slots with
  | nil => exact List.Sublist.refl _
  | cons slot rest ih =>
    obtain ⟨name, d?⟩ := slot
    cases d? with
    | none => exact ih.cons _
    | some d => exact ih.cons_cons _

/-- Under a name there is what the name was given. -/
theorem Slots.lookup_entries {slots : Slots} (h : (slots.map Prod.fst).Nodup) (name : String) :
    slots.entries.lookup name = slots.members name := by
  unfold members
  induction slots with
  | nil => rfl
  | cons slot rest ih =>
    obtain ⟨key, d?⟩ := slot
    obtain ⟨hnew, hrest⟩ := List.nodup_cons.1 h
    rw [Dictionary.lookup_cons_ite]
    cases d? with
    | some d =>
      show ((key, d) :: Slots.entries rest).lookup name = _
      rw [Dictionary.lookup_cons_ite, ih hrest]
      split <;> rfl
    | none =>
      show (Slots.entries rest).lookup name = _
      rw [ih hrest]
      split
      · next heq =>
        -- the name is left out, and it is none of the others
        have hnone : rest.lookup key = none := by
          rw [List.lookup_eq_none_iff]
          intro slot hslot
          have hmem : slot.1 ∈ rest.map Prod.fst := List.mem_map_of_mem hslot
          have hne : key ≠ slot.1 := by
            rintro rfl
            exact hnew hmem
          exact bne_iff_ne.2 hne
        rw [heq, hnone]
        rfl
      · rfl

/-- Entries with different names are not refused, whichever names are known. -/
theorem known?_of_nodup {δ : Type} [Readable δ] {entries : List (String × δ)} (names : List String)
    (h : (entries.map Prod.fst).Nodup) :
    known? names entries = some fun name => entries.lookup name := by
  unfold known?
  rw [if_pos]
  -- no name is counted twice, which is all that is refused
  rw [List.all_eq_true]
  intro name _
  have hcount := List.nodup_iff_count_le_one.1 h name
  rw [List.count_eq_countP, List.countP_map, List.countP_eq_length_filter] at hcount
  exact decide_eq_true hcount

/-- What was given to the names of a record is what is known of its entries. -/
theorem known?_entries {slots : Slots} (names : List String) (h : (slots.map Prod.fst).Nodup) :
    known? names slots.entries = some slots.members := by
  rw [known?_of_nodup names (h.sublist slots.keys_sublist)]
  exact congrArg some (funext (Slots.lookup_entries h))

/-- **What a decoder finds in a record**: under each name what the encoder put there. -/
theorem members?_record (slots : Slots) (names : List String) (h : (slots.map Prod.fst).Nodup) :
    members? names (.record slots.entries) = some slots.members :=
  known?_entries names h

/-! ## Ways to encode a member -/

/-- A member that is left out when it is missing. -/
theorem optionalMember_entries {α : Type} (key : String) (encode : α → Document)
    (value : Option α) :
    optionalMember key encode value = Slots.entries [(key, value.map encode)] := by
  cases value <;> rfl

/-- A list, unless it is empty. -/
def nonempty {α : Type} (encode : α → Document) (values : List α) : Option Document :=
  if values.isEmpty then none else some (listOf encode values)

/-- A list that is left out when it is empty. -/
theorem listMember_entries {α : Type} (key : String) (encode : α → Document) (values : List α) :
    listMember key encode values = Slots.entries [(key, nonempty encode values)] := by
  unfold listMember nonempty
  cases values <;> rfl

theorem entries_append (slots slots' : Slots) :
    Slots.entries (slots ++ slots') = slots.entries ++ slots'.entries :=
  List.filterMap_append

/-- What is made of each item is a list of what the items are decoded to. -/
theorem listOf?_listOf {α : Type} {encode : α → Document} {decode : Document → Option α}
    {values : List α} (h : ∀ v ∈ values, decode (encode v) = some v) :
    listOf? decode (listOf encode values) = some values := by
  show (values.map encode).mapM decode = some values
  have hall : values.mapM (decode ∘ encode) = some (values.map id) := mapM_eq_some h
  rw [List.mapM_map, hall, List.map_id]

variable {m : Members Document} {name : String}

/-- A list that may be left out is decoded, the empty list for its absence. -/
theorem withDefault?_nonempty {α : Type} (encode : α → Document) {decode : Document → Option α}
    {values : List α} (hm : m name = nonempty encode values)
    (h : ∀ v ∈ values, decode (encode v) = some v) :
    m.withDefault? (listOf? decode) [] name = some values := by
  unfold Members.withDefault? nonempty at *
  rw [hm]
  cases values with
  | nil => rfl
  | cons v rest => exact listOf?_listOf h

/-- A value that may be left out is decoded, unless its document is taken for an absence. -/
theorem withDefault?_optional {α : Type} (encode : α → Document) {decode : Document → Option α}
    {value : Option α} (hm : m name = value.map encode)
    (h : ∀ v, Readable.isNull? (encode v) = some false ∧ decode (encode v) = some v) :
    m.withDefault? (optional? decode) none name = some value := by
  unfold Members.withDefault?
  rw [hm]
  cases value with
  | none => rfl
  | some v =>
    -- a document that says null would be read as an absence, and this one does not
    obtain ⟨hnull, hdecode⟩ := h v
    show optional? decode (encode v) = some (some v)
    unfold optional?
    rw [hnull, hdecode]
    rfl

/-! ## Values -/

theorem unsigned32?_toNat (n : UInt32) : unsigned32? (Document.natural n.toNat) = some n := by
  have hle : n.toNat ≤ maxUnsigned32 := Nat.le_pred_of_lt n.toNat_lt
  show (Option.filter (· ≤ maxUnsigned32) (some n.toNat)).map UInt32.ofNat = some n
  rw [Option.filter_some, if_pos (decide_eq_true hle), Option.map_some, UInt32.ofNat_toNat]

theorem unsigned64?_toNat (n : UInt64) : unsigned64? (Document.natural n.toNat) = some n := by
  have hle : n.toNat ≤ maxUnsigned64 := Nat.le_pred_of_lt n.toNat_lt
  show (Option.filter (· ≤ maxUnsigned64) (some n.toNat)).map UInt64.ofNat = some n
  rw [Option.filter_some, if_pos (decide_eq_true hle), Option.map_some, UInt64.ofNat_toNat]

theorem isReadable_listOf {α : Type} {encode : α → Document} {values : List α}
    (h : ∀ v, (encode v).isReadable = true) : (listOf encode values).isReadable = true := by
  have hall : areReadable (values.map encode) = true := by
    induction values with
    | nil => rfl
    | cons v rest ih =>
      rw [List.map_cons, areReadable, h v, ih]
      rfl
  unfold listOf
  rw [isReadable, hall]

end Document

end SchemaConversion
