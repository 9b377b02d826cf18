/-!
# Dictionaries

Values under texts, kept in the order of the keys. The order is part of the type, so two
dictionaries with the same values under the same keys are equal, and whatever goes through one
meets the keys in that order.
-/

namespace SchemaConversion

/-- A finite map from texts, its keys ascending. -/
structure Dictionary (α : Type) where
  entries : List (String × α)
  ascending : entries.Pairwise (fun a b => a.1 < b.1)

namespace Dictionary

variable {α β : Type}

/-- The dictionary without entries. -/
def empty : Dictionary α := ⟨[], .nil⟩

instance : Inhabited (Dictionary α) := ⟨empty⟩

instance [DecidableEq α] : DecidableEq (Dictionary α) := fun a b =>
  if h : a.entries = b.entries then
    isTrue (by cases a; cases b; simp_all)
  else isFalse (fun e => h (congrArg entries e))

/-- Puts an entry into its place in ascending entries, over an entry with the same key. -/
def insertEntry (key : String) (value : α) : List (String × α) → List (String × α)
  | [] => [(key, value)]
  | entry :: rest =>
    if key < entry.1 then (key, value) :: entry :: rest
    else if key = entry.1 then (key, value) :: rest
    else entry :: insertEntry key value rest

/-- Every entry after an insertion is the new one or was there before. -/
theorem mem_insertEntry {key : String} {value : α} {e : String × α} {entries : List (String × α)}
    (h : e ∈ insertEntry key value entries) : e = (key, value) ∨ e ∈ entries := by
  induction entries with
  | nil => exact Or.inl (by simpa [insertEntry] using h)
  | cons entry rest ih =>
    unfold insertEntry at h
    split at h
    · simpa using h
    · split at h
      · rcases List.mem_cons.1 h with h | h
        · exact Or.inl h
        · exact Or.inr (List.mem_cons_of_mem _ h)
      · rcases List.mem_cons.1 h with h | h
        · exact Or.inr (by simp [h])
        · rcases ih h with h | h
          · exact Or.inl h
          · exact Or.inr (List.mem_cons_of_mem _ h)

/-- Insertion keeps the keys ascending. -/
theorem pairwise_insertEntry (key : String) (value : α) {entries : List (String × α)}
    (h : entries.Pairwise (fun a b => a.1 < b.1)) :
    (insertEntry key value entries).Pairwise (fun a b => a.1 < b.1) := by
  induction entries with
  | nil => simp [insertEntry]
  | cons entry rest ih =>
    have hrest := List.pairwise_cons.1 h
    unfold insertEntry
    split
    · next hlt =>
      refine List.pairwise_cons.2 ⟨fun e he => ?_, h⟩
      rcases List.mem_cons.1 he with rfl | he
      · exact hlt
      · exact String.lt_trans hlt (hrest.1 e he)
    · next hnlt =>
      split
      · next heq =>
        exact List.pairwise_cons.2 ⟨fun e he => heq ▸ hrest.1 e he, hrest.2⟩
      · next hne =>
        refine List.pairwise_cons.2 ⟨fun e he => ?_, ih hrest.2⟩
        rcases mem_insertEntry he with rfl | he
        · refine Decidable.byContradiction fun hn => hne ?_
          exact String.le_antisymm (String.not_lt.1 hn) (String.not_lt.1 hnlt)
        · exact hrest.1 e he

/-- The dictionary with a value under a key, in place of the one that was there. -/
def insert (d : Dictionary α) (key : String) (value : α) : Dictionary α :=
  ⟨insertEntry key value d.entries, pairwise_insertEntry key value d.ascending⟩

/-- The entries of a list; of several with one key the last one counts. -/
def ofList (entries : List (String × α)) : Dictionary α :=
  entries.foldl (fun d e => d.insert e.1 e.2) empty

/-- The value under a key. -/
def find? (d : Dictionary α) (key : String) : Option α := d.entries.lookup key

/-- A list looked up entry by entry. -/
theorem lookup_cons_ite {κ : Type} [DecidableEq κ] (key key' : κ) (value : α)
    (entries : List (κ × α)) :
    ((key, value) :: entries).lookup key' =
      if key' = key then some value else entries.lookup key' := by
  rw [List.lookup_cons]
  by_cases h : key' = key
  · simp [h]
  · rw [beq_eq_false_iff_ne.2 h, if_neg h]

/-- Looking up after an insertion: the new value under its key, what was there under any other. -/
theorem lookup_insertEntry (key key' : String) (value : α) (entries : List (String × α)) :
    (insertEntry key value entries).lookup key' =
      if key' = key then some value else entries.lookup key' := by
  induction entries with
  | nil => exact lookup_cons_ite key key' value []
  | cons entry rest ih =>
    unfold insertEntry
    split
    · exact lookup_cons_ite key key' value _
    · split
      · next heq =>
        subst heq
        rw [lookup_cons_ite, lookup_cons_ite]
        split <;> rfl
      · next hne =>
        rw [lookup_cons_ite, lookup_cons_ite, ih]
        by_cases h : key' = entry.1
        · rw [if_pos h, if_pos h, if_neg fun e : key' = key => hne (e.symm.trans h)]
        · rw [if_neg h, if_neg h]

@[simp] theorem find?_insert (d : Dictionary α) (key key' : String) (value : α) :
    (d.insert key value).find? key' = if key' = key then some value else d.find? key' :=
  lookup_insertEntry key key' value d.entries

/-- Entries for the items of a list, none of which has this key: what was there is found. -/
theorem find?_foldl_insert_of_ne {key : β → String} {value : β → α} {items : List β}
    {d : Dictionary α} {k : String} (h : ∀ x ∈ items, key x ≠ k) :
    (items.foldl (fun d x => d.insert (key x) (value x)) d).find? k = d.find? k := by
  induction items generalizing d with
  | nil => rfl
  | cons x items ih =>
    rw [List.foldl_cons, ih fun y hy => h y (List.mem_cons_of_mem x hy), find?_insert,
      if_neg (h x List.mem_cons_self).symm]

/-- Entries for the items of a list: the one of an item is found, if no other has its key. -/
theorem find?_foldl_insert {key : β → String} {value : β → α} {items : List β}
    {d : Dictionary α} {x : β} (hx : x ∈ items) (hkey : ∀ y ∈ items, key y = key x → y = x) :
    (items.foldl (fun d x => d.insert (key x) (value x)) d).find? (key x) = some (value x) := by
  induction items generalizing d with
  | nil => cases hx
  | cons y items ih =>
    rw [List.foldl_cons]
    by_cases hmem : x ∈ items
    · exact ih hmem fun z hz => hkey z (List.mem_cons_of_mem y hz)
    · -- the entry is the last one under its key
      obtain rfl : x = y := (List.mem_cons.1 hx).resolve_right hmem
      have hlast : ∀ z ∈ items, key z ≠ key x := by
        intro z hz hsame
        rw [hkey z (List.mem_cons_of_mem x hz) hsame] at hz
        exact hmem hz
      rw [find?_foldl_insert_of_ne hlast, find?_insert, if_pos rfl]

/-- Looking up among entries whose keys are changed: the entry that alone has the key is found. -/
theorem find?_ofList_key {change : String → String} {entries : List (String × α)}
    {entry : String × α} (hentry : entry ∈ entries)
    (honly : ∀ other ∈ entries, change other.1 = change entry.1 → other = entry) :
    (ofList (entries.map fun e => (change e.1, e.2))).find? (change entry.1) = some entry.2 := by
  unfold ofList
  rw [List.foldl_map]
  exact find?_foldl_insert hentry honly

/-- A function of the values may be applied before or after looking up. -/
theorem find?_ofList_map (g : α → β) (entries : List (String × α)) (k : String) :
    (ofList (entries.map fun e => (e.1, g e.2))).find? k = ((ofList entries).find? k).map g := by
  have hfold (d : Dictionary α) (d' : Dictionary β)
      (h : ∀ k, d'.find? k = (d.find? k).map g) :
      ((entries.map fun e => (e.1, g e.2)).foldl (fun d e => d.insert e.1 e.2) d').find? k =
        ((entries.foldl (fun d e => d.insert e.1 e.2) d).find? k).map g := by
    induction entries generalizing d d' with
    | nil => exact h k
    | cons e rest ih =>
      refine ih (d.insert e.1 e.2) (d'.insert e.1 (g e.2)) fun k => ?_
      rw [find?_insert, find?_insert, h]
      split <;> rfl
  exact hfold empty empty fun _ => rfl

/-- What is found after entries for the items of a list: the entry of the list, or what was
there. -/
theorem find?_foldl_insert_or (entries : List (String × α)) (d : Dictionary α) (k : String) :
    (entries.foldl (fun d e => d.insert e.1 e.2) d).find? k =
      ((ofList entries).find? k).or (d.find? k) := by
  induction entries generalizing d with
  | nil => rfl
  | cons e rest ih =>
    have hlist : (ofList (e :: rest)).find? k =
        ((ofList rest).find? k).or ((empty.insert e.1 e.2).find? k) := ih (empty.insert e.1 e.2)
    rw [List.foldl_cons, ih, hlist, find?_insert, find?_insert, Option.or_assoc]
    split <;> rfl

/-- What is found among entries is one of them. -/
theorem mem_of_find?_ofList {entries : List (String × α)} {k : String} {value : α}
    (h : (ofList entries).find? k = some value) : (k, value) ∈ entries := by
  induction entries with
  | nil => cases h
  | cons e rest ih =>
    rw [ofList, List.foldl_cons, find?_foldl_insert_or, find?_insert] at h
    rcases Option.or_eq_some_iff.1 h with hrest | ⟨-, hfirst⟩
    · exact List.mem_cons_of_mem e (ih hrest)
    · by_cases hk : k = e.1
      · rw [if_pos hk] at hfirst
        cases hfirst
        rw [hk]
        exact List.mem_cons_self
      · rw [if_neg hk] at hfirst
        cases hfirst

/-- Something is found under the key of an entry. -/
theorem find?_ofList_isSome {entries : List (String × α)} {e : String × α} (h : e ∈ entries) :
    ((ofList entries).find? e.1).isSome = true := by
  induction entries with
  | nil => cases h
  | cons first rest ih =>
    rw [ofList, List.foldl_cons, find?_foldl_insert_or, find?_insert, Option.isSome_or]
    rcases List.mem_cons.1 h with rfl | hrest
    · rw [if_pos rfl]
      exact Bool.or_true _
    · rw [ih hrest]
      exact Bool.true_or _

/-- An entry behind all others is put at their end. -/
theorem insertEntry_of_lt {key : String} {value : α} {entries : List (String × α)}
    (h : ∀ e ∈ entries, e.1 < key) : insertEntry key value entries = entries ++ [(key, value)] := by
  induction entries with
  | nil => rfl
  | cons e rest ih =>
    have hlt : e.1 < key := h e List.mem_cons_self
    have hne : key ≠ e.1 := fun heq => String.lt_irrefl key (heq ▸ hlt)
    rw [insertEntry, if_neg (String.lt_asymm hlt), if_neg hne,
      ih fun e he => h e (List.mem_cons_of_mem _ he), List.cons_append]

/-- Ascending entries, one after the other, are put one behind the other. -/
theorem entries_foldl_insert {entries : List (String × α)} {d : Dictionary α}
    (h : (d.entries ++ entries).Pairwise fun a b => a.1 < b.1) :
    (entries.foldl (fun d e => d.insert e.1 e.2) d).entries = d.entries ++ entries := by
  induction entries generalizing d with
  | nil => exact (List.append_nil _).symm
  | cons e rest ih =>
    have hlast : (d.insert e.1 e.2).entries = d.entries ++ [e] :=
      insertEntry_of_lt fun x hx => (List.pairwise_append.1 h).2.2 x hx e List.mem_cons_self
    rw [List.foldl_cons, ih (by rw [hlast, List.append_assoc]; exact h), hlast, List.append_assoc]
    rfl

/-- A dictionary is the dictionary of its entries. -/
theorem ofList_entries (d : Dictionary α) : ofList d.entries = d := by
  have hentries : (ofList d.entries).entries = d.entries := entries_foldl_insert d.ascending
  cases d with
  | mk entries ascending =>
    show Dictionary.mk _ _ = _
    congr 1

/-- The keys in order. -/
def keys (d : Dictionary α) : List String := d.entries.map Prod.fst

/-- The values in the order of their keys. -/
def values (d : Dictionary α) : List α := d.entries.map Prod.snd

/-- What is found is one of the values. -/
theorem mem_values_of_find? {d : Dictionary α} {k : String} {value : α}
    (h : d.find? k = some value) : value ∈ d.values := by
  obtain ⟨before, after, hentries, -⟩ := List.lookup_eq_some_iff.1 h
  exact List.mem_map.2 ⟨(k, value), by simp [hentries], rfl⟩

/-- The number of entries. -/
def size (d : Dictionary α) : Nat := d.entries.length

/-- There is no entry. -/
def isEmpty (d : Dictionary α) : Bool := d.entries.isEmpty

/-- The dictionary with each value changed by a function of it and its key. -/
def map (f : String → α → β) (d : Dictionary α) : Dictionary β :=
  ⟨d.entries.map fun e => (e.1, f e.1 e.2), List.pairwise_map.2 d.ascending⟩

end Dictionary

end SchemaConversion
