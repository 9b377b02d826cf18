import SchemaConversion.Schema.Codec
import SchemaConversion.Proofs.Conversion.Statistics
import SchemaConversion.Proofs.Document.Records

/-!
# Schemas survive being written and read

A schema document says everything about its schema: what is left out is what decoders take for
granted. A custom type is written as one record with its name, its category and the payload of the
category, and is read in three passes over that record, each of which passes over what the others
know.

> `CustomType.decode?_toDocument`, `SchemaObject.decode?_toDocument`: so it is with each part.

> `Schema.accept_toDocument_iff`: a schema is read back as it was, and accepted if it is valid.

Keys do not repeat: those of a record are names that the decoder knows, and those of a dictionary
differ because they ascend. Nothing is asked of names and texts.
-/

namespace SchemaConversion

open Document

/-! ## Fields and dictionaries -/

namespace Field

/-- The members of a field. -/
def slots (f : Field) : Slots :=
  [("name", some (.text f.name)), ("data_type", some (.text f.dataType)),
    ("nullable", some (.bool f.nullable))]

theorem decode?_toDocument (f : Field) : decode? f.toDocument = some f := by
  have hmembers := members?_record f.slots ["name", "data_type", "nullable"]
    (show ["name", "data_type", "nullable"].Nodup by decide)
  unfold decode?
  change members? _ f.toDocument = _ at hmembers
  rw [hmembers]
  rfl

end Field

/-- A dictionary is read back as it was, since its keys ascend. -/
theorem Dictionary.decode?_toDocument (d : Dictionary String) :
    Dictionary.decode? d.toDocument = some d := by
  have htexts : (d.entries.map fun entry => (entry.1, Document.text entry.2)).mapM
      (fun entry => (text? entry.2).map fun value => (entry.1, value)) = some d.entries := by
    have hall : d.entries.mapM (fun entry => (text? (Document.text entry.2)).map fun value =>
        (entry.1, value)) = some (d.entries.map id) := mapM_eq_some fun _ _ => rfl
    rw [List.mapM_map]
    rw [List.map_id] at hall
    exact hall
  show ((d.entries.map fun entry => (entry.1, Document.text entry.2)).mapM
      (fun entry => (text? entry.2).map fun value => (entry.1, value))).bind _ = _
  rw [htexts]
  exact congrArg some d.ofList_entries

/-- A dictionary, unless it is empty. -/
def Dictionary.nonempty (d : Dictionary String) : Option Document :=
  if d.isEmpty then none else some d.toDocument

/-- A dictionary that may be left out is decoded, the empty one for its absence. -/
theorem Dictionary.withDefault?_nonempty {m : Members Document} {name : String}
    (d : Dictionary String) (hm : m name = d.nonempty) :
    m.withDefault? Dictionary.decode? .empty name = some d := by
  unfold Members.withDefault?
  rw [hm]
  unfold nonempty
  cases hempty : d.isEmpty with
  | false => exact d.decode?_toDocument
  | true =>
    obtain ⟨entries, ascending⟩ := d
    obtain rfl := List.isEmpty_iff.1 hempty
    rfl

/-! ## Objects -/

namespace SchemaObject

/-- The members of an object. -/
def slots (o : SchemaObject) : Slots :=
  [("name", some (.text o.name)), ("fields", some (listOf Field.toDocument o.fields)),
    ("definition", o.definition.map .text), ("constraints", Document.nonempty .text o.constraints),
    ("properties", o.properties.nonempty)]

/-- An object is written as the record of its members. -/
theorem toDocument_eq (o : SchemaObject) : o.toDocument = .record o.slots.entries := by
  have hfront : [("name", Document.text o.name), ("fields", listOf Field.toDocument o.fields)] =
      Slots.entries [("name", some (.text o.name)),
        ("fields", some (listOf Field.toDocument o.fields))] := rfl
  -- the properties are left out if there are none, as their slot says
  have hproperties : (if o.properties.isEmpty then []
      else [("properties", o.properties.toDocument)]) =
        Slots.entries [("properties", o.properties.nonempty)] := by
    unfold Dictionary.nonempty
    cases o.properties.isEmpty <;> rfl
  unfold toDocument
  rw [hfront, optionalMember_entries, listMember_entries, hproperties, ← entries_append,
    ← entries_append, ← entries_append]
  rfl

/-- An object is read back as it was. -/
theorem decode?_toDocument (o : SchemaObject) : decode? o.toDocument = some o := by
  have hmembers := members?_record o.slots
    ["name", "fields", "definition", "constraints", "properties"]
    (show ["name", "fields", "definition", "constraints", "properties"].Nodup by decide)
  rw [← toDocument_eq] at hmembers
  -- in each member the decoder finds what its slot was given
  have hname : o.slots.members.required? text? "name" = some o.name := rfl
  have hfields : o.slots.members.withDefault? (listOf? Field.decode?) [] "fields" =
      some o.fields :=
    listOf?_listOf fun f _ => f.decode?_toDocument
  have hdefinition : o.slots.members.withDefault? (optional? text?) none "definition" =
      some o.definition :=
    withDefault?_optional .text rfl fun _ => ⟨rfl, rfl⟩
  have hconstraints : o.slots.members.withDefault? (listOf? text?) [] "constraints" =
      some o.constraints :=
    withDefault?_nonempty .text rfl fun _ _ => rfl
  have hproperties : o.slots.members.withDefault? Dictionary.decode? .empty "properties" =
      some o.properties := o.properties.withDefault?_nonempty rfl
  unfold decode?
  rw [hmembers]
  simp only [Option.bind_eq_bind, Option.bind_some]
  rw [hname, Option.bind_some, hfields, Option.bind_some, hdefinition, Option.bind_some,
    hconstraints, Option.bind_some, hproperties]
  rfl

end SchemaObject

/-! ## Custom types -/

theorem CompositeField.decode?_toDocument (f : CompositeField) :
    decode? f.toDocument = some f := by
  have hmembers := members?_record
    [("name", some (.text f.name)), ("data_type", some (.text f.dataType))]
    ["name", "data_type"] (show ["name", "data_type"].Nodup by decide)
  unfold decode?
  change members? _ f.toDocument = _ at hmembers
  rw [hmembers]
  rfl

theorem CustomCategory.ofName?_name (category : CustomCategory) :
    ofName? category.name = some category := by
  cases category <;> rfl

namespace CustomDefinition

/-- The members of the payload of a definition. -/
def slots : CustomDefinition → Slots
  | .enum values => [("values", some (texts values))]
  | .composite fields => [("fields", some (listOf CompositeField.toDocument fields))]
  | .domain baseType constraints =>
    [("base_type", some (.text baseType)), ("constraints", some (texts constraints))]
  | .array elementType => [("element_type", some (.text elementType))]
  | .range subtype => [("subtype", some (.text subtype))]
  | .spatial geometry srid =>
    [("geometry", some (.text geometry)), ("srid", srid.map fun n => .natural n.toNat)]
  | .temporal baseType => [("base_type", some (.text baseType))]
  | .binary maxLength => [("max_length", maxLength.map fun n => .natural n.toNat)]
  | .other definition => [("definition", some (.text definition))]

/-- The members of a definition behind the name of its type. -/
def allSlots (definition : CustomDefinition) : Slots :=
  ("category", some (.text definition.category.name)) :: definition.slots

theorem entries_eq (definition : CustomDefinition) :
    definition.entries = definition.allSlots.entries := by
  cases definition with
  | spatial geometry srid => cases srid <;> rfl
  | binary maxLength => cases maxLength <;> rfl
  | _ => rfl

end CustomDefinition

/-- The keys that a category knows. -/
def CustomCategory.payloadKeys : CustomCategory → List String
  | .enum => ["values"]
  | .composite => ["fields"]
  | .domain => ["base_type", "constraints"]
  | .array => ["element_type"]
  | .range => ["subtype"]
  | .spatial => ["geometry", "srid"]
  | .temporal => ["base_type"]
  | .binary => ["max_length"]
  | .other => ["definition"]

namespace CustomDefinition

/-- No key of a type repeats, neither that of its name nor that of its category. -/
theorem keys_nodup (definition : CustomDefinition) :
    ("name" :: definition.allSlots.map Prod.fst).Nodup := by
  have hkeys :
      definition.allSlots.map Prod.fst = "category" :: definition.category.payloadKeys := by
    cases definition <;> rfl
  rw [hkeys]
  cases definition.category <;> decide

/-- What stands in a definition is readable. -/
theorem isReadable_of_mem {definition : CustomDefinition} {entry : String × Document}
    (h : entry ∈ definition.entries) : entry.2.isReadable = true := by
  rcases List.mem_cons.1 h with rfl | h
  · rfl
  cases definition with
  | enum values =>
    rw [List.mem_singleton.1 h]
    exact isReadable_listOf fun _ => rfl
  | composite fields =>
    rw [List.mem_singleton.1 h]
    exact isReadable_listOf fun _ => rfl
  | domain baseType constraints =>
    rcases List.mem_pair.1 h with rfl | rfl
    · rfl
    · exact isReadable_listOf fun _ => rfl
  | spatial geometry srid =>
    rcases List.mem_cons.1 h with rfl | h
    · rfl
    · obtain ⟨_, -, rfl⟩ := List.mem_map.1 h
      rfl
  | binary maxLength =>
    obtain ⟨_, -, rfl⟩ := List.mem_map.1 h
    rfl
  | _ =>
    rw [List.mem_singleton.1 h]
    rfl

/-- **The payload of a definition** is read back under its category. -/
theorem ofEntries?_entries (definition : CustomDefinition) :
    ofEntries? definition.entries definition.category = some definition := by
  -- whichever keys a category knows, the same members are found
  have hknown (names : List String) :
      known? names definition.entries = some definition.allSlots.members := by
    rw [entries_eq]
    exact known?_entries names (List.nodup_cons.1 definition.keys_nodup).2
  have htexts (values : List String) : listOf? text? (texts values) = some values :=
    listOf?_listOf fun _ _ => rfl
  cases definition <;>
    simp only [ofEntries?, category, hknown, Option.bind_eq_bind, Option.bind_some]
  case enum values =>
    have hvalues : (CustomDefinition.enum values).allSlots.members.required?
        (listOf? text?) "values" = some values := htexts values
    rw [hvalues]
    rfl
  case composite fields =>
    have hfields : (CustomDefinition.composite fields).allSlots.members.required?
        (listOf? CompositeField.decode?) "fields" = some fields :=
      listOf?_listOf fun f _ => f.decode?_toDocument
    rw [hfields]
    rfl
  case domain baseType constraints =>
    have hconstraints :
        (CustomDefinition.domain baseType constraints).allSlots.members.withDefault?
          (listOf? text?) [] "constraints" = some constraints := htexts constraints
    rw [hconstraints]
    rfl
  case spatial geometry srid =>
    have hsrid : (CustomDefinition.spatial geometry srid).allSlots.members.withDefault?
        (optional? unsigned32?) none "srid" = some srid :=
      withDefault?_optional (fun n => .natural n.toNat) rfl fun n =>
        ⟨rfl, unsigned32?_toNat n⟩
    rw [hsrid]
    rfl
  case binary maxLength =>
    have hlength : (CustomDefinition.binary maxLength).allSlots.members.withDefault?
        (optional? unsigned64?) none "max_length" = some maxLength :=
      withDefault?_optional (fun n => .natural n.toNat) rfl fun n =>
        ⟨rfl, unsigned64?_toNat n⟩
    rw [hlength]
    rfl
  -- a payload of a single text
  all_goals rfl

end CustomDefinition

namespace CustomType

/-- The members of a type. -/
def slots (t : CustomType) : Slots := ("name", some (.text t.name)) :: t.definition.allSlots

theorem toDocument_eq (t : CustomType) : t.toDocument = .record t.slots.entries := by
  unfold toDocument
  rw [CustomDefinition.entries_eq]
  rfl

/-- **A custom type is read back**, pass by pass. -/
theorem decode?_toDocument (t : CustomType) : decode? t.toDocument = some t := by
  have hnodup : (t.slots.map Prod.fst).Nodup := t.definition.keys_nodup
  have hentries : Readable.entries? t.toDocument =
      some (("name", .text t.name) :: t.definition.entries) := rfl
  have hown : known? ["name"] (("name", Document.text t.name) :: t.definition.entries) =
      some t.slots.members := by
    have hslots : ("name", Document.text t.name) :: t.definition.entries = t.slots.entries := by
      rw [CustomDefinition.entries_eq]
      rfl
    rw [hslots]
    exact known?_entries _ hnodup
  -- what is left beside the name is the definition
  have hrest : (("name", Document.text t.name) :: t.definition.entries).filter (·.1 ≠ "name") =
      t.definition.entries := by
    have hbeside : ∀ entry ∈ t.definition.entries, entry.1 ≠ "name" := by
      rw [CustomDefinition.entries_eq]
      intro entry hentry hname
      have hkey := t.definition.allSlots.keys_sublist.subset (List.mem_map_of_mem hentry)
      rw [hname] at hkey
      exact (List.nodup_cons.1 hnodup).1 hkey
    rw [List.filter_cons_of_neg (by simp), List.filter_eq_self]
    exact fun entry hentry => decide_eq_true (hbeside entry hentry)
  have hsettled : t.definition.entries.mapM (fun entry =>
      (Readable.settled? entry.2).map fun value => (entry.1, value)) =
        some t.definition.entries := by
    have hall : t.definition.entries.mapM (fun entry : String × Document =>
        (Readable.settled? entry.2).map fun value => (entry.1, value)) =
          some (t.definition.entries.map id) := by
      apply mapM_eq_some
      intro entry hentry
      show Option.map _ (if entry.2.isReadable then some entry.2 else none) = _
      rw [if_pos (CustomDefinition.isReadable_of_mem hentry)]
      rfl
    rw [List.map_id] at hall
    exact hall
  -- the second pass asks for the category, the third for what belongs to it
  have htag : known? ["category"] t.definition.entries = some t.definition.allSlots.members := by
    rw [CustomDefinition.entries_eq]
    exact known?_entries _ (List.nodup_cons.1 hnodup).2
  have hcategory : t.definition.allSlots.members.required? CustomCategory.decode? "category" =
      some t.definition.category :=
    CustomCategory.ofName?_name _
  unfold decode?
  rw [hentries]
  simp only [Option.bind_eq_bind, Option.bind_some]
  rw [hown, Option.bind_some]
  show (Option.bind (some t.name) _) = _
  rw [Option.bind_some, hrest, hsettled, Option.bind_some, htag, Option.bind_some, hcategory,
    Option.bind_some, CustomDefinition.ofEntries?_entries]
  rfl

end CustomType

/-! ## Schemas -/

namespace Schema

/-- The members of a schema. -/
def slots (s : Schema) : Slots :=
  ("name", some (.text s.name)) ::
    ContainerKind.all.map (fun k => (k.key, nonempty SchemaObject.toDocument (s.objects k))) ++
    [("types", nonempty CustomType.toDocument s.types)]

theorem slots_keys (s : Schema) : s.slots.map Prod.fst = documentKeys := by
  unfold slots documentKeys
  rw [List.map_append, List.map_cons, List.map_map]
  rfl

theorem documentKeys_nodup : documentKeys.Nodup := by decide

theorem toDocument_eq (s : Schema) : s.toDocument = .record s.slots.entries := by
  -- an empty container is left out, as its slot says
  have hcontainers (kinds : List ContainerKind) :
      kinds.flatMap (fun k => listMember k.key SchemaObject.toDocument (s.objects k)) =
        Slots.entries
          (kinds.map fun k => (k.key, nonempty SchemaObject.toDocument (s.objects k))) := by
    induction kinds with
    | nil => rfl
    | cons k rest ih =>
      rw [List.flatMap_cons, ih, listMember_entries, ← entries_append]
      rfl
  unfold toDocument
  rw [hcontainers, listMember_entries]
  unfold slots
  rw [entries_append]
  rfl

/-- Under the key of a container there are its objects. -/
theorem members_container (s : Schema) (k : ContainerKind) :
    s.slots.members k.key = nonempty SchemaObject.toDocument (s.objects k) := by
  cases k <;> rfl

/-- **A schema is read back as it was.** -/
theorem decode?_toDocument (s : Schema) : decode? s.toDocument = some s := by
  have hmembers : members? documentKeys s.toDocument = some s.slots.members := by
    rw [toDocument_eq]
    exact members?_record _ _ (s.slots_keys ▸ documentKeys_nodup)
  have hname : s.slots.members.required? text? "name" = some s.name := rfl
  have hcontainers : (ContainerKind.all.mapM fun k =>
      (s.slots.members.withDefault? (listOf? SchemaObject.decode?) [] k.key).map fun objects =>
        (k, objects)) = some (ContainerKind.all.map fun k => (k, s.objects k)) := by
    apply mapM_eq_some
    intro k _
    rw [withDefault?_nonempty _ (s.members_container k) fun o _ => o.decode?_toDocument]
    rfl
  have htypes : s.slots.members.withDefault? (listOf? CustomType.decode?) [] "types" =
      some s.types :=
    withDefault?_nonempty _ rfl fun t _ => t.decode?_toDocument
  -- the containers are put back where they were
  have hobjects : (fun k => ((ContainerKind.all.map fun k => (k, s.objects k)).lookup k).getD []) =
      s.objects := by
    funext k
    rw [lookup_map_key (fun k => k) id, if_pos k.mem_all, Option.getD_some]
  unfold decode?
  rw [hmembers]
  simp only [Option.bind_eq_bind, Option.bind_some]
  rw [hname, Option.bind_some, hcontainers, Option.bind_some, htypes, Option.bind_some, hobjects]

/-- **Schemas survive being written and read.** The document of a schema is read back as that
schema, and accepted if and only if the schema is valid; so is a text that is read as the
document. -/
theorem accept_toDocument_iff (s : Schema) :
    decode? s.toDocument = some s ∧
      (accept .json (decode? s.toDocument) = .ok s ↔ s.validate = .ok ()) ∧
      ∀ text, Json.read? text = some s.toDocument →
        (fromJson text = .ok s ↔ s.validate = .ok ()) := by
  have haccept : accept .json (decode? s.toDocument) = .ok s ↔ s.validate = .ok () := by
    rw [decode?_toDocument]
    show (s.validate.bind fun _ => Except.ok s) = Except.ok s ↔ _
    cases s.validate with
    | ok u => exact ⟨fun _ => rfl, fun _ => rfl⟩
    | error e => exact ⟨nofun, nofun⟩
  refine ⟨s.decode?_toDocument, haccept, fun text htext => ?_⟩
  unfold fromJson
  rw [htext]
  exact haccept

/-- A schema with a spatial type alone, all its containers left out. -/
def atlas : Schema where
  name := "atlas"
  objects _ := []
  types := [⟨"place", .spatial "POINT" (some 4326)⟩]

set_option maxRecDepth 4000 in
/-- The text of the atlas is read as its document, and the atlas is accepted. -/
theorem atlas_accepted :
    Json.read? (Json.compact atlas.toDocument) = some atlas.toDocument ∧
      atlas.validate = .ok () ∧ fromJson (Json.compact atlas.toDocument) = .ok atlas := by
  have hread : Json.read? (Json.compact atlas.toDocument) = some atlas.toDocument := by rfl
  have hvalid : atlas.validate = .ok () := by
    have herror : atlas.error? = none := by decide +kernel
    rw [validate, herror]
  obtain ⟨-, -, htext⟩ := accept_toDocument_iff atlas
  exact ⟨hread, hvalid, (htext _ hread).2 hvalid⟩

end Schema

end SchemaConversion
