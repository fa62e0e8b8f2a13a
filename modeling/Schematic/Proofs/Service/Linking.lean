import Schematic.Proofs.Graph.References
import Schematic.Proofs.Service.Faithfulness
import Schematic.Proofs.Source.Integrity

set_option autoImplicit false

namespace Schematic

open Schematic.Action

-- The ids of a row of an entity of a data model and of a row of a field that belongs to it, by the names of their records.
def Slot (rows : List (Row Int EntityRecord)) (slots : List (Row Int FieldRecord)) (dataModelId : Int) (entity field : String)
    (entityId fieldId : Int) : Prop :=
  (∃ row ∈ rows, ∃ record, row.id = entityId ∧ row.parent = some dataModelId ∧ row.record = .ok record ∧ record.name = entity) ∧
    ∃ slot ∈ slots, ∃ record, slot.id = fieldId ∧ slot.parent = some entityId ∧ slot.record = .ok record ∧ record.name = field

structure Linked (tables : Tables) (dataModelId : Int) (identifier : String) (entities : List Entity) (place : Entity × Field)
    (record : RelationRecord) : Prop where
  origin : Slot tables.entities.rows tables.fields.rows dataModelId place.1.name place.2.name record.fromEntityId record.fromFieldId
  target : ∃ other ∈ entities, ∃ named name, place.2.type.base = .ref other.name named ∧ PointsTo identifier other named name ∧
    Slot tables.entities.rows tables.fields.rows dataModelId other.name name record.toEntityId record.toFieldId
  many : record.cardinality = .oneToMany ↔ place.2.type.isArray = true
  nullable : record.isNullable = place.2.modifiers.isNullable

structure Told (identifier : String) (entities : List Entity) (place : Entity × Field) (diagnostic : Diagnostic) : Prop where
  line : diagnostic.line = place.2.line
  kind : diagnostic.problem.kind = .referential
  subject : ∃ relation, place.2.relation? entities identifier place.1.name = some relation ∧
    diagnostic.problem = .relationSkipped relation

-- What comes of reference fields in order: those that are stranded are reported, the others are stored in the next row.
inductive Accounts (tables : Tables) (dataModelId : Int) (identifier : String) (entities : List Entity) :
    List (Entity × Field) → List Diagnostic → List (Row Int RelationRecord) → Prop where
  | nil : Accounts tables dataModelId identifier entities [] [] []
  | skipped (place : Entity × Field) (places : List (Entity × Field)) (diagnostic : Diagnostic) (skipped : List Diagnostic)
      (rows : List (Row Int RelationRecord)) (stranded : Stranded identifier entities place.2)
      (told : Told identifier entities place diagnostic)
      (later : Accounts tables dataModelId identifier entities places skipped rows) :
      Accounts tables dataModelId identifier entities (place :: places) (diagnostic :: skipped) rows
  | linked (place : Entity × Field) (places : List (Entity × Field)) (skipped : List Diagnostic) (row : Row Int RelationRecord)
      (record : RelationRecord) (rows : List (Row Int RelationRecord)) (grounded : ¬ Stranded identifier entities place.2)
      (stored : row.record = .ok record) (linked : Linked tables dataModelId identifier entities place record)
      (later : Accounts tables dataModelId identifier entities places skipped rows) :
      Accounts tables dataModelId identifier entities (place :: places) skipped (row :: rows)

-- The relations that are stored of a data model, and those that a save tells of, account for the reference fields of a schema.
structure Accounted (tables : Tables) (dataModelId : Int) (schema : Schema) (records : List RelationRecord)
    (skipped : List Diagnostic) : Prop where
  accounts : Accounts tables dataModelId schema.identifier schema.entities (referenceFields schema.entities) skipped
    (tables.relations.belonging dataModelId)
  returned : (tables.relations.belonging dataModelId).map Row.record = records.map Except.ok

theorem find_related {α β : Type} (r : α → β → Prop) (keyA : α → String) (keyB : β → String) (same : ∀ a b, r a b → keyB b = keyA a)
    (as : List α) (bs : List β) (related : List.Forall₂ r as bs) (name : String) :
    (as.find? (fun a => decide (keyA a = name)) = none ∧ bs.find? (fun b => decide (keyB b = name)) = none) ∨
      ∃ a b, as.find? (fun a => decide (keyA a = name)) = some a ∧ bs.find? (fun b => decide (keyB b = name)) = some b ∧ r a b := by
  induction related with
  | nil => exact .inl ⟨rfl, rfl⟩
  | @cons a b as bs here later ih =>
      by_cases hit : keyA a = name
      · have also : keyB b = name := (same a b here).trans hit
        exact .inr ⟨a, b, by simp [hit], by simp [also], here⟩
      · have neither : keyB b ≠ name := fun also => hit ((same a b here).symm.trans also)
        rw [List.find?_cons_of_neg (by simpa using hit), List.find?_cons_of_neg (by simpa using neither)]
        exact ih

section Stored

variable (rows : List (Row Int EntityRecord)) (slots : List (Row Int FieldRecord)) (dataModelId : Int)

theorem stored_entity (entities : List Entity) (stored : List Service.StoredEntity)
    (kept : List.Forall₂ (EntityKept rows slots dataModelId) entities stored) (name : String) (entity : Entity)
    (found : entity? entities name = some entity) :
    ∃ record, stored.find? (fun record => decide (record.record.name = name)) = some record ∧
      EntityKept rows slots dataModelId entity record := by
  have same : ∀ entity record, EntityKept rows slots dataModelId entity record → record.record.name = entity.name := by
    intro entity record kept
    obtain ⟨row, -, -, -, -, name, -⟩ := kept
    exact name
  cases find_related _ Entity.name (fun record => record.record.name) same entities stored kept name with
  | inl missing => exact nomatch found.symm.trans missing.1
  | inr both =>
      obtain ⟨other, record, first, second, related⟩ := both
      obtain rfl := Option.some.inj (found.symm.trans first)
      exact ⟨record, second, related⟩

theorem stored_field (entity : Entity) (stored : Service.StoredEntity) (kept : EntityKept rows slots dataModelId entity stored)
    (name : String) :
    ∃ entityId, stored.record.id = some entityId ∧ ((entity.field? name = none ∧ stored.fieldId? name = none) ∨
      ∃ field fieldId, entity.field? name = some field ∧ stored.fieldId? name = some fieldId ∧
        Slot rows slots dataModelId entity.name name entityId fieldId) := by
  obtain ⟨row, member, parent, record, id, named, fields⟩ := kept
  have same : ∀ field record, FieldKept slots row.id field record → record.name = field.name := by
    intro field record kept
    obtain ⟨slot, -, -, -, -, name⟩ := kept
    exact name
  refine ⟨row.id, id, ?_⟩
  rw [Service.StoredEntity.fieldId?, Entity.field?]
  cases find_related _ Field.name FieldRecord.name same entity.fields stored.fields fields name with
  | inl missing => exact .inl ⟨missing.1, by simp [missing.2]⟩
  | inr both =>
      obtain ⟨field, record, first, second, slot, inside, owned, value, key, called⟩ := both
      have hit : field.name = name := by simpa using List.find?_some first
      refine .inr ⟨field, slot.id, first, by simp [second, key], ⟨row, member, _, rfl, parent, ‹_›, named⟩, ?_⟩
      exact ⟨slot, inside, record, rfl, owned, value, called.trans hit⟩

theorem stored_ends (entities : List Entity) (stored : List Service.StoredEntity)
    (kept : List.Forall₂ (EntityKept rows slots dataModelId) entities stored) (relation : Relation) (entity other : Entity)
    (field : Field) (source : entity? entities relation.fromEntity = some entity)
    (origin : entity.field? relation.fromField = some field) (target : entity? entities relation.toEntity = some other) :
    (other.field? relation.toField = none ∧ Service.ends? stored relation = none) ∨
      ∃ ends, other.field? relation.toField ≠ none ∧ Service.ends? stored relation = some ends ∧
        Slot rows slots dataModelId entity.name relation.fromField ends.fromEntity ends.fromField ∧
        Slot rows slots dataModelId other.name relation.toField ends.toEntity ends.toField := by
  obtain ⟨start, first, keptStart⟩ := stored_entity rows slots dataModelId entities stored kept _ entity source
  obtain ⟨finish, last, keptFinish⟩ := stored_entity rows slots dataModelId entities stored kept _ other target
  obtain ⟨fromEntity, startId, fromParts⟩ := stored_field rows slots dataModelId entity start keptStart relation.fromField
  obtain ⟨toEntity, finishId, toParts⟩ := stored_field rows slots dataModelId other finish keptFinish relation.toField
  cases fromParts with
  | inl missing => exact nomatch origin.symm.trans missing.1
  | inr here =>
      obtain ⟨_, fromField, -, startField, startSlot⟩ := here
      cases toParts with
      | inl missing =>
          refine .inl ⟨missing.1, ?_⟩
          simp [Service.ends?, first, last, finishId, missing.2]
      | inr there =>
          obtain ⟨pointed, toField, present, finishField, finishSlot⟩ := there
          refine .inr ⟨⟨fromEntity, fromField, toEntity, toField⟩, by simp [present], ?_, startSlot, finishSlot⟩
          simp [Service.ends?, first, last, startId, startField, finishId, finishField]

end Stored

theorem reference_parts (identifier : String) (entities : List Entity) (coherent : Coherent entities) (resolved : Resolved entities)
    (place : Entity × Field) (declared : place ∈ referenceFields entities) :
    ∃ other ∈ entities, ∃ named, place.2.type.base = .ref other.name named ∧
      PointsTo identifier other named (targetField entities identifier other.name named) ∧
      (Stranded identifier entities place.2 ↔ other.field? (targetField entities identifier other.name named) = none) := by
  obtain ⟨inside, member, reference⟩ := mem_references entities place declared
  obtain ⟨target, named, base⟩ := is_reference place.2 reference
  have formed := (coherent.formed place.1 inside).writable place.2 member
  have intact := writable_intact entities resolved place.1 inside place.2 member formed
  obtain ⟨other, among, same, has⟩ := intact.targeted target named base
  rw [← same] at base
  have filled : ∀ field ∈ other.fields, field.name ≠ "" := by
    intro field there
    exact (name_identifier field.name ((coherent.formed other among).writable field there).named).1
  have present : ∀ name, named = some name → name ∈ other.fields.map Field.name := by
    intro name told
    exact List.mem_map.mpr (has name told)
  refine ⟨other, among, named, base, ?_, ?_⟩
  · exact target_points_to entities identifier other named (entity_member entities other among coherent.distinct) filled
  · exact stranded_iff identifier entities coherent.distinct other among place.2 named base filled present

section Linking

variable (tables : Tables) (dataModelId : Int) (schema : Schema) (stored : List Service.StoredEntity)
  (coherent : Coherent schema.entities) (resolved : Resolved schema.entities)
  (kept : List.Forall₂ (EntityKept tables.entities.rows tables.fields.rows dataModelId) schema.entities stored)

include coherent

theorem reference_line (place : Entity × Field) (declared : place ∈ referenceFields schema.entities) (relation : Relation)
    (meant : place.2.relation? schema.entities schema.identifier place.1.name = some relation) :
    entity? schema.entities relation.fromEntity = some place.1 ∧ place.1.field? relation.fromField = some place.2 ∧
      Service.lineOf schema relation = place.2.line := by
  obtain ⟨inside, member, reference⟩ := mem_references schema.entities place declared
  obtain ⟨target, named, base⟩ := is_reference place.2 reference
  rw [relation_of_reference _ _ _ _ target named base] at meant
  obtain rfl := Option.some.inj meant
  have source := entity_member schema.entities place.1 inside coherent.distinct
  have origin := field_member place.1 place.2 member (coherent.formed place.1 inside).distinct
  refine ⟨source, origin, ?_⟩
  simp [Service.lineOf, source, origin]

include resolved kept

-- The two resolutions of a reference agree: its ends are stored unless it is stranded, and are those it points to.
theorem reference_ends (place : Entity × Field) (declared : place ∈ referenceFields schema.entities) (relation : Relation)
    (meant : place.2.relation? schema.entities schema.identifier place.1.name = some relation) :
    (Stranded schema.identifier schema.entities place.2 ∧ Service.ends? stored relation = none) ∨
      ∃ ends, ¬ Stranded schema.identifier schema.entities place.2 ∧ Service.ends? stored relation = some ends ∧
        ∀ row, LinkRow dataModelId relation ends row → ∃ record, row.record = .ok record ∧
          Linked tables dataModelId schema.identifier schema.entities place record := by
  obtain ⟨source, origin, -⟩ := reference_line schema coherent place declared relation meant
  obtain ⟨other, among, named, base, pointed, stranded⟩ :=
    reference_parts schema.identifier schema.entities coherent resolved place declared
  have target := entity_member schema.entities other among coherent.distinct
  rw [relation_of_reference _ _ _ _ other.name named base] at meant
  obtain rfl := Option.some.inj meant
  cases stored_ends _ _ dataModelId schema.entities stored kept _ place.1 other place.2 source origin target with
  | inl missing => exact .inl ⟨stranded.mpr missing.1, missing.2⟩
  | inr linked =>
      obtain ⟨ends, present, found, start, finish⟩ := linked
      refine .inr ⟨ends, fun lost => present (stranded.mp lost), found, ?_⟩
      intro row written
      refine ⟨_, congrArg Row.record written, start, ⟨other, among, named, _, base, pointed, finish⟩, ?_, rfl⟩
      cases place.2.type.isArray <;> simp

theorem links_account (places : List (Entity × Field)) (relations : List Relation)
    (meant : List.Forall₂ (fun place relation => place.2.relation? schema.entities schema.identifier place.1.name = some relation)
      places relations)
    (declared : ∀ place ∈ places, place ∈ referenceFields schema.entities) (skipped : List Diagnostic)
    (rows : List (Row Int RelationRecord)) (links : Links dataModelId schema stored relations skipped rows) :
    Accounts tables dataModelId schema.identifier schema.entities places skipped rows := by
  induction meant generalizing skipped rows with
  | nil =>
      cases links
      exact .nil
  | @cons place relation places relations here later ih =>
      have inside := declared place List.mem_cons_self
      have others := fun place member => declared place (List.mem_cons_of_mem _ member)
      have line := (reference_line schema coherent place inside relation here).2.2
      have course := reference_ends tables dataModelId schema stored coherent resolved kept place inside relation here
      cases links with
      | skipped _ _ skipped _ lost rest =>
          cases course with
          | inl stranded =>
              exact .skipped place places _ skipped rows stranded.1 ⟨line, rfl, relation, here, rfl⟩ (ih others skipped rows rest)
          | inr found =>
              obtain ⟨ends, -, there, -⟩ := found
              exact nomatch lost.symm.trans there
      | kept _ _ _ row rows ends found link rest =>
          cases course with
          | inl stranded => exact nomatch stranded.2.symm.trans found
          | inr other =>
              obtain ⟨again, grounded, there, linked⟩ := other
              obtain rfl := Option.some.inj (there.symm.trans found)
              obtain ⟨record, same, whole⟩ := linked row link
              exact .linked place places skipped row record rows grounded same whole (ih others skipped rows rest)

end Linking

theorem recorded_accounts (id : Int) (schema : Schema) (result : Projection × List Diagnostic) (before after : Tables)
    (coherent : Coherent schema.entities) (resolved : Resolved schema.entities)
    (recorded : Recorded id schema result before after) : Accounted after id schema result.1.relations result.2 := by
  obtain ⟨rows, fields, stored, relations, -, kept, links, same, tables⟩ := recorded
  have belonging : after.relations.belonging id = relations := by
    rw [Table.belonging, tables.relations, cleared_relations]
    exact belonging_fresh id _ relations (links_parents id schema stored _ _ relations links)
  have held : List.Forall₂ (EntityKept after.entities.rows after.fields.rows id) schema.entities stored := by
    rw [tables.entities, tables.fields]
    apply kept.imp
    intro entity record
    apply entity_kept_more
    · exact fun row member => List.mem_append_right _ member
    · exact fun slot member => List.mem_append_right _ member
  constructor
  · rw [belonging]
    exact links_account after id schema stored coherent resolved held _ _
      (references_relations schema.entities schema.identifier) (fun _ member => member) result.2 relations links
  · rw [belonging]
    exact same

-- A replacement that commits stores or reports each reference field of its text, and no other relation.
theorem references_accounted (known : Except NumberFault Settings) (id : Int) (text : String) (principal : Option String)
    (before : World)
    (committed : .committed ∈ events before (outcome (Service.replaceSchema known id text principal) before).2) :
    ∃ saved settings, (outcome (Service.replaceSchema known id text principal) before).1 = .ok saved ∧ known = .ok settings ∧
      Accounted (outcome (Service.replaceSchema known id text principal) before).2.tables id
        (Schema.parse settings.source.identifier text.toList) saved.projection.relations saved.skipped := by
  cases outcome_cases (Service.replaceSchema known id text principal) before with
  | inl done =>
      obtain ⟨saved, after, yields⟩ := done
      obtain ⟨settings, given, valid, -, stored⟩ := Service.replace_yields _ _ _ _ _ _ _ yields
      have parsed := valid_parse settings text valid
      obtain ⟨coherent, resolved⟩ := parse_coherent settings.source.identifier text.toList
      have recorded := stored.recorded
      rw [parsed] at recorded
      rw [yields]
      exact ⟨saved, settings, rfl, given, recorded_accounts id _ _ _ _ coherent resolved recorded⟩
  | inr failed =>
      obtain ⟨failure, after, fails⟩ := failed
      obtain ⟨fresh, whole, each⟩ := (Service.replace_fails _ _ _ _ _ _ _ fails).uncommitted
      rw [fails, events_since before after fresh whole] at committed
      obtain ⟨happening, member, same⟩ := List.mem_map.mp committed
      exact absurd same (each happening member)

-- A cart that refers to other carts, and to an owner who has no field that a relation could point to.
def linkingText : String := "entity Cart \x7b\n id: ID\n owner: Person\n parts: Cart[]\n\x7d\nentity Person \x7b\n\x7d\n"

def linkingWorld : World :=
  (Session.after { world := {}, known := .ok {} } (.create (some "ann") [("name", .str "Shop")])).world

def linkingSave : Except Failure Saved × World := outcome (Service.replaceSchema (.ok {}) 1 linkingText (some "ann")) linkingWorld

theorem linking_save_accounted :
    .committed ∈ events linkingWorld linkingSave.2 ∧ ∃ saved, linkingSave.1 = .ok saved ∧
      Accounted linkingSave.2.tables 1 (Schema.parse "id" linkingText.toList) saved.projection.relations saved.skipped := by
  have committed : .committed ∈ events linkingWorld linkingSave.2 := by decide +kernel
  obtain ⟨saved, settings, done, given, accounted⟩ :=
    references_accounted (.ok {}) 1 linkingText (some "ann") linkingWorld committed
  have identifier : settings.source.identifier = "id" := by rw [← Except.ok.inj given]
  rw [identifier] at accounted
  exact ⟨committed, saved, done, accounted⟩

end Schematic
