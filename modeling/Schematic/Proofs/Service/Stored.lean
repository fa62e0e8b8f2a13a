import Schematic.Proofs.Service.Writing
import Mathlib.Data.List.Forall2

set_option autoImplicit false

namespace Schematic

def EntityRow (dataModelId : Int) (place : Entity × Nat) (row : Row Int EntityRecord) : Prop :=
  row =
    { id := row.id
      parent := some dataModelId
      position := place.2
      record := .ok { id := some row.id, dataModelId, name := place.1.name, position := place.2 } }

def FieldRow (entityId : Int) (place : Field × Nat) (row : Row Int FieldRecord) : Prop :=
  ∃ given : FieldRecord, FieldRecord.ofField entityId place.1 place.2 = .ok given ∧
    row = { id := row.id, parent := some entityId, position := place.2, record := .ok { given with id := some row.id } }

-- Rows that are written for entities once an id was given last: ids go up, and each entity comes before its fields.
inductive Written (dataModelId : Int) :
    Int → List (Entity × Nat) → List (Row Int EntityRecord) → List (Row Int FieldRecord) → Prop where
  | nil (last : Int) : Written dataModelId last [] [] []
  | cons (last : Int) (place : Entity × Nat) (places : List (Entity × Nat)) (row : Row Int EntityRecord)
      (rows : List (Row Int EntityRecord)) (fields others : List (Row Int FieldRecord)) (next : row.id = last + 1)
      (stored : EntityRow dataModelId place row) (declared : List.Forall₂ (FieldRow row.id) place.1.fields.zipIdx fields)
      (later : Written dataModelId (last + 1) places rows others) :
      Written dataModelId last (place :: places) (row :: rows) (fields ++ others)

def Tables.cleared (tables : Tables) (dataModelId : Int) : Tables :=
  ((((tables.deleteRelations dataModelId).2.deleteFields dataModelId).2).deleteEntities dataModelId).2

def Table.extended {κ α : Type} (table : Table κ α) (rows : List (Row κ α)) (last : Int) : Table κ α :=
  { table with rows := table.rows ++ rows, lastId := last }

@[simp]
theorem extended_rows {κ α : Type} (table : Table κ α) (rows : List (Row κ α)) (last : Int) :
    (table.extended rows last).rows = table.rows ++ rows := rfl

@[simp]
theorem extended_last {κ α : Type} (table : Table κ α) (rows : List (Row κ α)) (last : Int) :
    (table.extended rows last).lastId = last := rfl

@[simp]
theorem extended_extended {κ α : Type} (table : Table κ α) (rows more : List (Row κ α)) (last final : Int) :
    (table.extended rows last).extended more final = table.extended (rows ++ more) final := by
  simp [Table.extended]

@[simp]
theorem extended_nil {κ α : Type} (table : Table κ α) : table.extended [] table.lastId = table := by
  simp [Table.extended]

structure Refilled (dataModelId : Int) (rows : List (Row Int EntityRecord)) (fields : List (Row Int FieldRecord))
    (relations : List (Row Int RelationRecord)) (before after : Tables) : Prop where
  entities : after.entities.rows = (before.cleared dataModelId).entities.rows ++ rows
  last : after.entities.lastId = before.entities.lastId + rows.length
  fields : after.fields.rows = (before.cleared dataModelId).fields.rows ++ fields
  relations : after.relations.rows = (before.cleared dataModelId).relations.rows ++ relations

def Rewritten (dataModelId : Int) (entities : List Entity) (before after : Tables) : Prop :=
  ∃ rows fields relations,
    Written dataModelId before.entities.lastId entities.zipIdx rows fields ∧
    (∀ row ∈ relations, row.parent = some dataModelId) ∧
    Refilled dataModelId rows fields relations before after

def FieldKept (slots : List (Row Int FieldRecord)) (entityId : Int) (field : Field) (record : FieldRecord) : Prop :=
  ∃ slot ∈ slots, slot.parent = some entityId ∧ slot.record = .ok record ∧ record.id = some slot.id ∧ record.name = field.name

def EntityKept (rows : List (Row Int EntityRecord)) (slots : List (Row Int FieldRecord)) (dataModelId : Int) (entity : Entity)
    (stored : Service.StoredEntity) : Prop :=
  ∃ row ∈ rows, row.parent = some dataModelId ∧ row.record = .ok stored.record ∧ stored.record.id = some row.id ∧
    stored.record.name = entity.name ∧ List.Forall₂ (FieldKept slots row.id) entity.fields stored.fields

def LinkRow (dataModelId : Int) (relation : Relation) (ends : Service.Ends) (row : Row Int RelationRecord) : Prop :=
  row =
    { id := row.id
      parent := some dataModelId
      record := .ok
        { id := some row.id
          dataModelId
          name := relation.name
          fromEntityId := ends.fromEntity
          toEntityId := ends.toEntity
          fromFieldId := ends.fromField
          toFieldId := ends.toField
          cardinality := relation.cardinality
          isNullable := relation.isNullable } }

inductive Links (dataModelId : Int) (schema : Schema) (stored : List Service.StoredEntity) :
    List Relation → List Diagnostic → List (Row Int RelationRecord) → Prop where
  | nil : Links dataModelId schema stored [] [] []
  | skipped (relation : Relation) (relations : List Relation) (skipped : List Diagnostic) (rows : List (Row Int RelationRecord))
      (lost : Service.ends? stored relation = none) (later : Links dataModelId schema stored relations skipped rows) :
      Links dataModelId schema stored (relation :: relations)
        (⟨Service.lineOf schema relation, .relationSkipped relation⟩ :: skipped) rows
  | kept (relation : Relation) (relations : List Relation) (skipped : List Diagnostic) (row : Row Int RelationRecord)
      (rows : List (Row Int RelationRecord)) (ends : Service.Ends) (found : Service.ends? stored relation = some ends)
      (linked : LinkRow dataModelId relation ends row) (later : Links dataModelId schema stored relations skipped rows) :
      Links dataModelId schema stored (relation :: relations) skipped (row :: rows)

-- What is stored of a data model was deleted, its new entities and relations were written behind all others, and
-- the result tells of them.
def Recorded (dataModelId : Int) (schema : Schema) (result : Projection × List Diagnostic) (before after : Tables) : Prop :=
  ∃ rows fields stored relations,
    Written dataModelId before.entities.lastId schema.entities.zipIdx rows fields ∧
    List.Forall₂ (EntityKept rows fields dataModelId) schema.entities stored ∧
    Links dataModelId schema stored schema.relations result.2 relations ∧
    relations.map Row.record = result.1.relations.map Except.ok ∧
    Refilled dataModelId rows fields relations before after

theorem written_length (dataModelId last : Int) (places : List (Entity × Nat)) (rows : List (Row Int EntityRecord))
    (fields : List (Row Int FieldRecord)) (written : Written dataModelId last places rows fields) :
    places.length = rows.length := by
  induction written with
  | nil last => rfl
  | cons last place places row rows fields others next stored declared later ih => rw [List.length_cons, ih, List.length_cons]

theorem links_parents (dataModelId : Int) (schema : Schema) (stored : List Service.StoredEntity) (relations : List Relation)
    (skipped : List Diagnostic) (rows : List (Row Int RelationRecord))
    (links : Links dataModelId schema stored relations skipped rows) : ∀ row ∈ rows, row.parent = some dataModelId := by
  induction links with
  | nil => simp
  | skipped relation relations skipped rows lost later ih => exact ih
  | kept relation relations skipped row rows ends found linked later ih =>
      intro other member
      cases List.mem_cons.mp member with
      | inl here => rw [here, linked]
      | inr inside => exact ih other inside

theorem recorded_rewritten (dataModelId : Int) (schema : Schema) (result : Projection × List Diagnostic) (before after : Tables)
    (recorded : Recorded dataModelId schema result before after) : Rewritten dataModelId schema.entities before after := by
  obtain ⟨rows, fields, stored, relations, written, -, links, -, tables⟩ := recorded
  exact ⟨rows, fields, relations, written, links_parents _ _ _ _ _ _ links, tables⟩

theorem recorded_touched (dataModelId stamped : Int) (schema : Schema) (result : Projection × List Diagnostic)
    (before after : Tables) (recorded : Recorded dataModelId schema result before after) :
    Recorded dataModelId schema result before (after.touchModel stamped) := by
  obtain ⟨rows, fields, stored, relations, written, kept, links, same, tables⟩ := recorded
  exact ⟨rows, fields, stored, relations, written, kept, links, same, tables.entities, tables.last, tables.fields, tables.relations⟩

theorem field_kept_more (few many : List (Row Int FieldRecord)) (more : ∀ slot ∈ few, slot ∈ many) (entityId : Int)
    (field : Field) (record : FieldRecord) (kept : FieldKept few entityId field record) : FieldKept many entityId field record := by
  obtain ⟨slot, member, parent, same, id, name⟩ := kept
  exact ⟨slot, more slot member, parent, same, id, name⟩

theorem entity_kept_more (fewRows manyRows : List (Row Int EntityRecord)) (few many : List (Row Int FieldRecord))
    (moreRows : ∀ row ∈ fewRows, row ∈ manyRows) (more : ∀ slot ∈ few, slot ∈ many) (dataModelId : Int) (entity : Entity)
    (stored : Service.StoredEntity) (kept : EntityKept fewRows few dataModelId entity stored) :
    EntityKept manyRows many dataModelId entity stored := by
  obtain ⟨row, member, parent, same, id, name, fields⟩ := kept
  refine ⟨row, moreRows row member, parent, same, id, name, fields.imp ?_⟩
  exact fun field record => field_kept_more few many more row.id field record

theorem of_field_place (entityId : Int) (field : Field) (position : Nat) (record : FieldRecord)
    (built : FieldRecord.ofField entityId field position = .ok record) :
    record.entityId = entityId ∧ record.position = position ∧ record.name = field.name := by
  rw [FieldRecord.ofField] at built
  split at built
  · obtain rfl := Checked.ok.inj built
    exact ⟨rfl, rfl, rfl⟩
  · cases built

theorem fields_kept (entityId : Int) (places : List (Field × Nat)) (rows : List (Row Int FieldRecord))
    (records : List FieldRecord) (declared : List.Forall₂ (FieldRow entityId) places rows)
    (same : rows.map Row.record = records.map Except.ok) :
    List.Forall₂ (FieldKept rows entityId) (places.map Prod.fst) records := by
  induction declared generalizing records with
  | nil =>
      cases records with
      | nil => exact .nil
      | cons record records => simp at same
  | @cons place row places rows here later ih =>
      cases records with
      | nil => simp at same
      | cons record records =>
          rw [List.map_cons, List.map_cons, List.cons.injEq] at same
          obtain ⟨given, built, written⟩ := here
          have found : { given with id := some row.id } = record := by
            rw [written] at same
            exact Except.ok.inj same.1
          refine .cons ⟨row, List.mem_cons_self, by rw [written], same.1, ?_, ?_⟩ ((ih records same.2).imp ?_)
          · rw [← found]
          · rw [← found]
            exact (of_field_place _ _ _ _ built).2.2
          · exact fun field record => field_kept_more _ _ (fun slot member => List.mem_cons_of_mem _ member) entityId field record

namespace Service

open Schematic.Action

theorem checked_yields {α : Type} (table : TableName) (value : Checked α) (before after : World) (found : α)
    (yields : Yields (checked table value) before found after) : value = .ok found ∧ before = after := by
  cases value with
  | ok value =>
      obtain ⟨rfl, rfl⟩ := (yields_pure value found before after).mp yields
      exact ⟨rfl, rfl⟩
  | refused complaints => exact absurd yields (yields_throw _ before after found)

theorem delete_yields (dataModelId : Int) (before after : World) (deleted : Projections.Deleted)
    (yields : Yields (Projections.delete dataModelId) before deleted after) :
    after.tables = before.tables.cleared dataModelId := by
  rw [Projections.delete, Projections.naming, yields_naming, yields_bind] at yields
  obtain ⟨relations, first, ran, yields⟩ := yields
  obtain ⟨fields, second, ranNext, yields⟩ := (yields_bind _ _ _ _ _).mp yields
  obtain ⟨entities, third, ranLast, yields⟩ := (yields_bind _ _ _ _ _).mp yields
  obtain ⟨-, rfl⟩ := (yields_pure _ _ _ _).mp yields
  obtain ⟨-, _, -, rfl⟩ := yields_run _ _ _ _ _ ran
  obtain ⟨-, _, -, rfl⟩ := yields_run _ _ _ _ _ ranNext
  obtain ⟨-, _, -, rfl⟩ := yields_run _ _ _ _ _ ranLast
  rfl

theorem save_field_yields (entityId : Int) (field : Field) (position : Nat) (before after : World) (record : FieldRecord)
    (yields : Yields (saveField entityId field position) before record after) :
    ∃ row last, FieldRow entityId (field, position) row ∧ row.record = .ok record ∧
      after.tables = { before.tables with fields := before.tables.fields.extended [row] last } := by
  obtain ⟨given, middle, fits, inserted⟩ := (yields_bind _ _ _ _ _).mp yields
  obtain ⟨built, rfl⟩ := checked_yields _ _ _ _ _ fits
  rw [Projections.insertField, Projections.naming, yields_naming] at inserted
  obtain ⟨rfl, breakdowns, -, rfl⟩ := yields_run _ _ _ _ _ inserted
  obtain ⟨rfl, place, -⟩ := of_field_place _ _ _ _ built
  have written : FieldRow given.entityId (field, position)
      ⟨before.tables.fields.lastId + 1, some given.entityId, given.position,
        .ok { given with id := some (before.tables.fields.lastId + 1) }⟩ := ⟨given, built, by rw [place]⟩
  exact ⟨_, _, written, rfl, rfl⟩

theorem save_fields_yields (entityId : Int) (places : List (Field × Nat)) (before after : World) (records : List FieldRecord)
    (yields : Yields (places.mapM fun (field, position) => saveField entityId field position) before records after) :
    ∃ rows last, List.Forall₂ (FieldRow entityId) places rows ∧ rows.map Row.record = records.map Except.ok ∧
      after.tables = { before.tables with fields := before.tables.fields.extended rows last } := by
  induction places generalizing before records with
  | nil =>
      rw [List.mapM_nil] at yields
      obtain ⟨rfl, rfl⟩ := (yields_pure _ _ _ _).mp yields
      exact ⟨[], after.tables.fields.lastId, .nil, rfl, by rw [extended_nil]⟩
  | cons place places ih =>
      rw [List.mapM_cons] at yields
      obtain ⟨record, middle, here, yields⟩ := (yields_bind _ _ _ _ _).mp yields
      obtain ⟨others, final, later, yields⟩ := (yields_bind _ _ _ _ _).mp yields
      obtain ⟨rfl, rfl⟩ := (yields_pure _ _ _ _).mp yields
      obtain ⟨row, _, stored, same, tables⟩ := save_field_yields entityId place.1 place.2 before middle record here
      obtain ⟨rows, last, declared, rest, whole⟩ := ih middle others later
      refine ⟨row :: rows, last, .cons stored declared, by rw [List.map_cons, List.map_cons, same, rest], ?_⟩
      rw [whole, tables]
      simp

theorem save_entity_yields (dataModelId : Int) (entity : Entity) (position : Nat) (before after : World)
    (stored : StoredEntity) (yields : Yields (saveEntity dataModelId entity position) before stored after) :
    ∃ row fields last, row.id = before.tables.entities.lastId + 1 ∧ EntityRow dataModelId (entity, position) row ∧
      List.Forall₂ (FieldRow row.id) entity.fields.zipIdx fields ∧ EntityKept [row] fields dataModelId entity stored ∧
      after.tables =
        { before.tables with
          entities := before.tables.entities.extended [row] (before.tables.entities.lastId + 1)
          fields := before.tables.fields.extended fields last } := by
  obtain ⟨given, middle, fits, yieldsEntity⟩ := (yields_bind _ _ _ _ _).mp yields
  obtain ⟨built, rfl⟩ := checked_yields _ _ _ _ _ fits
  obtain ⟨record, inner, inserted, yieldsFields⟩ := (yields_bind _ _ _ _ _).mp yieldsEntity
  obtain ⟨records, final, declared, yieldsStored⟩ := (yields_bind _ _ _ _ _).mp yieldsFields
  obtain ⟨rfl, rfl⟩ := (yields_pure _ _ _ _).mp yieldsStored
  rw [Projections.insertEntity, Projections.naming, yields_naming] at inserted
  obtain ⟨rfl, breakdowns, -, rfl⟩ := yields_run _ _ _ _ _ inserted
  obtain ⟨fields, last, rows, same, tables⟩ := save_fields_yields _ _ _ _ _ declared
  rw [EntityRecord.ofEntity] at built
  split at built
  · obtain rfl := Checked.ok.inj built
    have row : EntityRow dataModelId (entity, position)
        ⟨before.tables.entities.lastId + 1, some dataModelId, position,
          .ok { id := some (before.tables.entities.lastId + 1), dataModelId, name := entity.name, position }⟩ := rfl
    have kept := fields_kept _ _ fields records rows same
    rw [List.zipIdx_map_fst] at kept
    exact ⟨_, fields, last, rfl, row, rows, ⟨_, List.mem_cons_self, rfl, rfl, rfl, rfl, kept⟩, tables⟩
  · cases built

theorem save_entities_yields (dataModelId : Int) (places : List (Entity × Nat)) (before after : World)
    (stored : List StoredEntity)
    (yields : Yields (places.mapM fun (entity, position) => saveEntity dataModelId entity position) before stored after) :
    ∃ rows fields last, Written dataModelId before.tables.entities.lastId places rows fields ∧
      List.Forall₂ (EntityKept rows fields dataModelId) (places.map Prod.fst) stored ∧
      after.tables =
        { before.tables with
          entities := before.tables.entities.extended rows (before.tables.entities.lastId + places.length)
          fields := before.tables.fields.extended fields last } := by
  induction places generalizing before stored with
  | nil =>
      rw [List.mapM_nil] at yields
      obtain ⟨rfl, rfl⟩ := (yields_pure _ _ _ _).mp yields
      exact ⟨[], [], after.tables.fields.lastId, .nil _, .nil, by simp⟩
  | cons place places ih =>
      rw [List.mapM_cons] at yields
      obtain ⟨first, middle, here, yields⟩ := (yields_bind _ _ _ _ _).mp yields
      obtain ⟨others, final, later, yields⟩ := (yields_bind _ _ _ _ _).mp yields
      obtain ⟨rfl, rfl⟩ := (yields_pure _ _ _ _).mp yields
      obtain ⟨row, fields, _, next, entity, declared, kept, tables⟩ := save_entity_yields dataModelId place.1 place.2 _ _ _ here
      obtain ⟨rows, rest, last, written, behind, whole⟩ := ih middle others later
      rw [tables] at written whole
      refine ⟨row :: rows, fields ++ rest, last, .cons _ place places row rows fields rest next entity declared written, ?_, ?_⟩
      · refine .cons ?_ (behind.imp fun entity stored => ?_)
        · exact entity_kept_more _ _ _ _ (by simp) (fun slot member => List.mem_append_left _ member) _ _ _ kept
        · exact entity_kept_more _ _ _ _ (fun row member => List.mem_cons_of_mem _ member)
            (fun slot member => List.mem_append_right _ member) _ _ _
      · rw [whole]
        simp [Int.add_assoc, Int.add_comm 1]

def told? (result : Except Diagnostic RelationRecord) : Option Diagnostic :=
  match result with
  | .ok _ => none
  | .error diagnostic => some diagnostic

theorem save_relation_yields (context : LogContext) (dataModelId : Int) (schema : Schema) (stored : List StoredEntity)
    (relation : Relation) (before after : World) (result : Except Diagnostic RelationRecord)
    (yields : Yields (saveRelation context dataModelId schema stored relation) before result after) :
    (ends? stored relation = none ∧ result = .error ⟨lineOf schema relation, .relationSkipped relation⟩ ∧
      after.tables = before.tables) ∨
    ∃ ends row record last, ends? stored relation = some ends ∧ LinkRow dataModelId relation ends row ∧
      row.record = .ok record ∧ result = .ok record ∧
      after.tables = { before.tables with relations := before.tables.relations.extended [row] last } := by
  rw [saveRelation] at yields
  split at yields
  · rename_i lost
    obtain ⟨_, middle, noted, yields⟩ := (yields_bind _ _ _ _ _).mp yields
    obtain ⟨rfl, rfl⟩ := (yields_pure _ _ _ _).mp yields
    obtain ⟨-, rfl⟩ := Prod.mk.inj noted
    exact .inl ⟨lost, rfl, rfl⟩
  · rename_i ends found
    obtain ⟨given, middle, fits, yieldsRecord⟩ := (yields_bind _ _ _ _ _).mp yields
    obtain ⟨built, rfl⟩ := checked_yields _ _ _ _ _ fits
    obtain ⟨record, final, inserted, yieldsResult⟩ := (yields_bind _ _ _ _ _).mp yieldsRecord
    obtain ⟨rfl, rfl⟩ := (yields_pure _ _ _ _).mp yieldsResult
    rw [Projections.insertRelation, Projections.naming, yields_naming] at inserted
    obtain ⟨rfl, breakdowns, -, rfl⟩ := yields_run _ _ _ _ _ inserted
    rw [RelationRecord.ofRelation] at built
    split at built
    · obtain rfl := Checked.ok.inj built
      refine .inr ⟨ends, _, _, _, found, ?_, rfl, rfl, rfl⟩
      rfl
    · cases built

theorem save_relations_yields (context : LogContext) (dataModelId : Int) (schema : Schema) (stored : List StoredEntity)
    (relations : List Relation) (before after : World) (results : List (Except Diagnostic RelationRecord))
    (yields : Yields (relations.mapM (saveRelation context dataModelId schema stored)) before results after) :
    ∃ rows last, Links dataModelId schema stored relations (results.filterMap told?) rows ∧
      rows.map Row.record = (results.filterMap Except.toOption).map Except.ok ∧
      after.tables = { before.tables with relations := before.tables.relations.extended rows last } := by
  induction relations generalizing before results with
  | nil =>
      rw [List.mapM_nil] at yields
      obtain ⟨rfl, rfl⟩ := (yields_pure _ _ _ _).mp yields
      exact ⟨[], after.tables.relations.lastId, .nil, rfl, by simp⟩
  | cons relation relations ih =>
      rw [List.mapM_cons] at yields
      obtain ⟨result, middle, here, yields⟩ := (yields_bind _ _ _ _ _).mp yields
      obtain ⟨others, final, later, yields⟩ := (yields_bind _ _ _ _ _).mp yields
      obtain ⟨rfl, rfl⟩ := (yields_pure _ _ _ _).mp yields
      obtain ⟨rows, last, rest, same, whole⟩ := ih middle others later
      cases save_relation_yields context dataModelId schema stored relation _ _ _ here with
      | inl left =>
          obtain ⟨lost, rfl, tables⟩ := left
          rw [tables] at whole
          exact ⟨rows, last, .skipped relation relations _ rows lost rest, same, whole⟩
      | inr linked =>
          obtain ⟨ends, row, record, _, found, link, kept, rfl, tables⟩ := linked
          refine ⟨row :: rows, last, .kept relation relations _ row rows ends found link rest, ?_, ?_⟩
          · rw [List.map_cons, kept, same]
            rfl
          · rw [whole, tables]
            simp

theorem write_yields (context : LogContext) (dataModelId : Int) (schema : Schema) (before after : World)
    (result : Projection × List Diagnostic)
    (yields : Yields (writeProjection context dataModelId schema) before result after) :
    Recorded dataModelId schema result before.tables after.tables ∧ after.tables.models = before.tables.models ∧
      after.tables.messages = before.tables.messages := by
  obtain ⟨_, first, discarded, yields⟩ := (yields_bind _ _ _ _ _).mp yields
  obtain ⟨stored, second, saved, yields⟩ := (yields_bind _ _ _ _ _).mp yields
  obtain ⟨outcomes, third, related, yields⟩ := (yields_bind _ _ _ _ _).mp yields
  obtain ⟨rfl, rfl⟩ := (yields_pure _ _ _ _).mp yields
  obtain ⟨deleted, removed⟩ := (yields_discard _ _ _ _).mp discarded
  have cleared := delete_yields dataModelId before first deleted removed
  obtain ⟨rows, fields, _, written, kept, tables⟩ := save_entities_yields dataModelId _ first second stored saved
  obtain ⟨relations, _, links, same, whole⟩ := save_relations_yields context dataModelId schema stored _ _ _ _ related
  have last : (before.tables.cleared dataModelId).entities.lastId = before.tables.entities.lastId := rfl
  rw [cleared, last] at written
  rw [tables, cleared, last, (written_length _ _ _ _ _ written)] at whole
  rw [List.zipIdx_map_fst] at kept
  have records : (fun result : Except Diagnostic RelationRecord => match result with
      | .ok record => some record
      | .error _ => none) = Except.toOption := by
    funext result
    cases result <;> rfl
  rw [← records] at same
  refine ⟨⟨rows, fields, stored, relations, written, kept, links, same, ?_⟩, ?_, ?_⟩
  · constructor <;> rw [whole] <;> rfl
  · rw [whole]
    rfl
  · rw [whole]
    rfl

end Service

end Schematic
