import Schematic.Proofs.Service.Holding
import Schematic.Proofs.Service.Reading

set_option autoImplicit false

namespace Schematic

def Row.value? {κ α : Type} (row : Row κ α) : Option α := row.record.toOption

theorem row_values {κ α : Type} (rows : List (Row κ α)) (records : List α)
    (same : rows.map Row.record = records.map Except.ok) : records = rows.filterMap Row.value? := by
  have parts : rows.filterMap Row.value? = (rows.map Row.record).filterMap Except.toOption := by
    rw [List.filterMap_map]
    rfl
  rw [parts, same, List.filterMap_map]
  exact (List.filterMap_some).symm

theorem field_row_value (entityId : Int) (place : Field × Nat) (row : Row Int FieldRecord) (stored : FieldRow entityId place row) :
    ∃ given, FieldRecord.ofField entityId place.1 place.2 = .ok given ∧ row.value? = some { given with id := some row.id } := by
  obtain ⟨given, built, same⟩ := stored
  refine ⟨given, built, ?_⟩
  rw [Row.value?, same]
  rfl

theorem meant_rows (names : List String) (unreserved : Unreserved names) (entityId : Int) (places : List (Field × Nat))
    (rows : List (Row Int FieldRecord)) (stored : List.Forall₂ (FieldRow entityId) places rows)
    (writable : ∀ place ∈ places, Writable names place.1) :
    List.Forall₂ (Meant entityId) places (rows.filterMap Row.value?) := by
  induction stored with
  | nil => exact .nil
  | cons here later ih =>
      obtain ⟨given, built, value⟩ := field_row_value entityId _ _ here
      rw [List.filterMap_cons_some value]
      refine .cons ?_ (ih fun place member => writable place (List.mem_cons_of_mem _ member))
      exact field_meant names unreserved entityId _ _ (writable _ List.mem_cons_self) given built _

theorem fields_owned (tables : Tables) (dataModelId id : Int) (entities : List Entity)
    (holds : Holds tables dataModelId entities) (member : id ∈ tables.entityIds dataModelId) (records : List FieldRecord)
    (read : (tables.fieldsOf dataModelId).map Row.record = records.map Except.ok) :
    (records.filter fun field => some field.entityId = some id).Perm ((tables.fields.belonging id).filterMap Row.value?) := by
  have base : (tables.fieldsOf dataModelId).Perm (tables.fieldRows dataModelId) := List.mergeSort_perm _ _
  rw [row_values _ records read]
  refine ((base.filterMap Row.value?).filter _).trans (List.Perm.of_eq ?_)
  have owners : ∀ row ∈ tables.fieldRows dataModelId,
      ((row.value?).filter fun field => some field.entityId = some id) = if row.parent = some id then row.value? else none := by
    intro row inside
    obtain ⟨owner, known, parent⟩ := (is_field_of _ row).mp (List.mem_filter.mp inside).2
    obtain ⟨entity, present, rfl⟩ := List.mem_map.mp known
    obtain ⟨place, -, found⟩ := related_right _ _ _ holds entity present
    have among : row ∈ tables.fields.belonging entity.id :=
      List.mem_filter.mpr ⟨(List.mem_filter.mp inside).1, by simpa using parent⟩
    obtain ⟨slot, -, stored⟩ := related_right _ _ _ found.declared row among
    obtain ⟨given, built, value⟩ := field_row_value entity.id slot row stored
    have kept : given.entityId = entity.id := (of_field_place _ _ _ _ built).1
    by_cases mine : entity.id = id
    · simp [value, kept, parent, mine]
    · simp [value, kept, parent, mine]
  have narrowed : (tables.fieldRows dataModelId).filter (fun row => row.parent = some id) = tables.fields.belonging id := by
    rw [Tables.fieldRows, List.filter_filter, Table.belonging]
    refine List.filter_congr fun row _ => ?_
    by_cases mine : row.parent = some id
    · simp [mine, (is_field_of _ row).mpr ⟨id, member, mine⟩]
    · simp [mine]
  rw [List.filter_filterMap, ← narrowed, List.filterMap_filter]
  refine List.filterMap_congr fun row inside => ?_
  rw [owners row inside]
  simp

def EntityRead (tables : Tables) (dataModelId : Int) (place : Entity × Nat) (record : EntityRecord) : Prop :=
  ∃ row ∈ tables.entities.belonging dataModelId, EntityRows tables dataModelId place row ∧
    record = { id := some row.id, dataModelId, name := place.1.name, position := place.2 }

theorem entity_records (tables : Tables) (dataModelId : Int) (places : List (Entity × Nat)) (rows : List (Row Int EntityRecord))
    (records : List EntityRecord) (stored : List.Forall₂ (EntityRows tables dataModelId) places rows)
    (known : ∀ row ∈ rows, row ∈ tables.entities.belonging dataModelId)
    (read : rows.map Row.record = records.map Except.ok) :
    List.Forall₂ (EntityRead tables dataModelId) places records := by
  induction stored generalizing records with
  | nil =>
      cases records with
      | nil => exact .nil
      | cons record records => simp at read
  | cons here later ih =>
      cases records with
      | nil => simp at read
      | cons record records =>
          rw [List.map_cons, List.map_cons, List.cons.injEq] at read
          obtain ⟨first, rest⟩ := read
          refine .cons ⟨_, known _ List.mem_cons_self, here, ?_⟩ (ih records (fun row member => ?_) rest)
          · rw [here.stored] at first
            exact (Except.ok.inj first).symm
          · exact known row (List.mem_cons_of_mem _ member)

theorem projection_entities (tables : Tables) (dataModelId : Int) (entities : List Entity) (coherent : Coherent entities)
    (holds : Holds tables dataModelId entities) (projection : Projection)
    (entityRows : (tables.entitiesOf dataModelId).map Row.record = projection.entities.map Except.ok)
    (fieldRows : (tables.fieldsOf dataModelId).map Row.record = projection.fields.map Except.ok) :
    projection.toEntities = .ok (entities.map Entity.unplaced) := by
  have ordered : tables.entitiesOf dataModelId = tables.entities.belonging dataModelId := by
    refine sort_places Row.position (fun row => some row.id) _ _ (List.Perm.refl _) ?_
    refine (places_ascending _ entities 0 _ (holds.imp fun place row found => ?_)).1
    rw [found.stored]
  rw [ordered] at entityRows
  have records := entity_records tables dataModelId _ _ _ holds (fun row member => member) entityRows
  have sorted : (projection.entities.mergeSort fun a b => inOrder a.position a.id b.position b.id) = projection.entities := by
    refine sort_places EntityRecord.position EntityRecord.id _ _ (List.Perm.refl _) ?_
    refine (places_ascending _ entities 0 _ (records.imp ?_)).1
    rintro place record ⟨row, -, -, rfl⟩
    rfl
  have meanings : projection.entities.mapM projection.toEntity = .ok (entities.map Entity.unplaced) := by
    refine read_places _ _ entities 0 _ (related_mono _ _ _ _ records ?_)
    rintro place record member - ⟨row, inside, found, rfl⟩
    have formed : WellFormed (entityNames entities) place.1 := by
      refine coherent.formed place.1 ?_
      rw [← List.zipIdx_map_fst 0 entities]
      exact List.mem_map_of_mem member
    have meant := meant_rows _ coherent.unreserved row.id _ _ found.declared fun slot within => by
      refine formed.writable slot.1 ?_
      rw [← List.zipIdx_map_fst 0 place.1.fields]
      exact List.mem_map_of_mem within
    refine entity_meant projection _ row.id place.1 _ rfl rfl formed.distinct meant ?_
    exact fields_owned tables dataModelId row.id entities holds (List.mem_map_of_mem inside) _ fieldRows
  have names : (([] ++ entities.map Entity.unplaced).map Entity.name).Nodup := by
    have same : (entities.map Entity.unplaced).map Entity.name = entityNames entities := entity_names_unplaced entities
    rw [List.nil_append, same]
    exact coherent.distinct
  rw [Projection.toEntities, sorted, meanings]
  exact congrArg Except.ok (put_all Entity.name [] _ names)

namespace Service

open Schematic.Action

theorem records_yield {κ α : Type} (table : TableName) (rows : List (Row κ α)) (before after : World) (records : List α)
    (yields : Yields (rows.mapM (recordOf table)) before records after) :
    rows.map Row.record = records.map Except.ok ∧ after = before := by
  induction rows generalizing before records with
  | nil =>
      rw [List.mapM_nil] at yields
      obtain ⟨rfl, rfl⟩ := (yields_pure _ _ _ _).mp yields
      exact ⟨rfl, rfl⟩
  | cons row rows ih =>
      rw [List.mapM_cons] at yields
      obtain ⟨record, first, here, yieldsRest⟩ := (yields_bind _ _ _ _ _).mp yields
      obtain ⟨others, second, later, yieldsAll⟩ := (yields_bind _ _ _ _ _).mp yieldsRest
      obtain ⟨rfl, rfl⟩ := (yields_pure _ _ _ _).mp yieldsAll
      obtain ⟨found, rfl⟩ := record_yields table row _ _ _ here
      obtain ⟨rest, rfl⟩ := ih _ _ later
      exact ⟨by rw [List.map_cons, List.map_cons, found, rest], rfl⟩

theorem read_yields (id : Int) (before after : World) (projection : Projection)
    (yields : Yields (Projections.read id) before projection after) :
    (before.tables.entitiesOf id).map Row.record = projection.entities.map Except.ok ∧
      (before.tables.fieldsOf id).map Row.record = projection.fields.map Except.ok := by
  obtain ⟨⟨entityRows, fieldRows, relationRows⟩, first, looked, yieldsEntities⟩ := (yields_bind _ _ _ _ _).mp yields
  obtain ⟨entities, second, readEntities, yieldsFields⟩ := (yields_bind _ _ _ _ _).mp yieldsEntities
  obtain ⟨fields, third, readFields, yieldsRelations⟩ := (yields_bind _ _ _ _ _).mp yieldsFields
  obtain ⟨relations, fourth, -, yieldsAll⟩ := (yields_bind _ _ _ _ _).mp yieldsRelations
  obtain ⟨rfl, -⟩ := (yields_pure _ _ _ _).mp yieldsAll
  rw [Projections.naming, yields_naming] at looked
  obtain ⟨foundEntities, a, ranEntities, lookedFields⟩ := (yields_bind _ _ _ _ _).mp looked
  obtain ⟨foundFields, b, ranFields, lookedRelations⟩ := (yields_bind _ _ _ _ _).mp lookedFields
  obtain ⟨foundRelations, c, -, lookedAll⟩ := (yields_bind _ _ _ _ _).mp lookedRelations
  obtain ⟨same, -⟩ := (yields_pure _ _ _ _).mp lookedAll
  obtain ⟨rfl, rfl, rfl⟩ := same
  obtain ⟨rfl, _, -, rfl⟩ := yields_run _ _ _ _ _ ranEntities
  obtain ⟨rfl, _, -, rfl⟩ := yields_run _ _ _ _ _ ranFields
  exact ⟨(records_yield _ _ _ _ _ readEntities).1, (records_yield _ _ _ _ _ readFields).1⟩

theorem load_yields (id : Int) (before after : World) (projection : Projection)
    (yields : Yields (Projections.load id) before projection after) :
    (before.tables.entitiesOf id).map Row.record = projection.entities.map Except.ok ∧
      (before.tables.fieldsOf id).map Row.record = projection.fields.map Except.ok := by
  obtain ⟨first, -, connection⟩ := connected_yields _ _ _ _ yields
  obtain ⟨second, middle, last, -, here, -, -⟩ := transaction_yields _ _ _ _ connection
  obtain ⟨_, set, snapshot, read⟩ := (yields_bind _ _ _ _ _).mp here
  obtain ⟨-, _, -, rfl⟩ := yields_run _ _ _ _ _ snapshot
  have found := read_yields id _ _ projection read
  exact found

theorem persisting_yields {α : Type} (task : Task) (work : Action α) (before after : World) (value : α)
    (yields : Yields (persisting task work) before value after) : Yields work before value after := by
  rcases (yields_try _ _ _ _ _).mp yields with here | ⟨failure, middle, -, recovered⟩
  · exact here
  · cases service : failure.isService with
    | true =>
        simp only [service, if_true] at recovered
        obtain ⟨_, _, thrown, -⟩ := (yields_bind _ _ _ _ _).mp recovered
        exact absurd thrown (yields_throw _ _ _ _)
    | false =>
        simp only [service] at recovered
        obtain ⟨_, _, -, thrown⟩ := (yields_bind _ _ _ _ _).mp recovered
        exact absurd thrown (yields_throw _ _ _ _)

-- The stored text is the canonical text of the entities that are held, in whatever order rows come back.
theorem get_schema_text (known : Except NumberFault Settings) (id : Int) (principal : Option String) (before after : World)
    (stored : String × Projection) (schema : Schema) (coherent : Coherent schema.entities)
    (holds : Holds before.tables id schema.entities) (yields : Yields (getSchema known id principal) before stored after) :
    stored.1 = String.ofList schema.render := by
  obtain ⟨_, first, found, yieldsLoad⟩ := (yields_bind _ _ _ _ _).mp yields
  obtain ⟨projection, second, persisted, yieldsText⟩ := (yields_bind _ _ _ _ _).mp yieldsLoad
  have quiet := (takes_map _ (quiet_chains _) _ _ (get_takes _ untouched_lasts.toHosts.serves id principal)).1 _ _ _ found
  have kept : Holds first.tables id schema.entities :=
    holds_rows _ _ id _ (congrArg Table.rows quiet.entities) (congrArg Table.rows quiet.fields) holds
  obtain ⟨entityRows, fieldRows⟩ := load_yields id _ _ _ (persisting_yields _ _ _ _ _ persisted)
  have entities := projection_entities first.tables id schema.entities coherent kept projection entityRows fieldRows
  simp only [entities] at yieldsText
  obtain ⟨settings, third, -, returned⟩ := (yields_bind _ _ _ _ _).mp yieldsText
  obtain ⟨rfl, -⟩ := (yields_pure _ _ _ _).mp returned
  have unplaced : ∀ entity : Entity, entity.unplaced.unplaced = entity.unplaced := by
    intro entity
    simp [Entity.unplaced, Function.comp_def, Field.unplaced]
  refine congrArg String.ofList (render_unplaced _ schema ?_)
  simp [Function.comp_def, unplaced]

end Service

end Schematic
