import Schematic.Proofs.Service.Capacity

set_option autoImplicit false

namespace Schematic

open Schematic.Action

structure Legible (tables : Tables) (id : Int) : Prop where
  entities : ∀ row ∈ tables.entities.belonging id, row.Whole
  fields : ∀ row ∈ tables.fieldRows id, row.Whole
  relations : ∀ row ∈ tables.relations.belonging id, row.Whole

theorem holds_fields_whole (tables : Tables) (id : Int) (entities : List Entity) (holds : Holds tables id entities) :
    ∀ row ∈ tables.fieldRows id, row.Whole := by
  intro row member
  obtain ⟨inside, owned⟩ := List.mem_filter.mp member
  obtain ⟨owner, known, parent⟩ := (is_field_of _ row).mp owned
  obtain ⟨entity, present, rfl⟩ := List.mem_map.mp known
  obtain ⟨place, -, found⟩ := related_right _ _ _ holds entity present
  have among : row ∈ tables.fields.belonging entity.id := List.mem_filter.mpr ⟨inside, by simpa using parent⟩
  obtain ⟨slot, -, given, -, same⟩ := related_right _ _ _ found.declared row among
  exact ⟨_, congrArg Row.record same⟩

theorem recorded_relations (id : Int) (schema : Schema) (result : Projection × List Diagnostic) (before after : Tables)
    (recorded : Recorded id schema result before after) :
    (after.relations.belonging id).map Row.record = result.1.relations.map Except.ok := by
  obtain ⟨rows, fields, stored, relations, -, -, links, same, tables⟩ := recorded
  rw [Table.belonging, tables.relations, cleared_relations,
    belonging_fresh id _ relations (links_parents id schema stored _ _ relations links)]
  exact same

theorem recorded_legible (id : Int) (schema : Schema) (result : Projection × List Diagnostic) (before after : Tables)
    (keyed : Keyed before) (recorded : Recorded id schema result before after) : Legible after id := by
  have holds := rewritten_holds id _ _ _ (recorded_rewritten id schema result before after recorded) keyed
  refine ⟨?_, holds_fields_whole after id schema.entities holds, ?_⟩
  · intro row member
    obtain ⟨place, -, found⟩ := related_right _ _ _ holds row member
    exact ⟨_, congrArg Row.record found.stored⟩
  · intro row member
    have among := List.mem_map_of_mem (f := Row.record) member
    rw [recorded_relations id schema result before after recorded] at among
    obtain ⟨record, -, same⟩ := List.mem_map.mp among
    exact ⟨record, same.symm⟩

namespace Service

theorem records_whole {κ α : Type} (table : TableName) (rows : List (Row κ α)) (whole : ∀ row ∈ rows, row.Whole) (world : World) :
    ∃ records, Yields (rows.mapM (recordOf table)) world records world := by
  induction rows with
  | nil => exact ⟨[], by rw [List.mapM_nil]; rfl⟩
  | cons row rows ih =>
      obtain ⟨record, same⟩ := whole row List.mem_cons_self
      obtain ⟨records, rest⟩ := ih fun other member => whole other (List.mem_cons_of_mem _ member)
      have first : Yields (recordOf table row) world record world := by
        rw [recordOf, same]
        rfl
      refine ⟨record :: records, ?_⟩
      rw [List.mapM_cons]
      exact (yields_bind _ _ _ _ _).mpr ⟨record, world, first, (yields_bind _ _ _ _ _).mpr ⟨records, world, rest, rfl⟩⟩

theorem sorted_whole {κ α : Type} (table : TableName) (rows sorted : List (Row κ α)) (same : sorted.Perm rows)
    (whole : ∀ row ∈ rows, row.Whole) (world : World) : ∃ records, Yields (sorted.mapM (recordOf table)) world records world :=
  records_whole table sorted (fun row member => whole row (same.mem_iff.mp member)) world

section Calm

variable (id : Int) (before : World) (calm : Calm before) (legible : Legible before.tables id)

include calm legible

theorem read_legible :
    ∃ projection after, Yields (Projections.read id) before projection after ∧ after.tables = before.tables ∧ Calm after := by
  have first := calm_run (.selectEntities id) (fun tables => (tables.entitiesOf id, tables)) before calm
  have second := calm_run (.selectFields id) (fun tables => (tables.fieldsOf id, tables)) (sent (.selectEntities id) before) calm
  have third := calm_run (.selectRelations id) (fun tables => (tables.relationsOf id, tables))
    (sent (.selectFields id) (sent (.selectEntities id) before)) calm
  obtain ⟨entities, readEntities⟩ := sorted_whole .entities _ (before.tables.entitiesOf id) (List.mergeSort_perm _ _)
    legible.entities _
  obtain ⟨fields, readFields⟩ := sorted_whole .fields _ (before.tables.fieldsOf id) (List.mergeSort_perm _ _) legible.fields _
  obtain ⟨relations, readRelations⟩ := sorted_whole .relations _ (before.tables.relationsOf id) (List.mergeSort_perm _ _)
    legible.relations _
  refine ⟨⟨id, entities, fields, relations⟩,
    sent (.selectRelations id) (sent (.selectFields id) (sent (.selectEntities id) before)), ?_, rfl, calm⟩
  refine (yields_bind _ _ _ _ _).mpr
    ⟨(before.tables.entitiesOf id, before.tables.fieldsOf id, before.tables.relationsOf id),
      sent (.selectRelations id) (sent (.selectFields id) (sent (.selectEntities id) before)), ?_, ?_⟩
  · rw [Projections.naming, yields_naming]
    refine (yields_bind _ _ _ _ _).mpr ⟨_, _, first, (yields_bind _ _ _ _ _).mpr ⟨_, _, second, ?_⟩⟩
    exact (yields_bind _ _ _ _ _).mpr ⟨_, _, third, rfl⟩
  · refine (yields_bind _ _ _ _ _).mpr ⟨_, _, readEntities, (yields_bind _ _ _ _ _).mpr ⟨_, _, readFields, ?_⟩⟩
    exact (yields_bind _ _ _ _ _).mpr ⟨_, _, readRelations, rfl⟩

theorem load_legible :
    ∃ projection after, Yields (Projections.load id) before projection after ∧ after.tables = before.tables ∧ Calm after := by
  have snapshot := calm_run .readSnapshot (fun tables => ((), tables)) (opened before before.breakdowns) calm
  obtain ⟨projection, middle, read, same, still⟩ :=
    read_legible id (sent .readSnapshot (opened before before.breakdowns)) calm legible
  refine ⟨projection, closed middle middle.breakdowns, ?_, same, still⟩
  rw [Yields, Projections.load, calm_connected _ before calm]
  apply calm_committed _ before middle projection calm still
  exact (yields_bind _ _ _ _ _).mpr ⟨(), _, snapshot, read⟩

theorem get_schema_legible (settings : Settings) (principal : String) (named : principal ≠ "")
    (owns : Owns before.tables principal id) (entities : List Entity) (coherent : Coherent entities)
    (holds : Holds before.tables id entities) :
    ∃ stored after, Yields (getSchema (.ok settings) id (some principal)) before stored after ∧ after.tables = before.tables ∧
      Calm after := by
  obtain ⟨model, got⟩ := get_model_owned id before calm principal owns named
  obtain ⟨projection, after, loaded, same, still⟩ := load_legible id (sent (.findModel id) before) calm legible
  obtain ⟨entityRows, fieldRows⟩ := load_yields id _ _ _ loaded
  have meant := projection_entities before.tables id entities coherent holds projection entityRows fieldRows
  let text := ({ entities := entities.map Entity.unplaced, identifier := settings.source.identifier } : Schema).render
  refine ⟨(String.ofList text, projection), after, ?_, same, still⟩
  refine (yields_bind _ _ _ _ _).mpr ⟨(), _, (yields_discard _ _ _ _).mpr ⟨model, got⟩, ?_⟩
  refine (yields_bind _ _ _ _ _).mpr ⟨projection, after, (yields_try _ _ _ _ _).mpr (.inl loaded), ?_⟩
  simp only [meant]
  rfl

end Calm

end Service

end Schematic
