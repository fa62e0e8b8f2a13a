import Schematic.Proofs.Service.Faithfulness
import Schematic.Proofs.Store.Passage

set_option autoImplicit false

namespace Schematic

-- What the store must allow of entities that are still to be written, none of which is there yet.
structure EntitiesAwaited (id : Int) (places : List (Entity × Nat)) (tables : Tables) : Prop where
  model : HasModel tables id
  distinct : (places.map fun place => place.1.name).Nodup
  formed : ∀ place ∈ places, (place.1.fields.map Field.name).Nodup
  vacant : ∀ place ∈ places, Vacant EntityRecord.name tables.entities.rows id place.1.name

structure FieldsAwaited (entityId : Int) (places : List (Field × Nat)) (tables : Tables) : Prop where
  owner : HasEntity tables entityId
  distinct : (places.map fun place => place.1.name).Nodup
  vacant : ∀ place ∈ places, Vacant FieldRecord.name tables.fields.rows entityId place.1.name

def EndsHeld (id : Int) (stored : List Service.StoredEntity) (tables : Tables) : Prop :=
  ∀ relation ends, Service.ends? stored relation = some ends →
    HasEnd tables id ends.fromEntity ends.fromField ∧ HasEnd tables id ends.toEntity ends.toField

theorem vacant_more {α : Type} (name : α → String) (rows : List (Row Int α)) (row : Row Int α) (parent : Int) (record : α)
    (text : String) (same : row.record = .ok record) (other : name record ≠ text) (vacant : Vacant name rows parent text) :
    Vacant name (rows ++ [row]) parent text := by
  intro old member found owned told
  cases List.mem_append.mp member with
  | inl inside => exact vacant old inside found owned told
  | inr new =>
      obtain rfl := List.mem_singleton.mp new
      rw [Except.ok.inj (told.symm.trans same)]
      exact other

theorem of_entity_place (id : Int) (entity : Entity) (position : Nat) (record : EntityRecord)
    (built : EntityRecord.ofEntity id entity position = .ok record) : record.dataModelId = id ∧ record.name = entity.name := by
  rw [EntityRecord.ofEntity] at built
  split at built
  · obtain rfl := Checked.ok.inj built
    exact ⟨rfl, rfl⟩
  · cases built

theorem kept_end (rows : List (Row Int EntityRecord)) (slots : List (Row Int FieldRecord)) (id : Int) (entities : List Entity)
    (stored : List Service.StoredEntity) (kept : List.Forall₂ (EntityKept rows slots id) entities stored)
    (source : Service.StoredEntity) (member : source ∈ stored) (entityId fieldId : Int) (name : String)
    (key : source.record.id = some entityId) (found : source.fieldId? name = some fieldId) :
    (∃ entity ∈ rows, entity.id = entityId ∧ entity.parent = some id) ∧
      ∃ field ∈ slots, field.id = fieldId ∧ field.parent = some entityId := by
  obtain ⟨entity, -, row, inside, parent, -, given, -, fields⟩ := related_right _ _ _ kept source member
  obtain rfl := Option.some.inj (given.symm.trans key)
  obtain ⟨record, first, same⟩ := Option.bind_eq_some_iff.mp found
  obtain ⟨field, -, slot, among, owned, -, told, -⟩ := related_right _ _ _ fields record (List.mem_of_find?_eq_some first)
  exact ⟨⟨row, inside, rfl, parent⟩, slot, among, Option.some.inj (told.symm.trans same), owned⟩

theorem kept_ends (tables : Tables) (id : Int) (entities : List Entity) (stored : List Service.StoredEntity)
    (kept : List.Forall₂ (EntityKept tables.entities.rows tables.fields.rows id) entities stored) : EndsHeld id stored tables := by
  intro relation ends found
  simp only [Service.ends?, bind, Option.bind_eq_some_iff, pure, Option.some.injEq] at found
  obtain ⟨source, first, target, last, fromEntity, a, fromField, b, toEntity, c, toField, d, rfl⟩ := found
  have start := List.mem_of_find?_eq_some first
  have finish := List.mem_of_find?_eq_some last
  exact ⟨kept_end _ _ id entities stored kept source start _ _ _ a b, kept_end _ _ id entities stored kept target finish _ _ _ c d⟩

namespace Service

open Schematic.Action

theorem delete_upholds (id : Int) : Takes (Upholds Always) (Projections.delete id) := by
  apply upholds_naming
  -- Relations go before the fields at their ends, and fields before their entities.
  apply upholds_bind _ (fun _ tables => ∀ row ∈ tables.relations.rows, row.parent ≠ some id)
  · exact upholds_run _ _ _ (fun _ => rfl) fun tables steady _ => relations_deleted id tables steady
  · intro before value after yields _ _
    obtain ⟨-, breakdowns, -, rfl⟩ := yields_run _ _ _ _ _ yields
    intro row member
    simpa using (List.mem_filter.mp member).2
  intro relations
  apply upholds_bind _ (fun _ tables => (∀ row ∈ tables.relations.rows, row.parent ≠ some id) ∧
    ∀ row ∈ tables.fields.rows, Tables.isFieldOf (tables.entityIds id) row = false)
  · exact upholds_run _ _ _ (fun _ => rfl) fun tables steady unrelated => fields_deleted id tables unrelated steady
  · intro before value after yields _ unrelated
    obtain ⟨-, breakdowns, -, rfl⟩ := yields_run _ _ _ _ _ yields
    refine ⟨unrelated, fun row member => ?_⟩
    exact (Bool.not_eq_true' _).mp (List.mem_filter.mp member).2
  intro fields
  apply upholds_then
  · apply upholds_run _ _ _ fun _ => rfl
    intro tables steady bare
    exact entities_deleted id tables bare.1 bare.2 steady
  · exact fun entities => takes_pure _ upholds_chains _

theorem save_field_upholds (entityId : Int) (place : Field × Nat) (rest : List (Field × Nat)) :
    Takes (Upholds (FieldsAwaited entityId (place :: rest))) (saveField entityId place.1 place.2) := by
  apply upholds_checked
  intro record built
  obtain ⟨rfl, -, name⟩ := of_field_place entityId place.1 place.2 record built
  apply upholds_naming
  apply upholds_run _ _ _ fun _ => rfl
  intro tables steady awaited
  apply field_inserted record tables awaited.owner _ steady
  rw [name]
  exact awaited.vacant place List.mem_cons_self

theorem save_field_awaits (entityId : Int) (place : Field × Nat) (rest : List (Field × Nat)) (before after : World)
    (record : FieldRecord) (yields : Yields (saveField entityId place.1 place.2) before record after)
    (awaited : FieldsAwaited entityId (place :: rest) before.tables) : FieldsAwaited entityId rest after.tables := by
  obtain ⟨row, last, ⟨given, built, written⟩, same, tables⟩ := save_field_yields entityId place.1 place.2 before after record yields
  obtain ⟨fresh, distinct⟩ := List.nodup_cons.mp awaited.distinct
  rw [tables]
  refine ⟨awaited.owner, distinct, ?_⟩
  intro other member
  apply vacant_more FieldRecord.name _ row entityId record _ same _ (awaited.vacant other (List.mem_cons_of_mem _ member))
  intro twice
  apply fresh
  rw [written] at same
  have name : record.name = place.1.name := by
    rw [← Except.ok.inj same]
    exact (of_field_place _ _ _ _ built).2.2
  exact List.mem_map.mpr ⟨other, member, twice.symm.trans name⟩

theorem save_entity_upholds (id : Int) (place : Entity × Nat) (rest : List (Entity × Nat)) :
    Takes (Upholds (EntitiesAwaited id (place :: rest))) (saveEntity id place.1 place.2) := by
  apply upholds_checked
  intro record built
  obtain ⟨rfl, name⟩ := of_entity_place id place.1 place.2 record built
  apply upholds_bind _ (fun stored => FieldsAwaited (stored.id.getD 0) place.1.fields.zipIdx)
  · apply upholds_naming
    apply upholds_run _ _ _ fun _ => rfl
    intro tables steady awaited
    apply entity_inserted record tables awaited.model _ steady
    rw [name]
    exact awaited.vacant place List.mem_cons_self
  · intro before stored after yields steady awaited
    rw [Projections.insertEntity, Projections.naming, yields_naming] at yields
    obtain ⟨rfl, breakdowns, -, rfl⟩ := yields_run _ _ _ _ _ yields
    refine ⟨⟨_, List.mem_append_right _ List.mem_cons_self, rfl⟩, ?_, ?_⟩
    · have names : place.1.fields.zipIdx.map (fun spot => spot.1.name) = place.1.fields.map Field.name := by
        rw [← List.zipIdx_map_fst 0 place.1.fields, List.map_map]
        simp
      rw [names]
      exact awaited.formed place List.mem_cons_self
    · -- The id is new, so no field belongs to it.
      intro spot _ row member found owned
      obtain ⟨old, -, parent, entity, inside, key⟩ := steady.sound.fields row member
      have given := steady.given entity inside
      have same := Option.some.inj (parent.symm.trans owned)
      simp only [Tables.insertEntity, Option.getD_some] at same
      omega
  · intro stored
    apply upholds_then
    · exact upholds_list (FieldsAwaited (stored.id.getD 0)) _ (save_field_upholds _) (save_field_awaits _) place.1.fields.zipIdx
    · exact fun fields => takes_pure _ upholds_chains _

theorem save_entity_awaits (id : Int) (place : Entity × Nat) (rest : List (Entity × Nat)) (before after : World)
    (stored : StoredEntity) (yields : Yields (saveEntity id place.1 place.2) before stored after)
    (awaited : EntitiesAwaited id (place :: rest) before.tables) : EntitiesAwaited id rest after.tables := by
  obtain ⟨row, fields, last, -, written, -, -, tables⟩ := save_entity_yields id place.1 place.2 before after stored yields
  obtain ⟨fresh, distinct⟩ := List.nodup_cons.mp awaited.distinct
  rw [tables]
  refine ⟨awaited.model, distinct, fun other member => awaited.formed other (List.mem_cons_of_mem _ member), ?_⟩
  intro other member
  apply vacant_more EntityRecord.name _ row id _ _ (congrArg Row.record written) _
    (awaited.vacant other (List.mem_cons_of_mem _ member))
  intro twice
  apply fresh
  exact List.mem_map.mpr ⟨other, member, twice.symm⟩

theorem save_relation_upholds (context : LogContext) (id : Int) (schema : Schema) (stored : List StoredEntity)
    (relation : Relation) : Takes (Upholds (EndsHeld id stored)) (saveRelation context id schema stored relation) := by
  rw [saveRelation]
  cases found : ends? stored relation with
  | none =>
      apply upholds_mono _ Always _ fun _ _ _ => trivial
      exact takes_bind _ upholds_chains _ _ (upholds_note _) fun _ => takes_pure _ upholds_chains _
  | some ends =>
      apply upholds_checked
      intro record built
      rw [RelationRecord.ofRelation] at built
      split at built
      · obtain rfl := Checked.ok.inj built
        apply upholds_then
        · apply upholds_naming
          apply upholds_run _ _ _ fun _ => rfl
          intro tables steady held
          obtain ⟨start, finish⟩ := held relation ends found
          exact relation_inserted _ tables start finish steady
        · exact fun _ => takes_pure _ upholds_chains _
      · cases built

theorem save_relation_holds (context : LogContext) (id : Int) (schema : Schema) (stored : List StoredEntity)
    (relation : Relation) (before after : World) (result : Except Diagnostic RelationRecord)
    (yields : Yields (saveRelation context id schema stored relation) before result after)
    (held : EndsHeld id stored before.tables) : EndsHeld id stored after.tables := by
  cases save_relation_yields context id schema stored relation before after result yields with
  | inl left =>
      obtain ⟨-, -, tables⟩ := left
      rw [tables]
      exact held
  | inr linked =>
      obtain ⟨ends, row, record, last, -, -, -, -, tables⟩ := linked
      rw [tables]
      exact held

theorem write_upholds (context : LogContext) (id : Int) (schema : Schema) (coherent : Coherent schema.entities) :
    Takes (Upholds (HasModel · id)) (writeProjection context id schema) := by
  have names : schema.entities.zipIdx.map (fun place => place.1.name) = entityNames schema.entities := by
    rw [entityNames, ← List.zipIdx_map_fst 0 schema.entities, List.map_map]
    simp
  apply upholds_bind _ (fun _ => EntitiesAwaited id schema.entities.zipIdx)
  · exact upholds_mono _ Always _ (fun _ _ _ => trivial) (takes_map _ upholds_chains _ _ (delete_upholds id))
  · intro before value after yields _ model
    obtain ⟨deleted, removed⟩ := (yields_discard _ _ _ _).mp yields
    rw [delete_yields id before after deleted removed]
    refine ⟨model, ?_, ?_, ?_⟩
    · rw [names]
      exact coherent.distinct
    · intro place member
      exact (coherent.formed place.1 (List.fst_mem_of_mem_zipIdx member)).distinct
    · intro place _ row member record owned
      rw [cleared_entities] at member
      simp [owned] at member
  intro deleted
  apply upholds_bind _ (fun stored => EndsHeld id stored)
  · exact upholds_list (EntitiesAwaited id) _ (save_entity_upholds id) (save_entity_awaits id) schema.entities.zipIdx
  · intro before stored after yields _ _
    obtain ⟨rows, fields, last, -, kept, tables⟩ := save_entities_yields id _ before after stored yields
    apply kept_ends after.tables id _ stored
    apply kept.imp
    intro entity record
    rw [tables]
    apply entity_kept_more
    · exact fun row member => List.mem_append_right _ member
    · exact fun slot member => List.mem_append_right _ member
  intro stored
  apply upholds_then
  · exact upholds_list (fun _ => EndsHeld id stored) _ (fun relation _ => save_relation_upholds context id schema stored relation)
      (fun relation _ => save_relation_holds context id schema stored relation) schema.relations
  · exact fun results => takes_pure _ upholds_chains _

end Service

end Schematic
