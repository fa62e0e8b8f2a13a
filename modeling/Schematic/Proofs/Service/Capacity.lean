import Schematic.Proofs.Record.Flattening
import Schematic.Proofs.Service.Linking
import Schematic.Proofs.Service.Ownership

set_option autoImplicit false

namespace Schematic

open Schematic.Action

-- What the columns of the store can hold of the names of a schema. A relation that is left out needs no room.
structure Fits (schema : Schema) : Prop where
  entities : ∀ entity ∈ schema.entities, entity.name.length ≤ 255
  fields : ∀ entity ∈ schema.entities, ∀ field ∈ entity.fields, field.name.length ≤ 255
  relations : ∀ place ∈ referenceFields schema.entities, ¬ Stranded schema.identifier schema.entities place.2 →
    ∀ relation, place.2.relation? schema.entities schema.identifier place.1.name = some relation → relation.name.length ≤ 512

theorem overlong_refusal (key : String) (limit : Nat) (value : String) :
    ∀ complaint ∈ overlong key limit value, complaint.refusal = .stringTooLong := by
  intro complaint member
  rw [overlong] at member
  split at member
  · obtain rfl := List.mem_singleton.mp member
    rfl
  · cases member

theorem spared_limited {α : Type} (limits : Prop) (table : TableName) (complaints : List Complaint) (value : Checked α)
    (none : complaints = [] ↔ limits) (long : ∀ complaint ∈ complaints, complaint.refusal = .stringTooLong)
    (passed : complaints = [] → ∃ found, value = .ok found) (failed : complaints ≠ [] → value = .refused complaints) :
    Spared limits (checked table value) := by
  apply spared_checked
  · intro within
    exact passed (none.mpr within)
  · intro outside
    have some : complaints ≠ [] := fun empty => outside (none.mp empty)
    exact ⟨complaints, failed some, some, long⟩

theorem fits_iff (schema : Schema) (coherent : Coherent schema.entities) (resolved : Resolved schema.entities) :
    Fits schema ↔ (∀ entity ∈ schema.entities, entity.name.length ≤ 255 ∧ ∀ field ∈ entity.fields, FieldFits field) ∧
      ∀ place ∈ referenceFields schema.entities, ¬ Stranded schema.identifier schema.entities place.2 →
        ∀ relation, place.2.relation? schema.entities schema.identifier place.1.name = some relation →
          relation.name.length ≤ 512 := by
  constructor
  · intro fits
    refine ⟨fun entity inside => ⟨fits.entities entity inside, fun field declared => ?_⟩, fits.relations⟩
    exact resolved_field_fits schema.entities coherent resolved fits.entities fits.fields entity inside field declared
  · intro fits
    refine ⟨fun entity inside => (fits.1 entity inside).1, fun entity inside field declared => ?_, fits.2⟩
    exact ((fits.1 entity inside).2 field declared).name

namespace Service

theorem entity_record_spared (dataModelId : Int) (entity : Entity) (position : Nat) :
    Spared (entity.name.length ≤ 255) (checked .entities (EntityRecord.ofEntity dataModelId entity position)) := by
  apply spared_limited _ _ _ _ (overlong_nil "name" 255 entity.name) (overlong_refusal _ _ _)
  · intro empty
    exact ⟨_, by rw [EntityRecord.ofEntity, empty]⟩
  · intro some
    rw [EntityRecord.ofEntity]
    split
    · exact absurd ‹_› some
    · rfl

theorem field_record_spared (entityId : Int) (field : Field) (position : Nat) :
    Spared (FieldFits field) (checked .fields (FieldRecord.ofField entityId field position)) := by
  apply spared_limited _ _ (overlong "name" 255 field.name ++ overlong "field_type" 255 field.type.base.name ++
    overlong "referenced_field" 255 (field.type.base.targetField?.getD ""))
  · simp only [List.append_eq_nil_iff, overlong_nil]
    constructor
    · intro short
      exact ⟨short.1.1, short.1.2, short.2⟩
    · intro fits
      exact ⟨⟨fits.name, fits.typeName⟩, fits.pointed⟩
  · simp only [List.mem_append]
    rintro complaint ((name | type) | pointed)
    · exact overlong_refusal _ _ _ complaint name
    · exact overlong_refusal _ _ _ complaint type
    · exact overlong_refusal _ _ _ complaint pointed
  · intro empty
    exact ⟨_, by rw [FieldRecord.ofField, empty]⟩
  · intro some
    rw [FieldRecord.ofField]
    split
    · exact absurd ‹_› some
    · rfl

theorem relation_record_spared (dataModelId : Int) (relation : Relation) (ends : Ends) :
    Spared (relation.name.length ≤ 512) (checked .relations (RelationRecord.ofRelation dataModelId relation ends.fromEntity
      ends.fromField ends.toEntity ends.toField)) := by
  apply spared_limited _ _ _ _ (overlong_nil "name" 512 relation.name) (overlong_refusal _ _ _)
  · intro empty
    exact ⟨_, by rw [RelationRecord.ofRelation, empty]⟩
  · intro some
    rw [RelationRecord.ofRelation]
    split
    · exact absurd ‹_› some
    · rfl

theorem save_field_spared (entityId : Int) (place : Field × Nat) :
    Spared (FieldFits place.1) (saveField entityId place.1 place.2) := by
  apply spared_then _ _ _ (field_record_spared entityId place.1 place.2)
  intro record
  exact spared_naming _ _ _ _ (spared_run _ _)

theorem save_entity_spared (dataModelId : Int) (place : Entity × Nat) :
    Spared (place.1.name.length ≤ 255 ∧ ∀ field ∈ place.1.fields, FieldFits field) (saveEntity dataModelId place.1 place.2) := by
  apply spared_bind _ _ _ _ (entity_record_spared dataModelId place.1 place.2)
  intro _ given _ _
  apply spared_after _ _ _ (spared_naming _ _ _ _ (spared_run _ _))
  intro _ record _ _
  apply spared_then
  · apply spared_of _ _ _ _ (spared_list _ _ place.1.fields.zipIdx fun slot _ => save_field_spared (record.id.getD 0) slot)
    constructor
    · intro each field member
      rw [← List.zipIdx_map_fst 0 place.1.fields] at member
      obtain ⟨slot, inside, same⟩ := List.mem_map.mp member
      exact same ▸ each slot inside
    · intro each slot inside
      exact each slot.1 (List.fst_mem_of_mem_zipIdx inside)
  · exact fun fields => spared_pure _

theorem save_relation_spared (context : LogContext) (dataModelId : Int) (schema : Schema) (stored : List StoredEntity)
    (relation : Relation) :
    Spared (ends? stored relation ≠ none → relation.name.length ≤ 512)
      (saveRelation context dataModelId schema stored relation) := by
  rw [saveRelation]
  cases found : ends? stored relation with
  | none =>
      apply spared_of True _ _ (by simp)
      exact spared_then _ _ _ (spared_note _) fun _ => spared_pure _
  | some ends =>
      apply spared_of (relation.name.length ≤ 512) _ _ (by simp)
      apply spared_then _ _ _ (relation_record_spared dataModelId relation ends)
      intro record
      exact spared_then _ _ _ (spared_naming _ _ _ _ (spared_run _ _)) fun _ => spared_pure _

theorem delete_spared (dataModelId : Int) : Spared True (Projections.delete dataModelId) := by
  apply spared_naming
  apply spared_then _ _ _ (spared_run _ _)
  intro relations
  apply spared_then _ _ _ (spared_run _ _)
  intro fields
  exact spared_then _ _ _ (spared_run _ _) fun entities => spared_pure _

theorem relation_limits (dataModelId : Int) (schema : Schema) (coherent : Coherent schema.entities)
    (resolved : Resolved schema.entities) (rows : List (Row Int EntityRecord)) (slots : List (Row Int FieldRecord))
    (stored : List StoredEntity) (kept : List.Forall₂ (EntityKept rows slots dataModelId) schema.entities stored) :
    (∀ relation ∈ schema.relations, ends? stored relation ≠ none → relation.name.length ≤ 512) ↔
      ∀ place ∈ referenceFields schema.entities, ¬ Stranded schema.identifier schema.entities place.2 →
        ∀ relation, place.2.relation? schema.entities schema.identifier place.1.name = some relation →
          relation.name.length ≤ 512 := by
  have one := references_relations schema.entities schema.identifier
  have ends : ∀ place ∈ referenceFields schema.entities, ∀ relation,
      place.2.relation? schema.entities schema.identifier place.1.name = some relation →
        (ends? stored relation ≠ none ↔ ¬ Stranded schema.identifier schema.entities place.2) := by
    intro place declared relation meant
    have course := reference_ends { entities := { rows }, fields := { rows := slots } } dataModelId schema stored coherent resolved kept
      place declared relation meant
    cases course with
    | inl lost => simp [lost]
    | inr linked =>
        obtain ⟨found, grounded, same, -⟩ := linked
        simp [grounded, same]
  constructor
  · intro short place declared grounded relation meant
    have member : relation ∈ schema.relations :=
      List.mem_flatMap.mpr ⟨place.1, (mem_references _ place declared).1,
        List.mem_filterMap.mpr ⟨place.2, (mem_references _ place declared).2.1, meant⟩⟩
    exact short relation member ((ends place declared relation meant).mpr grounded)
  · intro short relation member found
    obtain ⟨place, declared, meant⟩ := related_right _ _ _ one relation member
    exact short place declared ((ends place declared relation meant).mp found) relation meant

theorem write_spared (context : LogContext) (dataModelId : Int) (schema : Schema) (coherent : Coherent schema.entities)
    (resolved : Resolved schema.entities) : Spared (Fits schema) (writeProjection context dataModelId schema) := by
  apply spared_of _ _ _ (fits_iff schema coherent resolved).symm
  apply spared_after _ _ _ (spared_discard _ _ (delete_spared dataModelId))
  intro _ deleted _ _
  apply spared_bind
  · have entities := spared_list _ _ schema.entities.zipIdx fun place _ => save_entity_spared dataModelId place
    apply spared_of _ _ _ _ entities
    constructor
    · intro each entity member
      rw [← List.zipIdx_map_fst 0 schema.entities] at member
      obtain ⟨place, inside, same⟩ := List.mem_map.mp member
      exact same ▸ each place inside
    · intro each place inside
      exact each place.1 (List.fst_mem_of_mem_zipIdx inside)
  · intro before stored after yields
    obtain ⟨rows, fields, last, -, kept, -⟩ := save_entities_yields dataModelId _ before after stored yields
    rw [List.zipIdx_map_fst] at kept
    apply spared_then
    · apply spared_of _ _ _ (relation_limits dataModelId schema coherent resolved rows fields stored kept)
      exact spared_list _ _ schema.relations fun relation _ => save_relation_spared context dataModelId schema stored relation
    · exact fun outcomes => spared_pure _

theorem rewrite_settles (context : LogContext) (settings : Settings) (id : Int) (schema : Schema) (principal : String)
    (coherent : Coherent schema.entities) (resolved : Resolved schema.entities) (before : World) (calm : Calm before)
    (owns : Owns before.tables principal id) :
    Settles (Fits schema) (rewrite context settings id schema principal) before := by
  have limited := calm_run (.limitTime settings.store.timeoutMs) (fun tables => ((), tables)) before calm
  obtain ⟨model, locked, rfl⟩ := lock_owned id (sent (.limitTime settings.store.timeoutMs) before) calm principal owns
  apply settles_after _ _ _ _ _ _ limited
  apply settles_after _ _ _ _ _ _ locked
  apply settles_after
  · exact (yields_discard _ _ _ ()).mpr ⟨model, owned_yields model id _⟩
  · refine spared_then _ _ _ (write_spared context id schema coherent resolved) ?_ _ calm
    intro written
    exact spared_then _ _ _ (spared_naming _ _ _ _ (spared_run _ _)) fun _ => spared_pure _

theorem replace_stored_settles (context : LogContext) (settings : Settings) (id : Int) (schema : Schema) (principal : String)
    (coherent : Coherent schema.entities) (resolved : Resolved schema.entities) (before : World) (calm : Calm before)
    (owns : Owns before.tables principal id) :
    Settles (Fits schema) (replaceStored context settings id schema principal) before := by
  have whole := settles_connected _ _ before calm
    (settles_transaction _ _ before calm (rewrite_settles context settings id schema principal coherent resolved _ calm owns))
  simp only [Settles, Yields, Fails, outcome_replace_stored]
  exact whole

end Service

end Schematic
