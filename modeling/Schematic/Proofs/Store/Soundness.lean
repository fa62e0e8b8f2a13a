import Schematic.Proofs.Store.Transaction
import Mathlib.Data.List.Nodup

set_option autoImplicit false

namespace Schematic

def HasModel (tables : Tables) (id : Int) : Prop := ∃ model ∈ tables.models.rows, model.id = id

def HasEntity (tables : Tables) (id : Int) : Prop := ∃ entity ∈ tables.entities.rows, entity.id = id

def HasEnd (tables : Tables) (dataModelId entityId fieldId : Int) : Prop :=
  (∃ entity ∈ tables.entities.rows, entity.id = entityId ∧ entity.parent = some dataModelId) ∧
    ∃ field ∈ tables.fields.rows, field.id = fieldId ∧ field.parent = some entityId

def SameName {α : Type} (name : α → String) (a b : Row Int α) : Prop :=
  a.parent = b.parent ∧ ∃ first second, a.record = .ok first ∧ b.record = .ok second ∧ name first = name second

-- What the foreign keys and the unique indexes of the store demand of its rows.
structure Sound (tables : Tables) : Prop where
  entities : ∀ row ∈ tables.entities.rows, ∃ record, row.record = .ok record ∧ row.parent = some record.dataModelId ∧
    HasModel tables record.dataModelId
  fields : ∀ row ∈ tables.fields.rows, ∃ record, row.record = .ok record ∧ row.parent = some record.entityId ∧
    HasEntity tables record.entityId
  relations : ∀ row ∈ tables.relations.rows, ∃ record, row.record = .ok record ∧ row.parent = some record.dataModelId ∧
    HasEnd tables record.dataModelId record.fromEntityId record.fromFieldId ∧
    HasEnd tables record.dataModelId record.toEntityId record.toFieldId
  entityNames : tables.entities.rows.Pairwise fun a b => ¬ SameName EntityRecord.name a b
  fieldNames : tables.fields.rows.Pairwise fun a b => ¬ SameName FieldRecord.name a b

structure Steady (tables : Tables) : Prop where
  sound : Sound tables
  distinct : (tables.entities.rows.map Row.id).Nodup
  given : ∀ row ∈ tables.entities.rows, row.id ≤ tables.entities.lastId

def Vacant {α : Type} (name : α → String) (rows : List (Row Int α)) (parent : Int) (text : String) : Prop :=
  ∀ row ∈ rows, ∀ record, row.parent = some parent → row.record = .ok record → name record ≠ text

theorem has_end_more (before after : Tables) (entities : ∀ row ∈ before.entities.rows, row ∈ after.entities.rows)
    (fields : ∀ row ∈ before.fields.rows, row ∈ after.fields.rows) (dataModelId entityId fieldId : Int)
    (there : HasEnd before dataModelId entityId fieldId) : HasEnd after dataModelId entityId fieldId := by
  obtain ⟨⟨entity, inside, same⟩, field, among, owned⟩ := there
  exact ⟨⟨entity, entities entity inside, same⟩, field, fields field among, owned⟩

theorem vacant_pairwise {α : Type} (name : α → String) (rows : List (Row Int α)) (row : Row Int α) (record : α) (parent : Int)
    (owned : row.parent = some parent) (same : row.record = .ok record) (vacant : Vacant name rows parent (name record))
    (distinct : rows.Pairwise fun a b => ¬ SameName name a b) : (rows ++ [row]).Pairwise fun a b => ¬ SameName name a b := by
  rw [List.pairwise_append]
  refine ⟨distinct, List.pairwise_singleton _ _, ?_⟩
  intro other member last here
  obtain rfl := List.mem_singleton.mp here
  intro twice
  obtain ⟨together, first, second, told, again, equal⟩ := twice
  obtain rfl := Except.ok.inj (again.symm.trans same)
  exact vacant other member first (together.trans owned) told equal

theorem steady_kept (before after : Tables) (entities : after.entities.rows = before.entities.rows)
    (fields : after.fields.rows = before.fields.rows) (relations : after.relations.rows = before.relations.rows)
    (models : ∀ id, HasModel before id → HasModel after id) (grown : before.entities.lastId ≤ after.entities.lastId)
    (steady : Steady before) : Steady after := by
  have ends := has_end_more before after (by simp [entities]) (by simp [fields])
  refine ⟨⟨?_, ?_, ?_, ?_, ?_⟩, ?_, ?_⟩
  · rw [entities]
    intro row member
    obtain ⟨record, same, parent, model⟩ := steady.sound.entities row member
    exact ⟨record, same, parent, models _ model⟩
  · rw [fields]
    intro row member
    obtain ⟨record, same, parent, owner⟩ := steady.sound.fields row member
    refine ⟨record, same, parent, ?_⟩
    rw [HasEntity, entities]
    exact owner
  · rw [relations]
    intro row member
    obtain ⟨record, same, parent, start, finish⟩ := steady.sound.relations row member
    exact ⟨record, same, parent, ends _ _ _ start, ends _ _ _ finish⟩
  · rw [entities]
    exact steady.sound.entityNames
  · rw [fields]
    exact steady.sound.fieldNames
  · rw [entities]
    exact steady.distinct
  · rw [entities]
    intro row member
    exact Int.le_trans (steady.given row member) grown

theorem steady_rollback (tables before : Tables) (grown : before.entities.lastId ≤ tables.entities.lastId)
    (steady : Steady before) : Steady (tables.rollback before) :=
  steady_kept before (tables.rollback before) rfl rfl rfl (fun _ there => there) grown steady

theorem model_inserted (model : DataModel) (tables : Tables) (steady : Steady tables) : Steady (tables.insertModel model).2 := by
  apply steady_kept tables (tables.insertModel model).2 rfl rfl rfl _ (Int.le_refl _) steady
  intro id there
  obtain ⟨row, member, same⟩ := there
  exact ⟨row, List.mem_append_left _ member, same⟩

theorem model_touched (id : Int) (tables : Tables) (steady : Steady tables) : Steady (tables.touchModel id) := by
  apply steady_kept tables (tables.touchModel id) rfl rfl rfl _ (Int.le_refl _) steady
  intro other there
  obtain ⟨row, member, same⟩ := there
  refine ⟨_, List.mem_map_of_mem member, ?_⟩
  split
  · exact same
  · exact same

theorem relations_deleted (id : Int) (tables : Tables) (steady : Steady tables) : Steady (tables.deleteRelations id).2 := by
  refine ⟨⟨steady.sound.entities, steady.sound.fields, ?_, steady.sound.entityNames, steady.sound.fieldNames⟩, steady.distinct,
    steady.given⟩
  intro row member
  exact steady.sound.relations row (List.mem_filter.mp member).1

theorem end_elsewhere (id : Int) (tables : Tables) (steady : Steady tables) (dataModelId entityId fieldId : Int)
    (apart : dataModelId ≠ id) (there : HasEnd tables dataModelId entityId fieldId) :
    HasEnd (tables.deleteFields id).2 dataModelId entityId fieldId := by
  obtain ⟨⟨entity, inside, key, owner⟩, field, among, same, parent⟩ := there
  refine ⟨⟨entity, inside, key, owner⟩, field, List.mem_filter.mpr ⟨among, ?_⟩, same, parent⟩
  rw [Bool.not_eq_true', Bool.eq_false_iff]
  intro doomed
  simp only [Tables.isFieldOf, parent, Option.any_some, List.contains_iff_mem] at doomed
  obtain ⟨other, belongs, twin⟩ := List.mem_map.mp doomed
  obtain ⟨present, mine⟩ := List.mem_filter.mp belongs
  obtain rfl := List.inj_on_of_nodup_map steady.distinct present inside (twin.trans key.symm)
  rw [owner] at mine
  exact apart (by simpa using mine)

theorem fields_deleted (id : Int) (tables : Tables) (unrelated : ∀ row ∈ tables.relations.rows, row.parent ≠ some id)
    (steady : Steady tables) : Steady (tables.deleteFields id).2 := by
  refine ⟨⟨steady.sound.entities, ?_, ?_, steady.sound.entityNames, ?_⟩, steady.distinct, steady.given⟩
  · intro row member
    exact steady.sound.fields row (List.mem_filter.mp member).1
  · intro row member
    obtain ⟨record, same, parent, start, finish⟩ := steady.sound.relations row member
    have apart : record.dataModelId ≠ id := by
      intro mine
      exact unrelated row member (mine ▸ parent)
    have elsewhere := end_elsewhere id tables steady record.dataModelId
    exact ⟨record, same, parent, elsewhere _ _ apart start, elsewhere _ _ apart finish⟩
  · exact steady.sound.fieldNames.filter _

theorem entities_deleted (id : Int) (tables : Tables) (unrelated : ∀ row ∈ tables.relations.rows, row.parent ≠ some id)
    (fieldless : ∀ row ∈ tables.fields.rows, Tables.isFieldOf (tables.entityIds id) row = false) (steady : Steady tables) :
    Steady (tables.deleteEntities id).2 := by
  have ends : ∀ dataModelId entityId fieldId, dataModelId ≠ id → HasEnd tables dataModelId entityId fieldId →
      HasEnd (tables.deleteEntities id).2 dataModelId entityId fieldId := by
    intro dataModelId entityId fieldId apart there
    obtain ⟨⟨entity, inside, key, owner⟩, field⟩ := there
    exact ⟨⟨entity, List.mem_filter.mpr ⟨inside, by simp [owner, apart]⟩, key, owner⟩, field⟩
  refine ⟨⟨?_, ?_, ?_, steady.sound.entityNames.filter _, steady.sound.fieldNames⟩, ?_, ?_⟩
  · intro row member
    exact steady.sound.entities row (List.mem_filter.mp member).1
  · intro row member
    obtain ⟨record, same, parent, entity, inside, key⟩ := steady.sound.fields row member
    refine ⟨record, same, parent, entity, List.mem_filter.mpr ⟨inside, ?_⟩, key⟩
    rw [Bool.not_eq_true', decide_eq_false_iff_not]
    intro mine
    have kept := fieldless row member
    simp only [Tables.isFieldOf, parent, Option.any_some, ← Bool.not_eq_true, List.contains_iff_mem] at kept
    apply kept
    exact List.mem_map.mpr ⟨entity, List.mem_filter.mpr ⟨inside, by simpa using mine⟩, key⟩
  · intro row member
    obtain ⟨record, same, parent, start, finish⟩ := steady.sound.relations row member
    have apart : record.dataModelId ≠ id := by
      intro mine
      exact unrelated row member (mine ▸ parent)
    exact ⟨record, same, parent, ends _ _ _ apart start, ends _ _ _ apart finish⟩
  · exact steady.distinct.sublist (List.filter_sublist.map Row.id)
  · intro row member
    exact steady.given row (List.mem_filter.mp member).1

theorem entity_inserted (record : EntityRecord) (tables : Tables) (model : HasModel tables record.dataModelId)
    (vacant : Vacant EntityRecord.name tables.entities.rows record.dataModelId record.name) (steady : Steady tables) :
    Steady (tables.insertEntity record).2 := by
  have ends := has_end_more tables (tables.insertEntity record).2 (fun row member => List.mem_append_left _ member)
    (fun row member => member)
  refine ⟨⟨?_, ?_, ?_, ?_, steady.sound.fieldNames⟩, ?_, ?_⟩
  · intro row member
    cases List.mem_append.mp member with
    | inl old => exact steady.sound.entities row old
    | inr new =>
        obtain rfl := List.mem_singleton.mp new
        exact ⟨_, rfl, rfl, model⟩
  · intro row member
    obtain ⟨found, same, parent, entity, inside, key⟩ := steady.sound.fields row member
    exact ⟨found, same, parent, entity, List.mem_append_left _ inside, key⟩
  · intro row member
    obtain ⟨found, same, parent, start, finish⟩ := steady.sound.relations row member
    exact ⟨found, same, parent, ends _ _ _ start, ends _ _ _ finish⟩
  · exact vacant_pairwise EntityRecord.name _ _ _ _ rfl rfl vacant steady.sound.entityNames
  · simp only [Tables.insertEntity, Table.add, List.map_append, List.map_cons, List.map_nil]
    rw [List.nodup_append]
    refine ⟨steady.distinct, List.nodup_singleton _, ?_⟩
    intro key old other new
    obtain ⟨row, member, same⟩ := List.mem_map.mp old
    have bound := steady.given row member
    rw [List.mem_singleton.mp new]
    omega
  · intro row member
    cases List.mem_append.mp member with
    | inl old => exact Int.le_trans (steady.given row old) (Int.le_of_lt (Int.lt_succ _))
    | inr new =>
        obtain rfl := List.mem_singleton.mp new
        exact Int.le_refl _

theorem field_inserted (record : FieldRecord) (tables : Tables) (owner : HasEntity tables record.entityId)
    (vacant : Vacant FieldRecord.name tables.fields.rows record.entityId record.name) (steady : Steady tables) :
    Steady (tables.insertField record).2 := by
  have ends := has_end_more tables (tables.insertField record).2 (fun row member => member)
    (fun row member => List.mem_append_left _ member)
  refine ⟨⟨steady.sound.entities, ?_, ?_, steady.sound.entityNames, ?_⟩, steady.distinct, steady.given⟩
  · intro row member
    cases List.mem_append.mp member with
    | inl old => exact steady.sound.fields row old
    | inr new =>
        obtain rfl := List.mem_singleton.mp new
        exact ⟨_, rfl, rfl, owner⟩
  · intro row member
    obtain ⟨found, same, parent, start, finish⟩ := steady.sound.relations row member
    exact ⟨found, same, parent, ends _ _ _ start, ends _ _ _ finish⟩
  · exact vacant_pairwise FieldRecord.name _ _ _ _ rfl rfl vacant steady.sound.fieldNames

theorem relation_inserted (record : RelationRecord) (tables : Tables)
    (start : HasEnd tables record.dataModelId record.fromEntityId record.fromFieldId)
    (finish : HasEnd tables record.dataModelId record.toEntityId record.toFieldId) (steady : Steady tables) :
    Steady (tables.insertRelation record).2 := by
  refine ⟨⟨steady.sound.entities, steady.sound.fields, ?_, steady.sound.entityNames, steady.sound.fieldNames⟩, steady.distinct,
    steady.given⟩
  intro row member
  cases List.mem_append.mp member with
  | inl old => exact steady.sound.relations row old
  | inr new =>
      obtain rfl := List.mem_singleton.mp new
      exact ⟨_, rfl, rfl, start, finish⟩

end Schematic
