import Schematic.Proofs.Service.Stored
import Schematic.Proofs.Store.Transaction
import Mathlib.Data.List.Nodup

set_option autoImplicit false

namespace Schematic

def Tables.fieldRows (tables : Tables) (dataModelId : Int) : List (Row Int FieldRecord) :=
  tables.fields.rows.filter (Tables.isFieldOf (tables.entityIds dataModelId))

structure Keyed (tables : Tables) : Prop where
  distinct : (tables.entities.rows.map Row.id).Nodup
  given : ∀ row ∈ tables.entities.rows, row.id ≤ tables.entities.lastId
  parented : ∀ row ∈ tables.fields.rows, ∀ parent, row.parent = some parent → parent ≤ tables.entities.lastId

theorem keyed_rows (before after : Tables) (entities : after.entities.rows = before.entities.rows)
    (fields : after.fields.rows = before.fields.rows) (grown : before.entities.lastId ≤ after.entities.lastId)
    (keyed : Keyed before) : Keyed after := by
  refine ⟨?_, ?_, ?_⟩
  · rw [entities]
    exact keyed.distinct
  · rw [entities]
    exact fun row member => Int.le_trans (keyed.given row member) grown
  · rw [fields]
    exact fun row member parent same => Int.le_trans (keyed.parented row member parent same) grown

theorem mem_entity_ids (tables : Tables) (dataModelId id : Int) :
    id ∈ tables.entityIds dataModelId ↔ ∃ row ∈ tables.entities.rows, row.parent = some dataModelId ∧ row.id = id := by
  simp [Tables.entityIds, Table.belonging, and_assoc]

theorem is_field_of (ids : List Int) (row : Row Int FieldRecord) :
    Tables.isFieldOf ids row = true ↔ ∃ id ∈ ids, row.parent = some id := by
  cases owned : row.parent with
  | none => simp [Tables.isFieldOf, owned]
  | some parent => simp [Tables.isFieldOf, owned]

theorem entity_ids_apart (tables : Tables) (a b id : Int) (keyed : Keyed tables) (inA : id ∈ tables.entityIds a)
    (inB : id ∈ tables.entityIds b) : a = b := by
  obtain ⟨first, memberA, parentA, sameA⟩ := (mem_entity_ids tables a id).mp inA
  obtain ⟨second, memberB, parentB, sameB⟩ := (mem_entity_ids tables b id).mp inB
  obtain rfl := List.inj_on_of_nodup_map keyed.distinct memberA memberB (sameA.trans sameB.symm)
  exact Option.some.inj (parentA.symm.trans parentB)

theorem cleared_entities (tables : Tables) (dataModelId : Int) :
    (tables.cleared dataModelId).entities.rows =
      tables.entities.rows.filter fun row => !decide (row.parent = some dataModelId) := rfl

theorem cleared_fields (tables : Tables) (dataModelId : Int) :
    (tables.cleared dataModelId).fields.rows =
      tables.fields.rows.filter fun row => !Tables.isFieldOf (tables.entityIds dataModelId) row := rfl

theorem cleared_relations (tables : Tables) (dataModelId : Int) :
    (tables.cleared dataModelId).relations.rows =
      tables.relations.rows.filter fun row => !decide (row.parent = some dataModelId) := rfl

theorem filter_elsewhere {α : Type} (rows fresh : List α) (kept wanted : α → Bool)
    (spared : ∀ row ∈ rows, wanted row = true → kept row = true) (foreign : ∀ row ∈ fresh, wanted row = false) :
    (rows.filter kept ++ fresh).filter wanted = rows.filter wanted := by
  have none : fresh.filter wanted = [] := by
    rw [List.filter_eq_nil_iff]
    intro row member
    simp [foreign row member]
  rw [List.filter_append, none, List.append_nil, List.filter_filter]
  refine List.filter_congr fun row member => ?_
  cases wants : wanted row with
  | true => simp [spared row member wants]
  | false => simp

theorem written_parents (dataModelId last : Int) (places : List (Entity × Nat)) (rows : List (Row Int EntityRecord))
    (fields : List (Row Int FieldRecord)) (written : Written dataModelId last places rows fields) :
    ∀ row ∈ rows, row.parent = some dataModelId := by
  induction written with
  | nil => simp
  | cons last place places row rows fields others next stored declared later ih =>
      intro other member
      rcases List.mem_cons.mp member with rfl | member
      · rw [stored]
      · exact ih other member

theorem written_ids (dataModelId last : Int) (places : List (Entity × Nat)) (rows : List (Row Int EntityRecord))
    (fields : List (Row Int FieldRecord)) (written : Written dataModelId last places rows fields) :
    ∀ row ∈ rows, last < row.id ∧ row.id ≤ last + rows.length := by
  induction written with
  | nil => simp
  | cons last place places row rows fields others next stored declared later ih =>
      intro other member
      simp only [List.length_cons, Int.natCast_add, Int.natCast_one]
      rcases List.mem_cons.mp member with rfl | member
      · omega
      · have bounds := ih other member
        omega

theorem written_distinct (dataModelId last : Int) (places : List (Entity × Nat)) (rows : List (Row Int EntityRecord))
    (fields : List (Row Int FieldRecord)) (written : Written dataModelId last places rows fields) :
    (rows.map Row.id).Nodup := by
  induction written with
  | nil => exact List.nodup_nil
  | cons last place places row rows fields others next stored declared later ih =>
      rw [List.map_cons, List.nodup_cons]
      refine ⟨?_, ih⟩
      intro member
      obtain ⟨other, inside, same⟩ := List.mem_map.mp member
      have bounds := written_ids _ _ _ _ _ later other inside
      omega

theorem field_row_parent (entityId : Int) (place : Field × Nat) (row : Row Int FieldRecord)
    (stored : FieldRow entityId place row) : row.parent = some entityId := by
  obtain ⟨given, -, same⟩ := stored
  rw [same]

theorem field_rows_parent (entityId : Int) (places : List (Field × Nat)) (rows : List (Row Int FieldRecord))
    (stored : List.Forall₂ (FieldRow entityId) places rows) : ∀ row ∈ rows, row.parent = some entityId := by
  induction stored with
  | nil => simp
  | cons here later ih =>
      intro row member
      rcases List.mem_cons.mp member with rfl | member
      · exact field_row_parent entityId _ row here
      · exact ih row member

theorem written_fields (dataModelId last : Int) (places : List (Entity × Nat)) (rows : List (Row Int EntityRecord))
    (fields : List (Row Int FieldRecord)) (written : Written dataModelId last places rows fields) :
    ∀ field ∈ fields, ∃ row ∈ rows, field.parent = some row.id := by
  induction written with
  | nil => simp
  | cons last place places row rows fields others next stored declared later ih =>
      intro field member
      rcases List.mem_append.mp member with here | member
      · exact ⟨row, List.mem_cons_self, field_rows_parent row.id _ fields declared field here⟩
      · obtain ⟨owner, inside, same⟩ := ih field member
        exact ⟨owner, List.mem_cons_of_mem _ inside, same⟩

theorem rewritten_keyed (id : Int) (entities : List Entity) (before after : Tables)
    (rewritten : Rewritten id entities before after) (keyed : Keyed before) : Keyed after := by
  obtain ⟨rows, fields, relations, written, -, tables⟩ := rewritten
  have bounds := written_ids id before.entities.lastId _ rows fields written
  constructor
  · rw [tables.entities, List.map_append, List.nodup_append]
    refine ⟨?_, written_distinct id _ _ rows fields written, ?_⟩
    · exact keyed.distinct.sublist (List.filter_sublist.map Row.id)
    · rintro key old other fresh rfl
      obtain ⟨row, member, rfl⟩ := List.mem_map.mp old
      obtain ⟨new, inside, same⟩ := List.mem_map.mp fresh
      have given := keyed.given row (List.mem_filter.mp member).1
      have bound := bounds new inside
      omega
  · rw [tables.entities, tables.last]
    intro row member
    rcases List.mem_append.mp member with old | fresh
    · have given := keyed.given row (List.mem_filter.mp old).1
      omega
    · exact (bounds row fresh).2
  · rw [tables.fields, tables.last]
    intro field member parent owned
    rcases List.mem_append.mp member with old | fresh
    · have given := keyed.parented field (List.mem_filter.mp old).1 parent owned
      omega
    · obtain ⟨row, inside, same⟩ := written_fields id _ _ rows fields written field fresh
      obtain rfl := Option.some.inj (owned.symm.trans same)
      exact (bounds row inside).2

theorem rewritten_entities (id other : Int) (entities : List Entity) (before after : Tables)
    (rewritten : Rewritten id entities before after) (apart : other ≠ id) :
    after.entities.belonging other = before.entities.belonging other := by
  obtain ⟨rows, fields, relations, written, -, tables⟩ := rewritten
  rw [Table.belonging, tables.entities, cleared_entities]
  refine filter_elsewhere _ _ _ _ (fun row _ mine => ?_) fun row member => ?_
  · have same : row.parent = some other := by simpa using mine
    simp [same, apart]
  · simp [written_parents id _ _ rows fields written row member, apart.symm]

theorem rewritten_ids (id other : Int) (entities : List Entity) (before after : Tables)
    (rewritten : Rewritten id entities before after) (apart : other ≠ id) :
    after.entityIds other = before.entityIds other := by
  rw [Tables.entityIds, rewritten_entities id other entities before after rewritten apart, Tables.entityIds]

theorem rewritten_owned (id other : Int) (entities : List Entity) (before after : Tables)
    (rewritten : Rewritten id entities before after) (keyed : Keyed before) (apart : other ≠ id)
    (wanted : Row Int FieldRecord → Bool)
    (owned : ∀ row, wanted row = true → ∃ owner ∈ before.entityIds other, row.parent = some owner) :
    after.fields.rows.filter wanted = before.fields.rows.filter wanted := by
  obtain ⟨rows, fields, relations, written, -, tables⟩ := rewritten
  rw [tables.fields, cleared_fields]
  refine filter_elsewhere _ _ _ _ (fun row _ mine => ?_) fun row member => ?_
  · obtain ⟨owner, inOther, same⟩ := owned row mine
    rw [Bool.not_eq_true', Bool.eq_false_iff]
    intro doomed
    obtain ⟨again, inId, parent⟩ := (is_field_of _ row).mp doomed
    obtain rfl := Option.some.inj (same.symm.trans parent)
    exact apart (entity_ids_apart before other id owner keyed inOther inId)
  · rw [Bool.eq_false_iff]
    intro mine
    obtain ⟨owner, inOther, same⟩ := owned row mine
    obtain ⟨entity, inside, parent⟩ := written_fields id _ _ rows fields written row member
    obtain rfl := Option.some.inj (same.symm.trans parent)
    obtain ⟨old, present, -, key⟩ := (mem_entity_ids before other entity.id).mp inOther
    have given := keyed.given old present
    have fresh := written_ids id _ _ rows fields written entity inside
    omega

theorem rewritten_fields (id other : Int) (entities : List Entity) (before after : Tables)
    (rewritten : Rewritten id entities before after) (keyed : Keyed before) (apart : other ≠ id) :
    after.fieldRows other = before.fieldRows other := by
  rw [Tables.fieldRows, rewritten_ids id other entities before after rewritten apart]
  exact rewritten_owned id other entities before after rewritten keyed apart _ fun row mine => (is_field_of _ row).mp mine

theorem rewritten_relations (id other : Int) (entities : List Entity) (before after : Tables)
    (rewritten : Rewritten id entities before after) (apart : other ≠ id) :
    after.relations.belonging other = before.relations.belonging other := by
  obtain ⟨rows, fields, relations, -, parents, tables⟩ := rewritten
  rw [Table.belonging, tables.relations, cleared_relations]
  refine filter_elsewhere _ _ _ _ (fun row _ mine => ?_) fun row member => ?_
  · have same : row.parent = some other := by simpa using mine
    simp [same, apart]
  · simp [parents row member, apart.symm]

-- The same row of a data model, but for the time of the last change of the one with an id.
def SameModel (id : Int) (a b : Row String DataModel) : Prop :=
  a = b ∨ b.id = id ∧ ∃ time, a = { b with record := b.record.map fun model => { model with updatedAt := time } }

theorem stamped_models (id : Int) (tables : Tables) :
    List.Forall₂ (SameModel id) (tables.touchModel id).models.rows tables.models.rows := by
  rw [Tables.touchModel, List.forall₂_map_left_iff, List.forall₂_same]
  intro row _
  by_cases mine : row.id = id
  · rw [if_pos mine]
    exact .inr ⟨mine, .clock, rfl⟩
  · rw [if_neg mine]
    exact .inl rfl

-- All is the same but for what belongs to one data model, and the time of its last change.
structure Elsewhere (id : Int) (after before : Tables) : Prop where
  entities : ∀ other, other ≠ id → after.entities.belonging other = before.entities.belonging other
  fields : ∀ other, other ≠ id → after.fieldRows other = before.fieldRows other
  relations : ∀ other, other ≠ id → after.relations.belonging other = before.relations.belonging other
  messages : after.messages.rows = before.messages.rows
  models : List.Forall₂ (SameModel id) after.models.rows before.models.rows

theorem elsewhere_rows (id : Int) (after before : Tables) (rows : SameRows after before) : Elsewhere id after before := by
  have entities : ∀ other, after.entities.belonging other = before.entities.belonging other := fun other => by
    rw [Table.belonging, rows.entities, Table.belonging]
  refine ⟨fun other _ => entities other, fun other _ => ?_, fun other _ => ?_, rows.messages, ?_⟩
  · rw [Tables.fieldRows, Tables.entityIds, entities other, rows.fields, Tables.fieldRows, Tables.entityIds]
  · rw [Table.belonging, rows.relations, Table.belonging]
  · rw [rows.models, List.forall₂_same]
    exact fun row _ => .inl rfl

end Schematic
