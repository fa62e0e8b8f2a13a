import Schematic.Proofs.Service.Ownership
import Schematic.Proofs.Store.Agreement
import Schematic.Proofs.Store.Soundness

set_option autoImplicit false

namespace Schematic

-- No data model of somebody else has this id.
def Open (tables : Tables) (principal : String) (id : Int) : Prop := tables.model? id = none ∨ Owns tables principal id

-- The fields of the entities of a data model, and those of all entities whose ids were given since some id.
def Tables.fieldsSince (tables : Tables) (floor id : Int) : List (Row Int FieldRecord) :=
  tables.fields.rows.filter fun row => Tables.isFieldOf (tables.entityIds id) row || row.parent.any (decide <| floor < ·)

-- Two tables that have given the same ids, and whose rows of some parents are the same.
structure SameFor {α : Type} (wanted : Int → Prop) (a b : Table Int α) : Prop where
  lastId : b.lastId = a.lastId
  rows : ∀ id, wanted id → b.belonging id = a.belonging id

-- Two stores that a principal cannot tell apart: they differ in what is stored for data models of others, and nowhere else.
-- Messages will be made at the same times in both. The principal is known to own some data models. All data models can be read,
-- and messages are about data models.
structure Alike (principal : String) (floor : Int) (held : Int → Prop) (a b : Tables) : Prop where
  models : b.models = a.models
  entities : SameFor (Open a principal) a.entities b.entities
  lastField : b.fields.lastId = a.fields.lastId
  fields : ∀ id, Open a principal id → b.fieldsSince floor id = a.fieldsSince floor id
  relations : SameFor (Open a principal) a.relations b.relations
  messages : SameFor (Open a principal) a.messages b.messages
  clock : b.messages.clock = a.messages.clock
  given : floor ≤ a.entities.lastId
  owned : ∀ id, held id → Owns a principal id
  whole : ∀ row ∈ a.models.rows, row.Whole
  rooted : ∀ row ∈ a.messages.rows, ∃ id, row.parent = some id ∧ HasModel a id

def Unheld (_ : Int) : Prop := False

section Lists

variable {α : Type}

theorem filter_alike (rows others : List α) (wide narrow : α → Bool) (within : ∀ row, narrow row = true → wide row = true)
    (same : others.filter wide = rows.filter wide) : others.filter narrow = rows.filter narrow := by
  have part : ∀ list : List α, list.filter narrow = (list.filter wide).filter narrow := by
    intro list
    rw [List.filter_filter]
    refine List.filter_congr fun row _ => ?_
    cases chosen : narrow row with
    | true => simp [within row chosen]
    | false => rfl
  rw [part others, same, ← part]

theorem filter_kept (rows others : List α) (wanted kept : α → Bool) (same : others.filter wanted = rows.filter wanted) :
    (others.filter kept).filter wanted = (rows.filter kept).filter wanted := by
  rw [List.filter_comm, same, List.filter_comm]

theorem same_narrowed (wanted fewer : Int → Prop) (a b : Table Int α) (all : ∀ id, fewer id → wanted id)
    (same : SameFor wanted a b) : SameFor fewer a b :=
  ⟨same.lastId, fun id wants => same.rows id (all id wants)⟩

theorem same_added (wanted : Int → Prop) (a b : Table Int α) (row : Int → Row Int α) (same : SameFor wanted a b) :
    SameFor wanted (a.add row) (b.add row) := by
  refine ⟨by simp only [Table.add, same.lastId], fun id wants => ?_⟩
  have old := same.rows id wants
  simp only [Table.belonging] at old
  simp only [Table.belonging, Table.add, List.filter_append, old, same.lastId]

theorem same_removed (wanted : Int → Prop) (a b : Table Int α) (doomed : Row Int α → Bool) (same : SameFor wanted a b) :
    SameFor wanted (a.removeIf doomed).2 (b.removeIf doomed).2 :=
  ⟨same.lastId, fun id wants => filter_kept _ _ _ _ (same.rows id wants)⟩

theorem same_restored (wanted later : Int → Prop) (a b c d : Table Int α) (same : SameFor wanted a b) (now : SameFor later c d) :
    SameFor wanted (c.rollback a) (d.rollback b) := ⟨now.lastId, same.rows⟩

end Lists

theorem open_touched (tables : Tables) (principal : String) (stamped id : Int) :
    Open (tables.touchModel stamped) principal id ↔ Open tables principal id := by
  rw [Open, owns_touched, touched_model, Option.map_eq_none_iff]
  exact Iff.rfl

theorem inserted_model (model : DataModel) (tables : Tables) (id : Int) (row : Row String DataModel)
    (found : tables.model? id = some row) : (tables.insertModel model).2.model? id = some row := by
  simp only [Tables.model?] at found
  simp only [Tables.model?, Tables.insertModel, Table.add, List.find?_append, found, Option.some_or]

theorem owns_inserted (model : DataModel) (tables : Tables) (principal : String) (id : Int) (owns : Owns tables principal id) :
    Owns (tables.insertModel model).2 principal id := by
  obtain ⟨row, record, found, rest⟩ := owns
  exact ⟨row, record, inserted_model model tables id row found, rest⟩

theorem open_inserted (model : DataModel) (tables : Tables) (principal : String) (id : Int)
    (free : Open (tables.insertModel model).2 principal id) : Open tables principal id := by
  cases found : tables.model? id with
  | none => exact .inl found
  | some row =>
      have still := inserted_model model tables id row found
      rcases free with none | ⟨other, record, there, rest⟩
      · cases none.symm.trans still
      · obtain rfl := Option.some.inj (there.symm.trans still)
        exact .inr ⟨other, record, found, rest⟩

section Alike

variable (principal : String) (floor : Int) (held : Int → Prop) (a b : Tables) (alike : Alike principal floor held a b)

include alike

theorem alike_ids (id : Int) (free : Open a principal id) : b.entityIds id = a.entityIds id := by
  rw [Tables.entityIds, alike.entities.rows id free, Tables.entityIds]

theorem alike_held (fewer : Int → Prop) (owned : ∀ id, fewer id → Owns a principal id) : Alike principal floor fewer a b :=
  { alike with owned }

-- Fields stay alike where entities come or go whose ids are new, or which were there.
theorem alike_fields (c d : Tables) (id : Int) (free : Open a principal id) (first : c.fields = a.fields)
    (second : d.fields = b.fields) (ids : d.entityIds id = c.entityIds id)
    (known : ∀ key ∈ c.entityIds id, key ∈ a.entityIds id ∨ floor < key) :
    d.fieldsSince floor id = c.fieldsSince floor id := by
  have old := alike.fields id free
  rw [Tables.fieldsSince, Tables.fieldsSince, alike_ids principal floor held a b alike id free] at old
  rw [Tables.fieldsSince, Tables.fieldsSince, first, second, ids]
  refine filter_alike _ _ _ _ (fun row chosen => ?_) old
  rw [Bool.or_eq_true, is_field_of] at chosen ⊢
  rcases chosen with ⟨key, inside, parent⟩ | later
  · cases known key inside with
    | inl among => exact .inl ⟨key, among, parent⟩
    | inr since => exact .inr (by simpa [parent] using since)
  · exact .inr later

theorem alike_restored (c d : Tables) (now : Alike principal floor held c d) :
    Alike principal floor held (c.rollback a) (d.rollback b) where
  models := congrArg₂ Table.rollback now.models alike.models
  entities := same_restored _ _ _ _ _ _ alike.entities now.entities
  lastField := now.lastField
  fields := alike.fields
  relations := same_restored _ _ _ _ _ _ alike.relations now.relations
  messages := same_restored _ _ _ _ _ _ alike.messages now.messages
  clock := now.clock
  given := now.given
  owned := alike.owned
  whole := alike.whole
  rooted := alike.rooted

theorem alike_model_inserted (model : DataModel) :
    (b.insertModel model).1 = (a.insertModel model).1 ∧
      Alike principal floor held (a.insertModel model).2 (b.insertModel model).2 := by
  have free := open_inserted model a principal
  refine ⟨by simp only [Tables.insertModel, alike.models], ?_⟩
  constructor
  · simp only [Tables.insertModel, alike.models]
  · exact same_narrowed _ _ _ _ free alike.entities
  · exact alike.lastField
  · exact fun id found => alike.fields id (free id found)
  · exact same_narrowed _ _ _ _ free alike.relations
  · exact same_narrowed _ _ _ _ free alike.messages
  · exact alike.clock
  · exact alike.given
  · exact fun id holds => owns_inserted model a principal id (alike.owned id holds)
  · intro row member
    cases List.mem_append.mp member with
    | inl old => exact alike.whole row old
    | inr new =>
        obtain rfl := List.mem_singleton.mp new
        exact ⟨_, rfl⟩
  · intro row member
    obtain ⟨id, parent, there, inside, same⟩ := alike.rooted row member
    exact ⟨id, parent, there, List.mem_append_left _ inside, same⟩

theorem alike_model_touched (id : Int) : Alike principal floor held (a.touchModel id) (b.touchModel id) := by
  have free := fun other => (open_touched a principal id other).mp
  constructor
  · simp only [Tables.touchModel, alike.models]
  · exact same_narrowed _ _ _ _ free alike.entities
  · exact alike.lastField
  · exact fun other found => alike.fields other (free other found)
  · exact same_narrowed _ _ _ _ free alike.relations
  · exact same_narrowed _ _ _ _ free alike.messages
  · exact alike.clock
  · exact alike.given
  · exact fun other holds => (owns_touched a principal id other).mpr (alike.owned other holds)
  · intro row member
    obtain ⟨old, inside, rfl⟩ := List.mem_map.mp member
    obtain ⟨record, told⟩ := alike.whole old inside
    split
    · exact ⟨_, congrArg (Except.map _) told⟩
    · exact ⟨record, told⟩
  · intro row member
    obtain ⟨other, parent, there, inside, same⟩ := alike.rooted row member
    refine ⟨other, parent, _, List.mem_map_of_mem inside, ?_⟩
    split <;> exact same

theorem alike_entity_inserted (record : EntityRecord) :
    (b.insertEntity record).1 = (a.insertEntity record).1 ∧
      Alike principal floor held (a.insertEntity record).2 (b.insertEntity record).2 := by
  refine ⟨by simp only [Tables.insertEntity, alike.entities.lastId], ?_⟩
  have added := same_added _ _ _
    (fun id => ⟨id, some record.dataModelId, record.position, .ok { record with id := some id }⟩) alike.entities
  refine { alike with entities := added, fields := fun id free => ?_, given := ?_ }
  · refine alike_fields principal floor held a b alike _ _ id free rfl rfl ?_ ?_
    · exact congrArg (List.map Row.id) (added.rows id free)
    · intro key member
      obtain ⟨row, inside, rfl⟩ := List.mem_map.mp member
      obtain ⟨among, parent⟩ := List.mem_filter.mp inside
      cases List.mem_append.mp among with
      | inl old => exact .inl (List.mem_map_of_mem (List.mem_filter.mpr ⟨old, parent⟩))
      | inr new =>
          obtain rfl := List.mem_singleton.mp new
          exact .inr (Int.lt_add_one_of_le alike.given)
  · exact Int.le_trans alike.given (Int.le_of_lt (Int.lt_succ _))

theorem alike_field_inserted (record : FieldRecord) :
    (b.insertField record).1 = (a.insertField record).1 ∧
      Alike principal floor held (a.insertField record).2 (b.insertField record).2 := by
  refine ⟨by simp only [Tables.insertField, alike.lastField], ?_⟩
  refine { alike with lastField := ?_, fields := fun id free => ?_ }
  · simp only [Tables.insertField, Table.add, alike.lastField]
  · have old := alike.fields id free
    have ids := alike_ids principal floor held a b alike id free
    rw [Tables.fieldsSince, Tables.fieldsSince, ids] at old
    show List.filter (fun row => Tables.isFieldOf (b.entityIds id) row || row.parent.any (decide <| floor < ·)) _ =
      List.filter (fun row => Tables.isFieldOf (a.entityIds id) row || row.parent.any (decide <| floor < ·)) _
    rw [ids]
    simp only [Tables.insertField, Table.add, List.filter_append, old, alike.lastField]

theorem alike_relation_inserted (record : RelationRecord) :
    (b.insertRelation record).1 = (a.insertRelation record).1 ∧
      Alike principal floor held (a.insertRelation record).2 (b.insertRelation record).2 := by
  have added := same_added _ _ _
    (fun id => ⟨id, some record.dataModelId, 0, .ok { record with id := some id }⟩) alike.relations
  exact ⟨by simp only [Tables.insertRelation, alike.relations.lastId], { alike with relations := added }⟩

-- What belongs to a data model that is held can be read and deleted, and messages about it can be added.
section Held

variable (id : Int) (holds : held id)

include holds

theorem held_open : Open a principal id := .inr (alike.owned id holds)

theorem held_model : HasModel a id := by
  obtain ⟨row, _, found, -⟩ := alike.owned id holds
  exact ⟨row, List.mem_of_find?_eq_some found, by simpa using List.find?_some found⟩

theorem alike_message_inserted (message : ChatMessage) (about : message.dataModelId = id) :
    (b.insertMessage message).1 = (a.insertMessage message).1 ∧
      Alike principal floor held (a.insertMessage message).2 (b.insertMessage message).2 := by
  have added : SameFor (Open a principal) (a.insertMessage message).2.messages (b.insertMessage message).2.messages := by
    simp only [Tables.insertMessage, alike.clock]
    exact same_added _ _ _ _ alike.messages
  refine ⟨by simp only [Tables.insertMessage, alike.messages.lastId], { alike with messages := added, rooted := ?_ }⟩
  intro row member
  cases List.mem_append.mp member with
  | inl old => exact alike.rooted row old
  | inr new =>
      obtain rfl := List.mem_singleton.mp new
      exact ⟨id, congrArg some about, held_model principal floor held a b alike id holds⟩

theorem alike_field_rows : b.fieldRows id = a.fieldRows id := by
  have free := held_open principal floor held a b alike id holds
  have old := alike.fields id free
  rw [Tables.fieldsSince, Tables.fieldsSince, alike_ids principal floor held a b alike id free] at old
  rw [Tables.fieldRows, Tables.fieldRows, alike_ids principal floor held a b alike id free]
  exact filter_alike _ _ _ _ (fun row chosen => Bool.or_eq_true_iff.mpr (.inl chosen)) old

theorem alike_relations_deleted :
    (b.deleteRelations id).1 = (a.deleteRelations id).1 ∧
      Alike principal floor held (a.deleteRelations id).2 (b.deleteRelations id).2 := by
  refine ⟨?_, { alike with relations := same_removed _ _ _ _ alike.relations }⟩
  exact congrArg List.length (alike.relations.rows id (held_open principal floor held a b alike id holds))

theorem alike_fields_deleted :
    (b.deleteFields id).1 = (a.deleteFields id).1 ∧
      Alike principal floor held (a.deleteFields id).2 (b.deleteFields id).2 := by
  have ids := alike_ids principal floor held a b alike id (held_open principal floor held a b alike id holds)
  refine ⟨congrArg List.length (alike_field_rows principal floor held a b alike id holds), { alike with fields := ?_ }⟩
  intro other free
  have old := alike.fields other free
  rw [Tables.fieldsSince, Tables.fieldsSince, alike_ids principal floor held a b alike other free] at old
  show List.filter (fun row => Tables.isFieldOf (b.entityIds other) row || row.parent.any (decide <| floor < ·))
      (b.fields.rows.filter fun row => !Tables.isFieldOf (b.entityIds id) row) =
    List.filter (fun row => Tables.isFieldOf (a.entityIds other) row || row.parent.any (decide <| floor < ·))
      (a.fields.rows.filter fun row => !Tables.isFieldOf (a.entityIds id) row)
  rw [ids, alike_ids principal floor held a b alike other free]
  exact filter_kept _ _ _ _ old

theorem alike_entities_deleted :
    (b.deleteEntities id).1 = (a.deleteEntities id).1 ∧
      Alike principal floor held (a.deleteEntities id).2 (b.deleteEntities id).2 := by
  have removed := same_removed _ _ _ (fun row => decide (row.parent = some id)) alike.entities
  refine ⟨congrArg List.length (alike.entities.rows id (held_open principal floor held a b alike id holds)),
    { alike with entities := removed, fields := fun other free => ?_ }⟩
  refine alike_fields principal floor held a b alike _ _ other free rfl rfl ?_ ?_
  · exact congrArg (List.map Row.id) (removed.rows other free)
  · intro key member
    obtain ⟨row, inside, rfl⟩ := List.mem_map.mp member
    obtain ⟨among, parent⟩ := List.mem_filter.mp inside
    exact .inl (List.mem_map_of_mem (List.mem_filter.mpr ⟨(List.mem_filter.mp among).1, parent⟩))

theorem alike_entities_of : b.entitiesOf id = a.entitiesOf id :=
  congrArg Row.byPlace (alike.entities.rows id (held_open principal floor held a b alike id holds))

theorem alike_fields_of : b.fieldsOf id = a.fieldsOf id :=
  congrArg (List.mergeSort · _) (alike_field_rows principal floor held a b alike id holds)

theorem alike_relations_of : b.relationsOf id = a.relationsOf id :=
  congrArg Row.byId (alike.relations.rows id (held_open principal floor held a b alike id holds))

theorem alike_messages_of : b.messagesOf id = a.messagesOf id :=
  congrArg Row.byPlace (alike.messages.rows id (held_open principal floor held a b alike id holds))

end Held

end Alike

end Schematic
