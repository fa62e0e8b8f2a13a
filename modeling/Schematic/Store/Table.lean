import Schematic.Record.ChatMessage
import Schematic.Record.DataModel
import Schematic.Record.Projection
import Schematic.Store.Failure

/- These are the rows of the store as its statements find and leave them, not a database server. Premises are that a
   server gives ids from sequences that no transaction takes back, sorts rows as a statement says, and keeps what it is
   sent. A server that refuses what it is sent, as PostgreSQL refuses a text with a NUL or a number that is too large
   for its column, is one whose statement breaks down (Store/Action). Foreign keys and unique indexes are not checked
   here: that no statement breaks them is proved. -/
set_option autoImplicit false

namespace Schematic

inductive RowFault where
  | missing (column : String)
  | refused (complaints : List Complaint)
deriving Repr, DecidableEq

/-- A row: its id, what it belongs to, its place there, and the record that its columns make. Rows that are told in
the order in which they were made have the time for a place, in microseconds since 1970. -/
structure Row (κ α : Type) where
  id : Int
  parent : Option κ
  position : Int := 0
  record : Except RowFault α

def openingDay : DateTime := { year := 2026, month := 10, day := 14 }

/-- Rows with the id that was given last. Ids are never given twice, even if a row is taken back. What the clock
shows when the row of an id is made is arbitrary; it may also go back. -/
@[ext]
structure Table (κ α : Type) where
  rows : List (Row κ α) := []
  lastId : Int := 0
  clock : Int → Int := fun id => openingDay.instant + id

namespace Table

variable {κ α : Type}

def add (table : Table κ α) (row : Int → Row κ α) : Table κ α :=
  { table with rows := table.rows ++ [row (table.lastId + 1)], lastId := table.lastId + 1 }

def rollback (table before : Table κ α) : Table κ α := { table with rows := before.rows }

def removeIf (table : Table κ α) (doomed : Row κ α → Bool) : Nat × Table κ α :=
  ((table.rows.filter doomed).length, { table with rows := table.rows.filter fun row => !doomed row })

def belonging [DecidableEq κ] (table : Table κ α) (parent : κ) : List (Row κ α) :=
  table.rows.filter fun row => row.parent = some parent

end Table

namespace Row

variable {κ α : Type}

def byId (rows : List (Row κ α)) : List (Row κ α) := rows.mergeSort fun a b => a.id ≤ b.id

def byPlace (rows : List (Row κ α)) : List (Row κ α) :=
  rows.mergeSort fun a b => inOrder a.position (some a.id) b.position (some b.id)

end Row

structure Tables where
  models : Table String DataModel := {}
  entities : Table Int EntityRecord := {}
  fields : Table Int FieldRecord := {}
  relations : Table Int RelationRecord := {}
  messages : Table Int ChatMessage := {}

namespace Tables

def rollback (tables before : Tables) : Tables where
  models := tables.models.rollback before.models
  entities := tables.entities.rollback before.entities
  fields := tables.fields.rollback before.fields
  relations := tables.relations.rollback before.relations
  messages := tables.messages.rollback before.messages

def count (tables : Tables) : TableName → Nat
  | .dataModels => tables.models.rows.length
  | .entities => tables.entities.rows.length
  | .fields => tables.fields.rows.length
  | .relations => tables.relations.rows.length
  | .messages => tables.messages.rows.length

/-! Data models -/

def insertModel (model : DataModel) (tables : Tables) : DataModel × Tables :=
  let fresh (id : Int) : DataModel := { model with id := some id }
  (fresh (tables.models.lastId + 1),
    { tables with
      models := tables.models.add fun id =>
        { id, parent := some model.ownerId, position := model.createdAt.instant (tables.models.clock id)
          record := .ok (fresh id) } })

def model? (tables : Tables) (id : Int) : Option (Row String DataModel) := tables.models.rows.find? (·.id = id)

def modelsOf (tables : Tables) (owner : String) : List (Row String DataModel) :=
  (Row.byPlace (tables.models.belonging owner)).reverse

def touchModel (id : Int) (tables : Tables) : Tables :=
  let touch (row : Row String DataModel) : Row String DataModel :=
    if row.id = id then { row with record := row.record.map fun model => { model with updatedAt := .clock } } else row
  { tables with models := { tables.models with rows := tables.models.rows.map touch } }

/-! Projections -/

def deleteRelations (dataModelId : Int) (tables : Tables) : Nat × Tables :=
  let (count, relations) := tables.relations.removeIf fun row => row.parent = some dataModelId
  (count, { tables with relations })

def entityIds (tables : Tables) (dataModelId : Int) : List Int := (tables.entities.belonging dataModelId).map (·.id)

def isFieldOf (entityIds : List Int) (row : Row Int FieldRecord) : Bool := row.parent.any (entityIds.contains ·)

def deleteFields (dataModelId : Int) (tables : Tables) : Nat × Tables :=
  let (count, fields) := tables.fields.removeIf (isFieldOf (tables.entityIds dataModelId))
  (count, { tables with fields })

def deleteEntities (dataModelId : Int) (tables : Tables) : Nat × Tables :=
  let (count, entities) := tables.entities.removeIf fun row => row.parent = some dataModelId
  (count, { tables with entities })

def insertEntity (entity : EntityRecord) (tables : Tables) : EntityRecord × Tables :=
  let fresh (id : Int) : EntityRecord := { entity with id := some id }
  (fresh (tables.entities.lastId + 1),
    { tables with
      entities := tables.entities.add fun id =>
        { id, parent := some entity.dataModelId, position := entity.position, record := .ok (fresh id) } })

def insertField (field : FieldRecord) (tables : Tables) : FieldRecord × Tables :=
  let fresh (id : Int) : FieldRecord := { field with id := some id }
  (fresh (tables.fields.lastId + 1),
    { tables with
      fields := tables.fields.add fun id =>
        { id, parent := some field.entityId, position := field.position, record := .ok (fresh id) } })

def insertRelation (relation : RelationRecord) (tables : Tables) : RelationRecord × Tables :=
  let fresh (id : Int) : RelationRecord := { relation with id := some id }
  (fresh (tables.relations.lastId + 1),
    { tables with
      relations := tables.relations.add fun id =>
        { id, parent := some relation.dataModelId, record := .ok (fresh id) } })

def entitiesOf (tables : Tables) (dataModelId : Int) : List (Row Int EntityRecord) :=
  Row.byPlace (tables.entities.belonging dataModelId)

/-- Fields of the entities of a data model, by entity, then by place. -/
def fieldsOf (tables : Tables) (dataModelId : Int) : List (Row Int FieldRecord) :=
  (tables.fields.rows.filter (isFieldOf (tables.entityIds dataModelId))).mergeSort fun a b =>
    (a.parent.getD 0 < b.parent.getD 0) ||
      (a.parent = b.parent && inOrder a.position (some a.id) b.position (some b.id))

def relationsOf (tables : Tables) (dataModelId : Int) : List (Row Int RelationRecord) :=
  Row.byId (tables.relations.belonging dataModelId)

/-! Messages -/

def insertMessage (message : ChatMessage) (tables : Tables) : ChatMessage × Tables :=
  let fresh (id : Int) : ChatMessage := { message with id := some id }
  (fresh (tables.messages.lastId + 1),
    { tables with
      messages := tables.messages.add fun id =>
        { id, parent := some message.dataModelId, position := message.createdAt.instant (tables.messages.clock id)
          record := .ok (fresh id) } })

def messagesOf (tables : Tables) (dataModelId : Int) : List (Row Int ChatMessage) :=
  Row.byPlace (tables.messages.belonging dataModelId)

end Tables

end Schematic
