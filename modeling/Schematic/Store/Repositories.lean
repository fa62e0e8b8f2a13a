import Schematic.Store.Report

set_option autoImplicit false

namespace Schematic.DataModels

open Schematic.Action

def logger : String := "DataModelRepository"

def naming {α : Type} (operation subject : String) (work : Action α) : Action α :=
  Action.naming logger operation (some subject) work

def create (model : DataModel) : Action DataModel := do
  let stored ← naming "data model create" model.name
    (connected (run (.insertModel model) (Tables.insertModel model)))
  let id := (stored.id.map toString).getD "None"
  note (report logger true "Created data model" id (.obj [("name", .str stored.name)]))
  return stored

def refuse (glyphs : List Glyph) (model : DataModel) : Action DataModel :=
  naming "data model create" model.name (connected (throw (.unencodable glyphs)))

def get (id : Int) : Action (Option DataModel) := do
  let row ← naming "data model get" (toString id) (connected (look (.findModel id) (·.model? id)))
  row.mapM (recordOf .dataModels)

def list (owner : String) (limit : Int) : Action (List DataModel) := do
  let rows ← naming "data model list" owner
    (connected (lookUpTo limit (.listModels owner limit) (·.modelsOf owner)))
  rows.mapM (recordOf .dataModels)

def lock (id : Int) : Action (Option DataModel) := do
  let row ← naming "data model lock" (toString id) (look (.lockModel id) (·.model? id))
  row.mapM (recordOf .dataModels)

def touch (id : Int) : Action Unit :=
  naming "data model touch" (toString id) (send (.touchModel id) (Tables.touchModel id))

end Schematic.DataModels

namespace Schematic.Projections

open Schematic.Action

def logger : String := "SchemaRepository"

def naming {α : Type} (operation subject : String) (work : Action α) : Action α :=
  Action.naming logger operation (some subject) work

structure Deleted where
  relations : Nat
  fields : Nat
  entities : Nat
deriving Repr, DecidableEq

def delete (dataModelId : Int) : Action Deleted :=
  naming "projection delete" (toString dataModelId) do
    let relations ← run (.deleteRelations dataModelId) (Tables.deleteRelations dataModelId)
    let fields ← run (.deleteFields dataModelId) (Tables.deleteFields dataModelId)
    let entities ← run (.deleteEntities dataModelId) (Tables.deleteEntities dataModelId)
    return { relations, fields, entities }

def insertEntity (entity : EntityRecord) : Action EntityRecord :=
  naming "entity insert" entity.name (run (.insertEntity entity) (Tables.insertEntity entity))

def insertField (field : FieldRecord) : Action FieldRecord :=
  naming "field insert" field.name (run (.insertField field) (Tables.insertField field))

def insertRelation (relation : RelationRecord) : Action RelationRecord :=
  naming "relation insert" relation.name (run (.insertRelation relation) (Tables.insertRelation relation))

/-- Reads all that is stored of a schema, on the connection at hand. -/
def read (dataModelId : Int) : Action Projection := do
  let (entities, fields, relations) ← naming "projection load" (toString dataModelId) do
    let entities ← look (.selectEntities dataModelId) (·.entitiesOf dataModelId)
    let fields ← look (.selectFields dataModelId) (·.fieldsOf dataModelId)
    let relations ← look (.selectRelations dataModelId) (·.relationsOf dataModelId)
    return (entities, fields, relations)
  return {
    dataModelId
    entities := ← entities.mapM (recordOf .entities)
    fields := ← fields.mapM (recordOf .fields)
    relations := ← relations.mapM (recordOf .relations) }

def load (dataModelId : Int) : Action Projection :=
  connected <| transaction do
    send .readSnapshot id
    read dataModelId

end Schematic.Projections

namespace Schematic.Messages

open Schematic.Action

def logger : String := "ChatRepository"

def naming {α : Type} (operation subject : String) (work : Action α) : Action α :=
  Action.naming logger operation (some subject) work

def add (message : ChatMessage) : Action ChatMessage :=
  naming "chat message insert" (toString message.dataModelId)
    (connected (run (.insertMessage message) (Tables.insertMessage message)))

def list (dataModelId limit : Int) : Action (List ChatMessage) := do
  let rows ← naming "chat history" (toString dataModelId)
    (connected (lookUpTo limit (.selectMessages dataModelId limit) (·.messagesOf dataModelId)))
  rows.mapM (recordOf .messages)

end Schematic.Messages
