import Schematic.Ddl.Statement
import Schematic.Store.Table

set_option autoImplicit false

namespace Schematic

inductive Command where
  | limitTime (milliseconds : Int)
  | readSnapshot
  | insertModel (model : DataModel)
  | findModel (id : Int)
  | lockModel (id : Int)
  | listModels (owner : String) (limit : Int)
  | touchModel (id : Int)
  | deleteRelations (dataModelId : Int)
  | deleteFields (dataModelId : Int)
  | deleteEntities (dataModelId : Int)
  | insertEntity (entity : EntityRecord)
  | insertField (field : FieldRecord)
  | insertRelation (relation : RelationRecord)
  | selectEntities (dataModelId : Int)
  | selectFields (dataModelId : Int)
  | selectRelations (dataModelId : Int)
  | insertMessage (message : ChatMessage)
  | selectMessages (dataModelId : Int) (limit : Int)
deriving Repr, DecidableEq

inductive Parameter where
  | plain (value : Json)
  | document (value : Json)
  | time (moment : Moment)

inductive Parameters where
  | none
  | placed (values : List Parameter)
  | named (values : List (String × Parameter))

namespace Command

def target : Command → String × Option TableName
  | limitTime _ | readSnapshot => ("SET", none)
  | insertModel _ => ("INSERT", some .dataModels)
  | findModel _ | lockModel _ | listModels _ _ => ("SELECT", some .dataModels)
  | touchModel _ => ("UPDATE", some .dataModels)
  | deleteRelations _ => ("DELETE", some .relations)
  | deleteFields _ => ("DELETE", some .fields)
  | deleteEntities _ => ("DELETE", some .entities)
  | insertEntity _ => ("INSERT", some .entities)
  | insertField _ => ("INSERT", some .fields)
  | insertRelation _ => ("INSERT", some .relations)
  | selectEntities _ => ("SELECT", some .entities)
  | selectFields _ => ("SELECT", some .fields)
  | selectRelations _ => ("SELECT", some .relations)
  | insertMessage _ => ("INSERT", some .messages)
  | selectMessages _ _ => ("SELECT", some .messages)

def label (command : Command) : String :=
  match command.target with
  | (verb, some table) => verb ++ " " ++ table.text
  | (verb, none) => verb

/-- Parameters of an insertion in the order of its columns. Ids are given by the store. -/
def columns (record : Json) (times : List (String × Moment)) (documents : List String) : List (String × Parameter) :=
  (record.members.filter (·.1 ≠ "id")).map (fun (name, value) =>
    (name, if documents.contains name then .document value else .plain value)) ++
  times.map fun (name, moment) => (name, .time moment)

def parameters : Command → Parameters
  | limitTime _ | readSnapshot => .none
  | insertModel model =>
      .named (columns model.json [("created_at", model.createdAt), ("updated_at", model.updatedAt)] [])
  | insertEntity entity =>
      .named (columns entity.json [("created_at", entity.createdAt), ("updated_at", entity.updatedAt)] [])
  | insertField field =>
      .named (columns field.json [("created_at", field.createdAt), ("updated_at", field.updatedAt)] ["enum_values"])
  | insertRelation relation => .named (columns relation.json [("created_at", relation.createdAt)] [])
  | insertMessage message => .named (columns message.json [("created_at", message.createdAt)] [])
  | listModels owner limit => .placed [.plain (.str owner), .plain (.int limit)]
  | selectMessages dataModelId limit => .placed [.plain (.int dataModelId), .plain (.int limit)]
  | findModel id | lockModel id | touchModel id | deleteRelations id | deleteFields id | deleteEntities id
  | selectEntities id | selectFields id | selectRelations id => .placed [.plain (.int id)]

def tableText (schema : String) (table : TableName) : String :=
  Ddl.quoteName schema ++ "." ++ Ddl.quoteName table.text

def insertText (schema : String) (table : TableName) (gap : String) (parameters : Parameters) : String :=
  let names :=
    match parameters with
    | .named values => values.map (·.1)
    | _ => []
  "INSERT INTO " ++ tableText schema table ++ " (" ++ gap ++ ", ".intercalate names ++ gap ++ ") VALUES (" ++ gap ++
    ", ".intercalate (names.map fun name => "%(" ++ name ++ ")s") ++ gap ++ ") RETURNING id"

def text (schema : String) (command : Command) : String :=
  let table := tableText schema
  match command with
  | limitTime milliseconds => "SET LOCAL statement_timeout = " ++ toString milliseconds
  | readSnapshot => "SET TRANSACTION ISOLATION LEVEL REPEATABLE READ, READ ONLY"
  | insertModel _ => insertText schema .dataModels " " command.parameters
  | findModel _ => "SELECT * FROM " ++ table .dataModels ++ " WHERE id = %s"
  | lockModel _ => "SELECT * FROM " ++ table .dataModels ++ " WHERE id = %s FOR UPDATE"
  | listModels _ _ =>
      "SELECT * FROM " ++ table .dataModels ++ " WHERE owner_id = %s ORDER BY created_at DESC, id DESC LIMIT %s"
  | touchModel _ => "UPDATE " ++ table .dataModels ++ " SET updated_at = NOW() WHERE id = %s"
  | deleteRelations _ => "DELETE FROM " ++ table .relations ++ " WHERE data_model_id = %s"
  | deleteFields _ =>
      "DELETE FROM " ++ table .fields ++ " WHERE entity_id IN ( SELECT id FROM " ++ table .entities ++
        " WHERE data_model_id = %s )"
  | deleteEntities _ => "DELETE FROM " ++ table .entities ++ " WHERE data_model_id = %s"
  | insertEntity _ => insertText schema .entities " " command.parameters
  | insertField _ => insertText schema .fields " " command.parameters
  | insertRelation _ => insertText schema .relations " " command.parameters
  | selectEntities _ => "SELECT * FROM " ++ table .entities ++ " WHERE data_model_id = %s ORDER BY position, id"
  | selectFields _ =>
      "SELECT f.* FROM " ++ table .fields ++ " f JOIN " ++ table .entities ++
        " e ON e.id = f.entity_id WHERE e.data_model_id = %s ORDER BY f.entity_id, f.position, f.id"
  | selectRelations _ => "SELECT * FROM " ++ table .relations ++ " WHERE data_model_id = %s ORDER BY id"
  | insertMessage _ => insertText schema .messages "" command.parameters
  | selectMessages _ _ =>
      "SELECT * FROM " ++ table .messages ++ " WHERE data_model_id = %s ORDER BY created_at, id LIMIT %s"

end Command

end Schematic
