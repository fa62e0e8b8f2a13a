import Schematic.Ddl.Model
import Schematic.Record.ChatMessage
import Schematic.Record.DataModel
import Schematic.Record.Projection

set_option autoImplicit false

namespace Schematic.Ddl

def dbTypeEnum : EnumType := ⟨"DbType", DbType.all.map DbType.text⟩
def relationTypeEnum : EnumType := ⟨"RelationType", RelationType.all.map RelationType.text⟩
def cardinalityEnum : EnumType := ⟨"Cardinality", Cardinality.all.map Cardinality.text⟩
def senderEnum : EnumType := ⟨"ChatSender", Sender.all.map Sender.text⟩

def idField : FieldSpec := ⟨"id", .int, true, .value .null, none⟩
def createdAtField : FieldSpec := ⟨"created_at", .time, false, .made, none⟩
def updatedAtField : FieldSpec := ⟨"updated_at", .time, false, .made, none⟩
def intField (name : String) : FieldSpec := ⟨name, .int, false, .required, none⟩
def flagField (name : String) (default : Bool) : FieldSpec := ⟨name, .bool, false, .value (.bool default), none⟩
def positionField : FieldSpec := ⟨"position", .int, false, .value (.int 0), none⟩

def textField (name : String) (maxLength : Option Nat) : FieldSpec := ⟨name, .text, false, .required, maxLength⟩

def optionalTextField (name : String) (maxLength : Option Nat) : FieldSpec :=
  ⟨name, .text, true, .value .null, maxLength⟩

def indexOn (name : String) (columns : List String) : IndexEntry := .positional [.str name, .strs columns]

def uniqueIndexOn (name : String) (columns : List String) : IndexEntry :=
  .keyed [("name", .str name), ("columns", .strs columns), ("unique", .bool true)]

def dataModels : ModelSpec where
  name := "DataModel"
  table := some "data_models"
  primaryKey := ["id"]
  serialColumns := ["id"]
  indexes := [indexOn "idx_data_models_owner" ["owner_id"]]
  summary := some "Data model metadata."
  fields :=
    [idField, textField "name" (some 255), ⟨"version", .text, false, .value (.str "1"), some 64⟩,
      ⟨"description", .text, false, .value (.str ""), none⟩,
      ⟨"db_type", .enum dbTypeEnum, false, .word DbType.sql.text, none⟩, textField "owner_id" (some 128),
      createdAtField, updatedAtField]

def modelEntities : ModelSpec where
  name := "ModelEntity"
  table := some "model_entities"
  primaryKey := ["id"]
  serialColumns := ["id"]
  foreignKeys := [("data_model_id", "sdlapp.data_models(id)")]
  indexes :=
    [indexOn "idx_model_entities_data_model" ["data_model_id"],
      uniqueIndexOn "idx_unique_model_entities_name" ["data_model_id", "name"]]
  summary := some "One entity of a data model."
  fields :=
    [idField, intField "data_model_id", textField "name" (some 255), optionalTextField "description" none,
      positionField, createdAtField, updatedAtField]

def modelFields : ModelSpec where
  name := "ModelField"
  table := some "model_fields"
  primaryKey := ["id"]
  serialColumns := ["id"]
  foreignKeys := [("entity_id", "sdlapp.model_entities(id)")]
  indexes :=
    [indexOn "idx_model_fields_entity" ["entity_id"],
      uniqueIndexOn "idx_unique_model_fields_name" ["entity_id", "name"]]
  summary := some "One field of an entity."
  fields :=
    [idField, intField "entity_id", textField "name" (some 255), textField "field_type" (some 255),
      flagField "is_array" false, optionalTextField "referenced_field" (some 255),
      ⟨"enum_values", .list true, false, .made, none⟩, flagField "is_primary" false, flagField "is_unique" false,
      flagField "is_index" false, flagField "is_nullable" true, optionalTextField "default_value" none,
      positionField, createdAtField, updatedAtField]

def modelRelations : ModelSpec where
  name := "ModelRelation"
  table := some "model_relations"
  primaryKey := ["id"]
  serialColumns := ["id"]
  foreignKeys :=
    [("data_model_id", "sdlapp.data_models(id)"), ("from_entity_id", "sdlapp.model_entities(id)"),
      ("to_entity_id", "sdlapp.model_entities(id)"), ("from_field_id", "sdlapp.model_fields(id)"),
      ("to_field_id", "sdlapp.model_fields(id)")]
  indexes := [indexOn "idx_model_relations_data_model" ["data_model_id"]]
  summary := some "Persisted relation between two fields."
  fields :=
    [idField, intField "data_model_id", textField "name" (some 512),
      ⟨"relation_type", .enum relationTypeEnum, false, .word RelationType.foreignKey.text, none⟩,
      intField "from_entity_id", intField "to_entity_id", intField "from_field_id", intField "to_field_id",
      ⟨"cardinality", .enum cardinalityEnum, false, .required, none⟩, flagField "is_nullable" true,
      createdAtField]

def chatMessages : ModelSpec where
  name := "ChatMessage"
  table := some "chat_messages"
  primaryKey := ["id"]
  serialColumns := ["id"]
  foreignKeys := [("data_model_id", "sdlapp.data_models(id)")]
  indexes := [indexOn "idx_chat_messages_data_model" ["data_model_id", "created_at"]]
  summary := some "Drafting chat message."
  fields :=
    [idField, intField "data_model_id", ⟨"sender", .enum senderEnum, false, .required, none⟩,
      textField "content" none, optionalTextField "schema_text" none, createdAtField]

/-- The record types of the store; each comes after those that it refers to. -/
def storeModels : List ModelSpec := [dataModels, modelEntities, modelFields, modelRelations, chatMessages]

def storeTables : List String := storeModels.filterMap (·.table)

def storeEnums : Enums := storeModels.foldl addEnums []

def describedTable (schema : String) (model : ModelSpec) : Except TableFault (List Statement.Pieces) :=
  (createTable model).map fun table =>
    table :: (model.summary.map fun summary => commentOnTable schema (model.table.getD "") (some summary)).toList

def setupStatements (schema : String) : Except TableFault (List Statement.Pieces) :=
  (storeModels.mapM (describedTable schema)).map fun tables =>
    createSchema schema (some "Data model schemas authored in SDL") ++
    [setSearchPath schema] ++
    storeEnums.map (fun (name, type) => createEnum schema name type.values) ++
    tables.flatten ++
    storeModels.flatMap createIndexes ++
    [touchFunction schema] ++
    (storeModels.filter fun model => model.fields.any (·.name = "updated_at")).flatMap
      fun model => touchTrigger schema (model.table.getD "")

end Schematic.Ddl
