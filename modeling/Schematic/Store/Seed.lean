import Schematic.Log.Context
import Schematic.Store.Table

set_option autoImplicit false

namespace Schematic

/-- The columns of a row that came from elsewhere. Some may be missing or hold anything. -/
abbrev Columns := List (String × Json)

namespace Columns

def firstMissing (columns : Columns) (wanted : List String) : Option String :=
  wanted.find? fun name => (columns.lookup name).isNone

def read {α : Type} (columns : Columns) (wanted : List String) (read : Columns → Checked α) : Except RowFault α :=
  match columns.firstMissing wanted with
  | some column => .error (.missing column)
  | none => (read columns).toExcept.mapError .refused

def orDefault (columns : Columns) (name : String) (fallback : Json) : Columns :=
  match columns.lookup name with
  | some value => if value.isVoid then Json.putMember columns name fallback else columns
  | none => Json.putMember columns name fallback

def int? (columns : Columns) (name : String) : Option Int := (columns.lookup name).bind (·.int?)

def madeAt (columns : Columns) (reading : Int) : Int :=
  match (columns.lookup "created_at").map Reading.moment with
  | some (.ok moment) => moment.instant reading
  | _ => reading

end Columns

namespace Tables

/-- Adds a row, with the next id where it brings none. -/
def putRow {κ α : Type} (table : Table κ α) (columns : Columns) (row : Int → Columns → Row κ α) : Table κ α :=
  match columns.int? "id" with
  | some id => { table with rows := table.rows ++ [row id columns] }
  | none => table.add fun id => row id (("id", .int id) :: columns)

def seedRow (tables : Tables) (name : TableName) (columns : Columns) : Tables :=
  let position := (columns.int? "position").getD 0
  match name with
  | .dataModels =>
      { tables with
        models := putRow tables.models columns fun id columns =>
          { id, parent := (columns.lookup "owner_id").bind (·.str?)
            position := columns.madeAt (tables.models.clock id)
            record := (columns.orDefault "description" (.str "")).read ["name", "version", "db_type", "owner_id"]
              DataModel.read } }
  | .entities =>
      { tables with
        entities := putRow tables.entities columns fun id columns =>
          { id, position, parent := columns.int? "data_model_id", record := columns.read [] EntityRecord.read } }
  | .fields =>
      { tables with
        fields := putRow tables.fields columns fun id columns =>
          { id, position, parent := columns.int? "entity_id"
            record := (columns.orDefault "enum_values" (.arr [])).read [] FieldRecord.read } }
  | .relations =>
      { tables with
        relations := putRow tables.relations columns fun id columns =>
          { id, parent := columns.int? "data_model_id", record := columns.read [] RelationRecord.read } }
  | .messages =>
      { tables with
        messages := putRow tables.messages columns fun id columns =>
          { id, parent := columns.int? "data_model_id", position := columns.madeAt (tables.messages.clock id)
            record := columns.read ["data_model_id", "sender", "content"] ChatMessage.read } }

def seed (tables : Tables) (name : TableName) (rows : List Columns) : Tables :=
  rows.foldl (fun tables columns => tables.seedRow name columns) tables

end Tables

end Schematic
