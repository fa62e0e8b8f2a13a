import Schematic.Record.Moment

set_option autoImplicit false

namespace Schematic

inductive DbType where
  | sql | nosql | graph
deriving Repr, DecidableEq

def DbType.all : List DbType := [.sql, .nosql, .graph]

def DbType.text : DbType → String
  | .sql => "SQL"
  | .nosql => "NOSQL"
  | .graph => "GRAPH"

def DbType.ofText? (text : String) : Option DbType := DbType.all.find? (·.text = text)

structure DataModel where
  id : Option Int := none
  name : String
  version : String := "1"
  description : String := ""
  dbType : DbType := .sql
  ownerId : String
  createdAt : Moment := .clock
  updatedAt : Moment := .clock
deriving Repr, DecidableEq

namespace DataModel

def read (members : List (String × Json)) : Checked DataModel :=
  DataModel.mk <$> defaulted members "id" (.optional .int) none
    <*> required members "name" (.text (some 255))
    <*> defaulted members "version" (.text (some 64)) "1"
    <*> defaulted members "description" (.text none) ""
    <*> defaulted members "db_type" (.word DbType.ofText?) .sql
    <*> required members "owner_id" (.text (some 128))
    <*> defaulted members "created_at" .moment .clock
    <*> defaulted members "updated_at" .moment .clock

def isOwnedBy (model : DataModel) (principal : Option String) : Bool := principal = some model.ownerId

def json (model : DataModel) : Json :=
  .obj [("id", .ofOption .int model.id), ("name", .str model.name), ("version", .str model.version),
    ("description", .str model.description), ("db_type", .str model.dbType.text),
    ("owner_id", .str model.ownerId)]

end DataModel

end Schematic
