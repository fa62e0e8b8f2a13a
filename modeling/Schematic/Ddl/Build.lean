import Schematic.Ddl.Statement

set_option autoImplicit false

namespace Schematic.Ddl

def commaSeparated : List Statement.Pieces → Statement.Pieces
  | [] => []
  | [item] => item
  | item :: rest => item ++ .raw ", " :: commaSeparated rest

def names (columns : List String) : Statement.Pieces := commaSeparated (columns.map fun column => [.name column])

def qualified (schema name : String) : Statement.Pieces := [.name schema, .raw ".", .name name]

/-- An empty comment is no comment. -/
def createSchema (schema : String) (comment : Option String) : List Statement.Pieces :=
  [.raw "CREATE SCHEMA IF NOT EXISTS ", .name schema] ::
    match comment.filter (· ≠ "") with
    | some comment => [[.raw "COMMENT ON SCHEMA ", .name schema, .raw " IS ", .literal (.text comment)]]
    | none => []

def setSearchPath (schema : String) : Statement.Pieces :=
  [.raw "SET search_path TO ", .name schema, .raw ", public"]

/-- There is no conditional form of this statement, so it is guarded by a look-up of the type. -/
def createEnum (schema name : String) (values : List String) : Statement.Pieces :=
  [.raw ("DO $$ BEGIN IF NOT EXISTS (SELECT 1 FROM pg_type t JOIN pg_namespace n ON n.oid = t.typnamespace " ++
      "WHERE t.typname = "),
    .literal (.text name), .raw " AND n.nspname = ", .literal (.text schema), .raw ") THEN CREATE TYPE "] ++
  qualified schema name ++ .raw " AS ENUM (" :: commaSeparated (values.map fun value => [.literal (.text value)]) ++
  [.raw "); END IF; END $$"]

def createIndex (schema table : String) (columns : List String) (name : Option String) (unique : Bool)
    (predicate : Option String) : Statement.Pieces :=
  let name := (name.filter (· ≠ "")).getD ("_".intercalate ("idx" :: table :: columns))
  [.raw (if unique then "CREATE UNIQUE INDEX IF NOT EXISTS " else "CREATE INDEX IF NOT EXISTS "), .name name,
    .raw " ON "] ++ qualified schema table ++ .raw " (" :: names columns ++ .raw ")" ::
  match predicate.filter (· ≠ "") with
  | some predicate => [.raw " WHERE ", .raw predicate]
  | none => []

def commentOnTable (schema table : String) (comment : Option String) : Statement.Pieces :=
  .raw "COMMENT ON TABLE " :: qualified schema table ++
    [.raw " IS ", .literal (match comment with | some comment => .text comment | none => .null)]

def touchFunctionName : String := "touch_updated_at"

def touchFunction (schema : String) : Statement.Pieces :=
  .raw "CREATE OR REPLACE FUNCTION " :: qualified schema touchFunctionName ++
    [.raw ("() RETURNS TRIGGER LANGUAGE plpgsql AS $$ " ++
      "BEGIN NEW.updated_at = NOW(); RETURN NEW; END; $$")]

/-- The trigger is dropped first, so that there is one however often this runs. -/
def touchTrigger (schema table : String) : List Statement.Pieces :=
  let trigger := Piece.name ("trg_" ++ table ++ "_touch")
  [.raw "DROP TRIGGER IF EXISTS " :: trigger :: .raw " ON " :: qualified schema table,
    .raw "CREATE TRIGGER " :: trigger :: .raw " BEFORE UPDATE ON " :: qualified schema table ++
      .raw " FOR EACH ROW EXECUTE FUNCTION " :: qualified schema touchFunctionName ++ [.raw "()"]]

end Schematic.Ddl
