import Schematic.Ddl.Build
import Schematic.Json.Value
import Schematic.Source.TypeExpr
import Schematic.Text.Alphanumeric
import Schematic.Text.LowerCase
import Schematic.Text.Quoted

set_option autoImplicit false

namespace Schematic

structure EnumType where
  name : String
  values : List String
deriving Repr, DecidableEq

inductive FieldShape where
  | text | int | float | bool | time
  | mapping (ofItems : Bool)
  | list (ofItems : Bool)
  | enum (type : EnumType)
  | either (shapes : List FieldShape)
  /-- A shape with remarks of its own, perhaps on its length. -/
  | annotated (shape : FieldShape) (maxLength : Option Nat)
  | other
deriving Repr

inductive FieldDefault where
  | required
  | value (value : Json)
  | word (value : String)
  | made
deriving Repr

structure FieldSpec where
  name : String
  shape : FieldShape
  isOptional : Bool := false
  default : FieldDefault := .required
  maxLength : Option Nat := none
deriving Repr

/-- How an index was declared: by place, where the name comes first and is there, by key, or in no way that is
understood. -/
inductive IndexEntry where
  | positional (items : List Json)
  | keyed (members : List (String × Json))
  | other (value : Json)
deriving Repr

structure IndexSpec where
  name : String
  columns : List String
  predicate : Option String
  unique : Bool
deriving Repr, DecidableEq

structure ModelSpec where
  name : String
  fields : List FieldSpec
  table : Option String := none
  schema : String := "sdlapp"
  primaryKey : List String := []
  foreignKeys : List (String × String) := []
  serialColumns : List String := []
  indexes : List IndexEntry := []
  summary : Option String := none
deriving Repr

inductive TableFault where
  | noTable (model : String)
  | badReference (column reference : String)
deriving Repr, DecidableEq

def TableFault.message : TableFault → String
  | noTable model => "Model " ++ model ++ " missing __sql_table__ attribute"
  | badReference column reference =>
      "Malformed foreign key reference " ++ Text.quoted reference ++ " on " ++ column

namespace IndexEntry

def columnsOf : Json → List String
  | .str column => if column = "" then [] else [column]
  | columns => columns.items.filterMap (·.str?)

def specOf (name columns predicate : Json) (unique : Bool) : Option IndexSpec :=
  match (name.str?).filter (· ≠ ""), columnsOf columns with
  | some name, column :: rest => some ⟨name, column :: rest, predicate.str?, unique⟩
  | _, _ => none

/-- An index needs a name and at least one column. -/
def spec? : IndexEntry → Option IndexSpec
  | positional items =>
      specOf (items.getD 0 .null) (items.getD 1 .null) (items.getD 2 .null) false
  | keyed members =>
      let get (key : String) : Json := (members.lookup key).getD .null
      specOf (get "name") (get "columns") (get "partial_where") (get "unique").isTrue
  | other _ => none

def json : IndexEntry → Json
  | positional items => .arr items
  | keyed members => .obj members
  | other value => value

end IndexEntry

namespace Ddl

def snakeCase (name : String) : String :=
  let parts := name.toList.zipIdx.flatMap fun (c, place) =>
    if place ≠ 0 ∧ 'A' ≤ c ∧ c ≤ 'Z' then ['_', c] else [c]
  String.ofList (Text.lower parts)

abbrev Enums := List (String × EnumType)

inductive ColumnType where
  | plain (text : String)
  | enum (name : String) (type : EnumType)
deriving Repr, DecidableEq

def ColumnType.name : ColumnType → String
  | plain text => text
  | enum name _ => name

/-- The shape that decides how a field is stored, and its greatest length. The remarks on a shape are those of the
field, unless the field may be empty: then the first of several shapes is taken, remarks and all. -/
def storedShape (field : FieldSpec) : FieldShape × Option Nat :=
  match field.isOptional, field.shape with
  | true, .either (first :: _) => (first, field.maxLength)
  | false, .annotated shape maxLength => (shape, field.maxLength.or maxLength)
  | _, shape => (shape, field.maxLength)

def shapeType (shape : FieldShape) (maxLength : Option Nat) : ColumnType :=
  match shape with
  | .text =>
      match maxLength with
      | some limit => .plain ("VARCHAR(" ++ toString limit ++ ")")
      | none => .plain "TEXT"
  | .int => .plain "INTEGER"
  | .float => .plain "DOUBLE PRECISION"
  | .bool => .plain "BOOLEAN"
  | .time => .plain "TIMESTAMPTZ"
  | .enum type => .enum (snakeCase type.name) type
  | .mapping _ | .list _ | .either _ | .annotated _ _ | .other => .plain "JSONB"

def columnType (field : FieldSpec) : ColumnType := shapeType (storedShape field).1 (storedShape field).2

def emptyContainer (field : FieldSpec) : String :=
  match field.isOptional, (storedShape field).1 with
  | false, .list true => "'[]'"
  | _, _ => "'\x7b\x7d'"

def timestampColumns : List String := ["created_at", "updated_at"]

def derivedDefault (field : FieldSpec) (type : ColumnType) : Statement.Pieces :=
  if field.name ∈ timestampColumns then [.raw " DEFAULT NOW()"]
  else
    match field.default with
    | .made => if type.name = "JSONB" then [.raw (" DEFAULT " ++ emptyContainer field)] else []
    | _ => []

def columnDefault (schema : String) (field : FieldSpec) (type : ColumnType) : Statement.Pieces :=
  match field.default with
  | .word value =>
      [.raw " DEFAULT ", .literal (.text value), .raw "::"] ++ qualified schema type.name
  | .value (.bool value) => [.raw " DEFAULT ", .raw (if value then "true" else "false")]
  | .value (.str value) => [.raw " DEFAULT ", .literal (.text value)]
  | .value (.int value) => [.raw " DEFAULT ", .literal (.int value)]
  | .value (.float value) => [.raw " DEFAULT ", .literal (.float value)]
  | _ => derivedDefault field type

def column (model : ModelSpec) (field : FieldSpec) : Statement.Pieces :=
  if field.name ∈ model.serialColumns then [.name field.name, .raw " SERIAL"]
  else
    let type := columnType field
    let typePieces : Statement.Pieces :=
      match type with
      | .plain text => [.raw text]
      | .enum name _ => qualified model.schema name
    .name field.name :: .raw " " :: typePieces ++
      (if !field.isOptional && !model.primaryKey.contains field.name then [.raw " NOT NULL"] else []) ++
      columnDefault model.schema field type

def addEnums (enums : Enums) (model : ModelSpec) : Enums :=
  model.fields.foldl
    (fun enums field =>
      if field.name ∈ model.serialColumns then enums
      else
        match columnType field with
        | .enum name type => putBy Prod.fst (name, type) enums
        | .plain _ => enums)
    enums

def takeWord? (text : List Char) : Option (String × List Char) :=
  let word := text.takeWhile Text.isWord
  if word = [] then none else some (String.ofList word, text.dropWhile Text.isWord)

def readReference? (reference : String) : Option (String × String × String) := do
  let (schema, rest) ← takeWord? reference.toList
  let rest ← dropPrefix? ['.'] rest
  let (table, rest) ← takeWord? rest
  let rest ← dropPrefix? ['('] rest
  let (column, rest) ← takeWord? rest
  let _ ← dropPrefix? [')'] rest
  some (schema, table, column)

def foreignKey (column reference : String) : Except TableFault Statement.Pieces :=
  match readReference? reference with
  | none => .error (.badReference column reference)
  | some (schema, table, target) =>
      .ok ([.raw "FOREIGN KEY (", .name column, .raw ") REFERENCES "] ++ qualified schema table ++
        [.raw " (", .name target, .raw ") ON DELETE CASCADE"])

def constraints (model : ModelSpec) : Except TableFault (List Statement.Pieces) := do
  let foreign ← model.foreignKeys.mapM fun (column, reference) => foreignKey column reference
  if model.primaryKey = [] then return foreign
  return (.raw "PRIMARY KEY (" :: names model.primaryKey ++ [.raw ")"]) :: foreign

def createTable (model : ModelSpec) : Except TableFault Statement.Pieces :=
  match model.table.filter (· ≠ "") with
  | none => .error (.noTable model.name)
  | some table =>
      (constraints model).map fun constraints =>
        .raw "CREATE TABLE IF NOT EXISTS " :: qualified model.schema table ++
          .raw " (" :: commaSeparated (model.fields.map (column model) ++ constraints) ++ [.raw ")"]

def createIndexes (model : ModelSpec) : List Statement.Pieces :=
  (model.indexes.filterMap (·.spec?)).map fun spec =>
    createIndex model.schema (model.table.getD "") spec.columns (some spec.name) spec.unique spec.predicate

end Ddl

def ModelSpec.metadata (model : ModelSpec) : Json :=
  .obj [("table", .optStr model.table), ("schema", .str model.schema), ("primary_key", .strs model.primaryKey),
    ("foreign_keys", .obj (model.foreignKeys.map fun (column, reference) => (column, .str reference))),
    ("indexes", .arr (model.indexes.map IndexEntry.json)), ("serial_columns", .strs model.serialColumns)]

end Schematic
