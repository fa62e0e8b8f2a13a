set_option autoImplicit false

namespace Schematic

inductive ScalarKind where
  | string | text | number | int | float | decimal | boolean | datetime | date | time | identifier
  | json | email | url | uuid | bigint | binary
deriving Repr, DecidableEq

def ScalarKind.all : List ScalarKind :=
  [.string, .text, .number, .int, .float, .decimal, .boolean, .datetime, .date, .time, .identifier,
    .json, .email, .url, .uuid, .bigint, .binary]

def ScalarKind.token : ScalarKind → String
  | .string => "string"
  | .text => "text"
  | .number => "number"
  | .int => "int"
  | .float => "float"
  | .decimal => "decimal"
  | .boolean => "boolean"
  | .datetime => "datetime"
  | .date => "date"
  | .time => "time"
  | .identifier => "ID"
  | .json => "json"
  | .email => "email"
  | .url => "url"
  | .uuid => "uuid"
  | .bigint => "bigint"
  | .binary => "binary"

def ScalarKind.ofToken? (token : String) : Option ScalarKind := ScalarKind.all.find? (·.token = token)

inductive BaseType where
  | scalar (kind : ScalarKind)
  | enum (values : List String)
  | ref (entity : String) (field : Option String)
deriving Repr, DecidableEq

structure FieldType where
  base : BaseType
  isArray : Bool
deriving Repr, DecidableEq

/-- The word that stands for a type where enumeration values and target fields are kept apart. -/
def BaseType.name : BaseType → String
  | .scalar kind => kind.token
  | .enum _ => "enum"
  | .ref entity _ => entity

def BaseType.enumValues : BaseType → List String
  | .enum values => values
  | _ => []

def BaseType.targetField? : BaseType → Option String
  | .ref _ field => field
  | _ => none

end Schematic
