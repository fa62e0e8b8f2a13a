import Schematic.Source.Reader

set_option autoImplicit false

namespace Schematic

def joinWith (separator : List Char) : List (List Char) → List Char
  | [] => []
  | [item] => item
  | item :: rest => item ++ separator ++ joinWith separator rest

def BaseType.render : BaseType → List Char
  | .enum values => "enum(".toList ++ joinWith [','] (values.map (·.toList)) ++ [')']
  | .ref entity (some field) => if field = "" then entity.toList else entity.toList ++ '.' :: field.toList
  | base => base.name.toList

def FieldType.render (type : FieldType) : List Char :=
  type.base.render ++ if type.isArray then ['[', ']'] else []

/-- Clauses in their fixed order. A nullable field needs no clause, nor a primary one that is not. -/
def Modifiers.render (modifiers : Modifiers) : List (List Char) :=
  (if modifiers.isPrimary then ["@primary".toList] else []) ++
  (if modifiers.isUnique then ["@unique".toList] else []) ++
  (if modifiers.isIndex then ["@index".toList] else []) ++
  (if !modifiers.isNullable && !modifiers.isPrimary then ["@nullable(false)".toList] else []) ++
  match modifiers.defaultText with
  | some value => ["@default(".toList ++ value.text.toList ++ [')']]
  | none => []

def Field.render (field : Field) : List Char :=
  joinWith [' '] ((field.name.toList ++ [':', ' '] ++ field.type.render) :: field.modifiers.render)

def Entity.render (entity : Entity) : List Char :=
  joinWith ['\n'] <|
    ("entity ".toList ++ entity.name.toList ++ [' ', '{']) ::
      entity.fields.map (fun field => ' ' :: ' ' :: field.render) ++ [['}']]

def Schema.render (schema : Schema) : List Char :=
  if schema.entities.isEmpty then []
  else joinWith ['\n', '\n'] (schema.entities.map Entity.render) ++ ['\n']

def canonical (identifier : String) (source : List Char) : Except (List Diagnostic) (List Char) :=
  let schema := Schema.parse identifier source
  if schema.isValid then .ok schema.render else .error schema.errors

end Schematic
