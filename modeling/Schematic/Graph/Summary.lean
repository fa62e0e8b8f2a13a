import Schematic.Graph.Schema
import Schematic.Json.Value

set_option autoImplicit false

namespace Schematic

def Diagnostic.json (diagnostic : Diagnostic) : Json :=
  .obj [("line", .nat diagnostic.line), ("message", .str diagnostic.problem.message),
    ("kind", .str diagnostic.problem.kind.text)]

def Field.summary (field : Field) : Json :=
  .obj <|
    [("type", .str field.type.base.name), ("is_array", .bool field.type.isArray),
      ("is_primary", .bool field.modifiers.isPrimary), ("is_unique", .bool field.modifiers.isUnique),
      ("is_index", .bool field.modifiers.isIndex), ("is_nullable", .bool field.modifiers.isNullable),
      ("default_value", .ofOption (.str ·.text) field.modifiers.defaultText)] ++
    match field.type.base with
    | .enum values => [("enum_values", .strs values)]
    | .ref _ (some target) => if target = "" then [] else [("referenced_field", .str target)]
    | _ => []

def Relation.summary (relation : Relation) : Json :=
  .obj [("name", .str relation.name), ("from_entity", .str relation.fromEntity),
    ("from_field", .str relation.fromField), ("to_entity", .str relation.toEntity),
    ("to_field", .str relation.toField), ("cardinality", .str relation.cardinality.text),
    ("is_nullable", .bool relation.isNullable)]

def Entity.summary (entity : Entity) : Json :=
  .obj [("fields", .obj (entity.fields.map fun field => (field.name, field.summary)))]

def Schema.summary (schema : Schema) : Json :=
  .obj [("is_valid", .bool schema.isValid), ("errors", .arr (schema.errors.map Diagnostic.json)),
    ("entities", .obj (schema.entities.map fun entity => (entity.name, entity.summary))),
    ("relations", .arr (schema.relations.map Relation.summary))]

end Schematic
