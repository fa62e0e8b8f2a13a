import Schematic.Graph.Schema
import Schematic.Record.Moment

set_option autoImplicit false

namespace Schematic

inductive RelationType where
  | foreignKey | reference | edge
deriving Repr, DecidableEq

def RelationType.all : List RelationType := [.foreignKey, .reference, .edge]

def RelationType.text : RelationType → String
  | .foreignKey => "FOREIGN_KEY"
  | .reference => "REFERENCE"
  | .edge => "EDGE"

def RelationType.ofText? (text : String) : Option RelationType := RelationType.all.find? (·.text = text)

def Cardinality.all : List Cardinality := [.oneToOne, .oneToMany]

def Cardinality.ofText? (text : String) : Option Cardinality := Cardinality.all.find? (·.text = text)

structure EntityRecord where
  id : Option Int := none
  dataModelId : Int
  name : String
  description : Option String := none
  position : Int := 0
  createdAt : Moment := .clock
  updatedAt : Moment := .clock
deriving Repr, DecidableEq

/-- One stored field. The type is a scalar word, the word for enumerations, or the name of the target. -/
structure FieldRecord where
  id : Option Int := none
  entityId : Int
  name : String
  fieldType : String
  isArray : Bool := false
  referencedField : Option String := none
  enumValues : List String := []
  isPrimary : Bool := false
  isUnique : Bool := false
  isIndex : Bool := false
  isNullable : Bool := true
  defaultValue : Option String := none
  position : Int := 0
  createdAt : Moment := .clock
  updatedAt : Moment := .clock
deriving Repr, DecidableEq

structure RelationRecord where
  id : Option Int := none
  dataModelId : Int
  name : String
  relationType : RelationType := .foreignKey
  fromEntityId : Int
  toEntityId : Int
  fromFieldId : Int
  toFieldId : Int
  cardinality : Cardinality
  isNullable : Bool := true
  createdAt : Moment := .clock
deriving Repr, DecidableEq

namespace EntityRecord

def read (members : List (String × Json)) : Checked EntityRecord :=
  EntityRecord.mk <$> defaulted members "id" (.optional .int) none
    <*> required members "data_model_id" .int
    <*> required members "name" (.text (some 255))
    <*> defaulted members "description" (.optional (.text none)) none
    <*> defaulted members "position" .int 0
    <*> defaulted members "created_at" .moment .clock
    <*> defaulted members "updated_at" .moment .clock

def ofEntity (dataModelId : Int) (entity : Entity) (position : Nat) : Checked EntityRecord :=
  match overlong "name" 255 entity.name with
  | [] => .ok { dataModelId, name := entity.name, position }
  | complaints => .refused complaints

def json (entity : EntityRecord) : Json :=
  .obj [("id", .ofOption .int entity.id), ("data_model_id", .int entity.dataModelId), ("name", .str entity.name),
    ("description", .optStr entity.description), ("position", .int entity.position)]

end EntityRecord

namespace FieldRecord

def read (members : List (String × Json)) : Checked FieldRecord :=
  FieldRecord.mk <$> defaulted members "id" (.optional .int) none
    <*> required members "entity_id" .int
    <*> required members "name" (.text (some 255))
    <*> required members "field_type" (.text (some 255))
    <*> defaulted members "is_array" .bool false
    <*> defaulted members "referenced_field" (.optional (.text (some 255))) none
    <*> defaulted members "enum_values" (.list (.text none)) []
    <*> defaulted members "is_primary" .bool false
    <*> defaulted members "is_unique" .bool false
    <*> defaulted members "is_index" .bool false
    <*> defaulted members "is_nullable" .bool true
    <*> defaulted members "default_value" (.optional (.text none)) none
    <*> defaulted members "position" .int 0
    <*> defaulted members "created_at" .moment .clock
    <*> defaulted members "updated_at" .moment .clock

def ofField (entityId : Int) (field : Field) (position : Nat) : Checked FieldRecord :=
  let type := field.type
  let modifiers := field.modifiers
  match overlong "name" 255 field.name ++ overlong "field_type" 255 type.base.name ++
      overlong "referenced_field" 255 (type.base.targetField?.getD "") with
  | [] =>
      .ok
        { entityId, position
          name := field.name
          fieldType := type.base.name
          isArray := type.isArray
          referencedField := type.base.targetField?
          enumValues := type.base.enumValues
          isPrimary := modifiers.isPrimary
          isUnique := modifiers.isUnique
          isIndex := modifiers.isIndex
          isNullable := modifiers.isNullable
          defaultValue := modifiers.defaultText.map (·.text) }
  | complaints => .refused complaints

def toType (field : FieldRecord) : FieldType :=
  if field.fieldType = "enum" then ⟨.enum field.enumValues, field.isArray⟩
  else
    match ScalarKind.ofToken? field.fieldType with
    | some kind => ⟨.scalar kind, field.isArray⟩
    | none => ⟨.ref field.fieldType field.referencedField, field.isArray⟩

/-- The field that a record stands for. A default that cannot be written is handed back. -/
def toField (field : FieldRecord) : Except String Field :=
  let build (defaultText : Option DefaultText) : Field :=
    { name := field.name
      type := field.toType
      modifiers :=
        { isPrimary := field.isPrimary
          isUnique := field.isUnique
          isIndex := field.isIndex
          isNullable := field.isNullable && !field.isPrimary
          defaultText } }
  match field.defaultValue with
  | none => .ok (build none)
  | some value =>
      match DefaultText.ofString? value with
      | some text => .ok (build (some text))
      | none => .error value

def json (field : FieldRecord) : Json :=
  .obj [("id", .ofOption .int field.id), ("entity_id", .int field.entityId), ("name", .str field.name),
    ("field_type", .str field.fieldType), ("is_array", .bool field.isArray),
    ("referenced_field", .optStr field.referencedField), ("enum_values", .strs field.enumValues),
    ("is_primary", .bool field.isPrimary), ("is_unique", .bool field.isUnique), ("is_index", .bool field.isIndex),
    ("is_nullable", .bool field.isNullable), ("default_value", .optStr field.defaultValue),
    ("position", .int field.position)]

end FieldRecord

namespace RelationRecord

def read (members : List (String × Json)) : Checked RelationRecord :=
  RelationRecord.mk <$> defaulted members "id" (.optional .int) none
    <*> required members "data_model_id" .int
    <*> required members "name" (.text (some 512))
    <*> defaulted members "relation_type" (.word RelationType.ofText?) .foreignKey
    <*> required members "from_entity_id" .int
    <*> required members "to_entity_id" .int
    <*> required members "from_field_id" .int
    <*> required members "to_field_id" .int
    <*> required members "cardinality" (.word Cardinality.ofText?)
    <*> defaulted members "is_nullable" .bool true
    <*> defaulted members "created_at" .moment .clock

def ofRelation (dataModelId : Int) (relation : Relation) (fromEntityId fromFieldId toEntityId toFieldId : Int) :
    Checked RelationRecord :=
  match overlong "name" 512 relation.name with
  | [] =>
      .ok
        { dataModelId, fromEntityId, fromFieldId, toEntityId, toFieldId
          name := relation.name
          cardinality := relation.cardinality
          isNullable := relation.isNullable }
  | complaints => .refused complaints

def json (relation : RelationRecord) : Json :=
  .obj [("id", .ofOption .int relation.id), ("data_model_id", .int relation.dataModelId),
    ("name", .str relation.name), ("relation_type", .str relation.relationType.text),
    ("from_entity_id", .int relation.fromEntityId), ("to_entity_id", .int relation.toEntityId),
    ("from_field_id", .int relation.fromFieldId), ("to_field_id", .int relation.toFieldId),
    ("cardinality", .str relation.cardinality.text), ("is_nullable", .bool relation.isNullable)]

end RelationRecord

structure Projection where
  dataModelId : Int
  entities : List EntityRecord := []
  fields : List FieldRecord := []
  relations : List RelationRecord := []
deriving Repr, DecidableEq

/-- Order of declaration: by position, then by id, where a record without one comes as zero. -/
def inOrder (positionA : Int) (idA : Option Int) (positionB : Int) (idB : Option Int) : Bool :=
  positionA < positionB || (positionA = positionB && idA.getD 0 ≤ idB.getD 0)

namespace Projection

/-- The records of entities and their fields, the entities numbered from one. The first record whose names do
not fit is reported. -/
def ofEntities (dataModelId : Int) (entities : List Entity) : Except (List Complaint) Projection := do
  let rows ← entities.zipIdx.mapM fun (entity, position) => do
    let id : Int := position + 1
    let record ← (EntityRecord.ofEntity dataModelId entity position).toExcept
    let fields ← entity.fields.zipIdx.mapM fun (field, place) => (FieldRecord.ofField id field place).toExcept
    return ({ record with id := some id }, fields)
  return { dataModelId, entities := rows.map (·.1), fields := rows.flatMap (·.2) }

def fieldsFor (projection : Projection) (entityId : Option Int) : List FieldRecord :=
  (projection.fields.filter fun field => some field.entityId = entityId).mergeSort
    fun a b => inOrder a.position a.id b.position b.id

def toEntity (projection : Projection) (record : EntityRecord) : Except String Entity :=
  ((projection.fieldsFor record.id).mapM FieldRecord.toField).map
    fun fields => fields.foldl Entity.putField { name := record.name }

/-- The entities that the records stand for. Relations are not read: they follow from the fields. -/
def toEntities (projection : Projection) : Except String (List Entity) :=
  let records := projection.entities.mergeSort fun a b => inOrder a.position a.id b.position b.id
  (records.mapM projection.toEntity).map fun entities =>
    entities.foldl (fun kept entity => putBy Entity.name entity kept) []

def json (projection : Projection) : Json :=
  .obj [("data_model_id", .int projection.dataModelId),
    ("entities", .arr (projection.entities.map EntityRecord.json)),
    ("fields", .arr (projection.fields.map FieldRecord.json)),
    ("relations", .arr (projection.relations.map RelationRecord.json))]

end Projection

end Schematic
