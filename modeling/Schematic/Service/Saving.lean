import Schematic.Graph.Summary
import Schematic.Service.Access
import Schematic.Source.Format
import Schematic.Store.Repositories

set_option autoImplicit false

namespace Schematic

def validate (settings : Settings) (text : String) : Schema :=
  let limit := settings.source.maxBytes
  if limit < text.utf8ByteSize then { errors := [⟨0, .tooLarge text.utf8ByteSize limit⟩] }
  else Schema.parse settings.source.identifier text.toList

def formatted (settings : Settings) (text : String) : Option String × Schema :=
  let schema := validate settings text
  (if schema.isValid then some (String.ofList schema.render) else none, schema)

structure Saved where
  projection : Projection
  schema : Schema
  skipped : List Diagnostic

def Saved.json (saved : Saved) : Json :=
  .obj [("data_model_id", .int saved.projection.dataModelId),
    ("entities", .arr (saved.projection.entities.map EntityRecord.json)),
    ("fields", .arr (saved.projection.fields.map FieldRecord.json)),
    ("relations", .arr (saved.projection.relations.map RelationRecord.json)),
    ("skipped_relations", .arr (saved.skipped.map Diagnostic.json))]

namespace Service

open Schematic.Action

structure StoredEntity where
  record : EntityRecord
  fields : List FieldRecord

def StoredEntity.fieldId? (stored : StoredEntity) (name : String) : Option Int :=
  (stored.fields.find? (·.name = name)).bind (·.id)

def saveField (entityId : Int) (field : Field) (position : Nat) : Action FieldRecord := do
  Projections.insertField (← checked .fields (FieldRecord.ofField entityId field position))

def saveEntity (dataModelId : Int) (entity : Entity) (position : Nat) : Action StoredEntity := do
  let record ← Projections.insertEntity (← checked .entities (EntityRecord.ofEntity dataModelId entity position))
  let fields ← entity.fields.zipIdx.mapM fun (field, position) => saveField (record.id.getD 0) field position
  return { record, fields }

structure Ends where
  fromEntity : Int
  fromField : Int
  toEntity : Int
  toField : Int

def ends? (stored : List StoredEntity) (relation : Relation) : Option Ends := do
  let source ← stored.find? (·.record.name = relation.fromEntity)
  let target ← stored.find? (·.record.name = relation.toEntity)
  return {
    fromEntity := ← source.record.id
    fromField := ← source.fieldId? relation.fromField
    toEntity := ← target.record.id
    toField := ← target.fieldId? relation.toField }

def lineOf (schema : Schema) (relation : Relation) : Nat :=
  (((entity? schema.entities relation.fromEntity).bind (·.field? relation.fromField)).map (·.line)).getD 0

/-- Stores a relation whose ends are there; another one is reported and left out. -/
def saveRelation (context : LogContext) (dataModelId : Int) (schema : Schema) (stored : List StoredEntity)
    (relation : Relation) : Action (Except Diagnostic RelationRecord) := do
  match ends? stored relation with
  | none =>
      let diagnostic : Diagnostic := ⟨lineOf schema relation, .relationSkipped relation⟩
      note context Log.warning diagnostic.problem.message
      return .error diagnostic
  | some ends =>
      let record ← checked .relations <| RelationRecord.ofRelation dataModelId relation ends.fromEntity
        ends.fromField ends.toEntity ends.toField
      return .ok (← Projections.insertRelation record)

def writeProjection (context : LogContext) (dataModelId : Int) (schema : Schema) :
    Action (Projection × List Diagnostic) := do
  discard (Projections.delete dataModelId)
  let stored ← schema.entities.zipIdx.mapM fun (entity, position) => saveEntity dataModelId entity position
  let outcomes ← schema.relations.mapM (saveRelation context dataModelId schema stored)
  let projection : Projection :=
    { dataModelId
      entities := stored.map (·.record)
      fields := stored.flatMap (·.fields)
      relations := outcomes.filterMap fun
        | .ok record => some record
        | .error _ => none }
  return (projection, outcomes.filterMap fun
    | .ok _ => none
    | .error diagnostic => some diagnostic)

def replaceStored (context : LogContext) (settings : Settings) (id : Int) (schema : Schema) (principal : String) :
    Action (Projection × List Diagnostic) :=
  connected <| transaction do
    send (.limitTime settings.store.timeoutMs) (fun tables => tables)
    discard (owned (← DataModels.lock id) id principal)
    let written ← writeProjection context id schema
    DataModels.touch id
    return written

def counts (members : List (String × Nat)) : Json := .obj (members.map fun (name, count) => (name, .nat count))

/-- Replaces the stored schema of a data model with the one that a text declares. A text with errors is
refused before the store is touched. -/
def replaceSchema (known : Except NumberFault Settings) (id : Int) (text : String) (principal : Option String) :
    Action Saved := do
  let principal ← acting principal
  let settings ← settings known
  let schema := validate settings text
  if !schema.isValid then throw (.invalid false schema.errors)
  let context : LogContext :=
    { dataModelId := .int id, principalId := .str principal, operation := .str "replace_schema" }
  Action.note <| context.checkpoint "schema_replace_started" <|
    counts [("entity_count", schema.entities.length), ("relation_count", schema.relations.length)]
  let (projection, skipped) ← tryCatch (replaceStored context settings id schema principal) fun failure => do
    if failure.isService then throw failure
    note context Log.error
      ("Schema replace rolled back for data model " ++ toString id ++ ": " ++ failure.message)
    throw (.unsaved id failure)
  Action.note <| context.checkpoint "schema_replace_committed" <|
    counts [("entities", projection.entities.length), ("fields", projection.fields.length),
      ("relations", projection.relations.length), ("skipped_relations", skipped.length)]
  return { projection, schema, skipped }

/-- As `replaceSchema`, for a text that may have no encoding. -/
def replaceWith (known : Except NumberFault Settings) (id : Int) (wording : Wording) (principal : Option String) :
    Action Saved :=
  match wording with
  | .text text => replaceSchema known id text principal
  | .loose glyphs => do
      discard (acting principal)
      discard (settings known)
      throw (.unencodable glyphs)

def getSchema (known : Except NumberFault Settings) (id : Int) (principal : Option String) :
    Action (String × Projection) := do
  discard (getModel id principal)
  let projection ← persisting .loadSchema (Projections.load id)
  match projection.toEntities with
  | .error value => throw (.unrenderable value)
  | .ok entities =>
      let settings ← settings known
      let schema : Schema := { entities, identifier := settings.source.identifier }
      return (String.ofList schema.render, projection)

end Service

end Schematic
