import Schematic.Graph.Entity

set_option autoImplicit false

namespace Schematic

inductive Cardinality where
  | oneToOne | oneToMany
deriving Repr, DecidableEq

def Cardinality.text : Cardinality → String
  | .oneToOne => "one-to-one"
  | .oneToMany => "one-to-many"

structure Relation where
  fromEntity : String
  fromField : String
  toEntity : String
  toField : String
  cardinality : Cardinality
  isNullable : Bool
deriving Repr, DecidableEq

namespace Relation

def key (relation : Relation) : String × String := (relation.fromEntity, relation.fromField)

def name (relation : Relation) : String :=
  relation.fromEntity ++ "_" ++ relation.fromField ++ "_" ++ relation.toEntity

end Relation

/-- The field a reference points to: the one it names, else the identifier of its target, else the
identifier that every entity is assumed to have. -/
def targetField (entities : List Entity) (identifier target : String) (named : Option String) : String :=
  match named with
  | some field => field
  | none => (((entity? entities target).bind (·.identifierField?)).filter (· ≠ "")).getD identifier

def Field.relation? (entities : List Entity) (identifier source : String) (field : Field) : Option Relation :=
  match field.type.base with
  | .ref target named =>
      some
        { fromEntity := source
          fromField := field.name
          toEntity := target
          toField := targetField entities identifier target named
          cardinality := if field.type.isArray then .oneToMany else .oneToOne
          isNullable := field.modifiers.isNullable }
  | _ => none

def relationsOf (entities : List Entity) (identifier : String) : List Relation :=
  entities.flatMap fun entity => entity.fields.filterMap (·.relation? entities identifier entity.name)

end Schematic
