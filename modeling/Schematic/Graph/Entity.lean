import Schematic.Basic
import Schematic.Graph.FieldType
import Schematic.Graph.Modifiers

set_option autoImplicit false

namespace Schematic

structure Field where
  name : String
  type : FieldType
  modifiers : Modifiers := {}
  line : Nat := 0
deriving Repr, DecidableEq

structure Entity where
  name : String
  fields : List Field := []
  line : Nat := 0
deriving Repr, DecidableEq

namespace Entity

def field? (entity : Entity) (name : String) : Option Field := entity.fields.find? (·.name = name)

def hasField (entity : Entity) (name : String) : Bool := entity.fields.any (·.name = name)

def putField (entity : Entity) (field : Field) : Entity :=
  { entity with fields := putBy Field.name field entity.fields }

def eraseField (entity : Entity) (name : String) : Entity :=
  { entity with fields := entity.fields.filter (·.name ≠ name) }

/-- The field that relations point to unless they name one: the first of kind ID, else the first primary one. -/
def identifierField? (entity : Entity) : Option String :=
  match entity.fields.find? (·.type.base = .scalar .identifier) with
  | some field => some field.name
  | none => (entity.fields.find? (·.modifiers.isPrimary)).map (·.name)

end Entity

def entity? (entities : List Entity) (name : String) : Option Entity := entities.find? (·.name = name)

def hasEntity (entities : List Entity) (name : String) : Bool := entities.any (·.name = name)

def updateEntity (entities : List Entity) (name : String) (change : Entity → Entity) : List Entity :=
  entities.map fun entity => if entity.name = name then change entity else entity

def Field.same (a b : Field) : Bool := a.name = b.name && a.type = b.type && a.modifiers = b.modifiers

/-- Same name and same fields; neither their lines nor their order count. -/
def Entity.same (a b : Entity) : Bool :=
  a.name = b.name && a.fields.length = b.fields.length &&
    a.fields.all fun field => b.fields.any (field.same ·)

def sameEntities (a b : List Entity) : Bool :=
  a.length = b.length && a.all fun entity => b.any (entity.same ·)

end Schematic
