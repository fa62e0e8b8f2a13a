import Schematic.Graph.Schema

set_option autoImplicit false

namespace Schematic

def allFields (entities : List Entity) : List (String × Field) :=
  entities.flatMap fun entity => entity.fields.map (entity.name, ·)

def brokenTarget? (entities : List Entity) (field : Field) : Option (String × String) :=
  match field.type.base with
  | .ref target (some named) =>
      if (entity? entities target).any (·.hasField named) then none else some (target, named)
  | _ => none

/-- One pass over the given fields: each that is broken by now is dropped and reported. -/
def sweep (entities : List Entity) : List (String × Field) → List Entity × List Diagnostic
  | [] => (entities, [])
  | (owner, field) :: rest =>
      match brokenTarget? entities field with
      | none => sweep entities rest
      | some (target, named) =>
          let (kept, later) := sweep (updateEntity entities owner (·.eraseField field.name)) rest
          (kept, ⟨field.line, .missingTarget named target⟩ :: later)

def sweeps : Nat → List Entity → List Entity × List Diagnostic
  | 0, entities => (entities, [])
  | fuel + 1, entities =>
      match sweep entities (allFields entities) with
      | (_, []) => (entities, [])
      | (kept, found) =>
          let (stable, later) := sweeps fuel kept
          (stable, found ++ later)

/-- Drops references to fields that do not exist, until all that are left hold. Every pass but the last
drops a field, so one pass more than there are fields is enough. -/
def checkReferences (entities : List Entity) : List Entity × List Diagnostic :=
  sweeps ((allFields entities).length + 1) entities

end Schematic
