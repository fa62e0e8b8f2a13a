import Schematic.Graph.Schema
import Schematic.Source.Clause
import Schematic.Source.References
import Schematic.Source.Statement

set_option autoImplicit false

namespace Schematic

open Text

/-- A statement that begins with the word `entity` opens a block, unless it holds a colon. -/
def isHeader (text : List Char) : Bool :=
  match dropPrefix? "entity".toList text with
  | some [] => true
  | some (c :: _) => (isBlank c || c == '{') && !text.contains ':'
  | none => false

def headerName? (text : List Char) : Option (List Char) :=
  match dropPrefix? "entity".toList text with
  | some (c :: rest) =>
      if isBlank c then
        let rest := trimStart rest
        let name := rest.takeWhile isNameChar
        if name ≠ [] && trimStart (rest.dropWhile isNameChar) = ['{'] then some name else none
      else none
  | _ => none

def reservedNames : List String := ScalarKind.all.map ScalarKind.token ++ ["enum", "entity"]

structure Headers where
  entities : List Entity := []
  errors : List Diagnostic := []
deriving Repr, DecidableEq

def Headers.register (headers : Headers) (statement : Statement) : Headers × Option String :=
  let refuse (problem : Problem) : Headers × Option String :=
    ({ headers with errors := headers.errors ++ [⟨statement.line, problem⟩] }, none)
  match headerName? statement.text with
  | none => refuse .badHeader
  | some name =>
      let name := String.ofList name
      if name ∈ reservedNames then refuse (.reservedName name)
      else
        match entity? headers.entities name with
        | some first => refuse (.repeatedEntity name first.line)
        | none =>
            ({ headers with entities := headers.entities ++ [⟨name, [], statement.line⟩] }, some name)

structure Mark where
  statement : Statement
  entity : Option String
deriving Repr, DecidableEq

/-- The first pass: every entity becomes known, so that references can point forward. -/
def markHeaders : Headers → List Statement → Headers × List Mark
  | headers, [] => (headers, [])
  | headers, statement :: rest =>
      let (headers, name) :=
        if isHeader statement.text then headers.register statement else (headers, none)
      let (final, marks) := markHeaders headers rest
      (final, ⟨statement, name⟩ :: marks)

structure Block where
  line : Nat
  entity : Option String
deriving Repr, DecidableEq

structure ReadState where
  entities : List Entity
  block : Option Block := none
  errors : List Diagnostic := []
deriving Repr, DecidableEq

namespace ReadState

def report (state : ReadState) (line : Nat) (problem : Problem) : ReadState :=
  { state with errors := state.errors ++ [⟨line, problem⟩] }

def reportOpen (state : ReadState) : ReadState :=
  match state.block with
  | none => state
  | some ⟨line, none⟩ => state.report line .unclosedBlock
  | some ⟨line, some entity⟩ => state.report line (.unclosedEntity entity)

def readField (state : ReadState) (owner : String) (statement : Statement) : ReadState :=
  let line := statement.line
  let name := String.ofList (trim (statement.text.takeWhile (· ≠ ':')))
  if !isName name.toList then state.report line (.badFieldName name)
  else
    match (entity? state.entities owner).bind (·.field? name) with
    | some first => state.report line (.repeatedField name owner first.line)
    | none =>
        let clauses := splitOutside '@' 0 ((statement.text.dropWhile (· ≠ ':')).drop 1)
        match resolveType (state.entities.map (·.name)) (clauses.headD []) with
        | .error fault => state.report line (.badType fault)
        | .ok type =>
            let (modifiers, problems) := readClauses clauses.tail
            { state with
              entities := updateEntity state.entities owner
                fun entity => { entity with fields := entity.fields ++ [⟨name, type, modifiers, line⟩] }
              errors := state.errors ++ problems.map (⟨line, ·⟩) }

/-- The second pass reads one more statement. What stands in a rejected block is skipped quietly. -/
def step (state : ReadState) (mark : Mark) : ReadState :=
  let text := mark.statement.text
  let line := mark.statement.line
  if isHeader text then { state.reportOpen with block := some ⟨line, mark.entity⟩ }
  else if text = ['}'] then
    let state := if state.block.isSome then state else state.report line .strayClose
    { state with block := none }
  else if text.contains ':' then
    match state.block with
    | none => state.report line .fieldOutsideBlock
    | some ⟨_, none⟩ => state
    | some ⟨_, some owner⟩ => state.readField owner mark.statement
  else
    match state.block with
    | some ⟨_, none⟩ => state
    | _ => state.report line (.unrecognized (String.ofList text))

end ReadState

/-- Reads a schema text. Whatever is not understood is reported and left out: a bad header with its block,
a bad field, an unknown modifier. Diagnostics come in order of their lines. -/
def Schema.parse (identifier : String) (source : List Char) : Schema :=
  let (headers, marks) := markHeaders {} (scan source)
  let state := (marks.foldl ReadState.step { entities := headers.entities }).reportOpen
  let (entities, dropped) := checkReferences state.entities
  { entities
    errors := (headers.errors ++ state.errors ++ dropped).mergeSort (·.line ≤ ·.line)
    identifier }

end Schematic
