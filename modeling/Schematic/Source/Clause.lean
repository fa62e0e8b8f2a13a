import Schematic.Graph.Modifiers
import Schematic.Source.TypeExpr

set_option autoImplicit false

namespace Schematic

open Text

structure Clause where
  word : List Char
  value : Option (List Char)
deriving Repr, DecidableEq

def isClauseChar (c : Char) : Bool := c.isAlpha || c == '_'

/-- A clause is a word, a word and a value in parentheses, or a word, an equals sign and a value. Clauses are parts of
one line, so nothing is said of line breaks in a value. -/
def Clause.read? (text : List Char) : Option Clause :=
  let word := text.takeWhile isClauseChar
  if word = [] then none
  else
    match trimStart (text.dropWhile isClauseChar) with
    | [] => some ⟨word, none⟩
    | '=' :: value => some ⟨word, some (trim value)⟩
    | rest => (parenthesized? rest).map fun value => ⟨word, some (trim value)⟩

structure ClauseState where
  modifiers : Modifiers := {}
  problems : List Problem := []
deriving Repr, DecidableEq

namespace ClauseState

def report (state : ClauseState) (problem : Problem) : ClauseState :=
  { state with problems := state.problems ++ [problem] }

/-- A flag counts even where a value is wrongly given to it. -/
def flag (state : ClauseState) (word : String) (value : Option (List Char))
    (set : Modifiers → Modifiers) : ClauseState :=
  let state := { state with modifiers := set state.modifiers }
  if value.getD [] = [] then state else state.report (.flagWithValue word)

def nullable (state : ClauseState) : Option (List Char) → ClauseState
  | none => { state with modifiers := { state.modifiers with isNullable := true } }
  | some value =>
      match String.ofList (value.map Char.toLower) with
      | "true" => { state with modifiers := { state.modifiers with isNullable := true } }
      | "false" => { state with modifiers := { state.modifiers with isNullable := false } }
      | _ => state.report (.badNullable (String.ofList value))

def default (state : ClauseState) (value : Option (List Char)) : ClauseState :=
  match value.getD [] with
  | [] => state.report .defaultWithoutValue
  | value =>
      match DefaultText.ofString? (String.ofList value) with
      | some text => { state with modifiers := { state.modifiers with defaultText := some text } }
      | none => state.report (.unbalancedDefault (String.ofList value))

/-- Takes one more clause into account. The last accepted value of a word wins. -/
def step (state : ClauseState) (text : List Char) : ClauseState :=
  let text := trim text
  match Clause.read? text with
  | none => state.report (.badModifier (String.ofList text))
  | some clause =>
      match String.ofList clause.word with
      | "primary" => state.flag "primary" clause.value fun modifiers => { modifiers with isPrimary := true }
      | "unique" => state.flag "unique" clause.value fun modifiers => { modifiers with isUnique := true }
      | "index" => state.flag "index" clause.value fun modifiers => { modifiers with isIndex := true }
      | "nullable" => state.nullable clause.value
      | "default" => state.default clause.value
      | word => state.report (.unknownModifier word)

end ClauseState

def Modifiers.settle (modifiers : Modifiers) : Modifiers :=
  { modifiers with isNullable := modifiers.isNullable && !modifiers.isPrimary }

def readClauses (clauses : List (List Char)) : Modifiers × List Problem :=
  let state := clauses.foldl ClauseState.step {}
  (state.modifiers.settle, state.problems)

end Schematic
