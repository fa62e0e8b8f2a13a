import Schematic.Graph.Relation

set_option autoImplicit false

namespace Schematic

inductive DiagnosticKind where
  | syntaxError | typeError | referential
deriving Repr, DecidableEq

def DiagnosticKind.text : DiagnosticKind → String
  | .syntaxError => "syntax"
  | .typeError => "type"
  | .referential => "referential"

inductive TypeFault where
  | missing
  | unknown (name : String)
  | enumEmpty
  | enumBlankValue
  | enumRepeated (value : String)
  | enumQualified (expression : String)
  | scalarQualified (token : String)
  | tooManyParts (expression : String)
  | badQualifier (expression field : String)
deriving Repr, DecidableEq

namespace TypeFault

def subject : TypeFault → String
  | missing => ""
  | unknown name => name
  | enumEmpty | enumBlankValue | enumRepeated _ => "enum"
  | enumQualified expression => expression
  | scalarQualified token => token
  | tooManyParts expression => expression
  | badQualifier expression _ => expression

def message : TypeFault → String
  | missing => "Missing field type"
  | unknown name => "Unknown type \"" ++ name ++ "\""
  | enumEmpty => "Enum type requires at least one value"
  | enumBlankValue => "Enum type contains an empty value"
  | enumRepeated value => "Enum value \"" ++ value ++ "\" is declared more than once"
  | enumQualified _ => "Enum types cannot reference a field"
  | scalarQualified token => "Scalar type \"" ++ token ++ "\" cannot reference a field"
  | tooManyParts expression => "Invalid type reference \"" ++ expression ++ "\""
  | badQualifier _ field => "Invalid referenced field \"" ++ field ++ "\""

end TypeFault

inductive Problem where
  | badHeader
  | reservedName (entity : String)
  | repeatedEntity (entity : String) (first : Nat)
  | strayClose
  | fieldOutsideBlock
  | unrecognized (text : String)
  | unclosedBlock
  | unclosedEntity (entity : String)
  | badFieldName (name : String)
  | repeatedField (field entity : String) (first : Nat)
  | badType (fault : TypeFault)
  | badModifier (clause : String)
  | unknownModifier (name : String)
  | flagWithValue (name : String)
  | badNullable (value : String)
  | defaultWithoutValue
  | unbalancedDefault (value : String)
  | missingTarget (field entity : String)
  | tooLarge (size : Nat) (limit : Int)
  | relationSkipped (relation : Relation)
deriving Repr, DecidableEq

namespace Problem

def kind : Problem → DiagnosticKind
  | badType _ | missingTarget _ _ => .typeError
  | relationSkipped _ => .referential
  | _ => .syntaxError

def message : Problem → String
  | badHeader => "Invalid entity declaration"
  | reservedName entity => "Entity name \"" ++ entity ++ "\" is a reserved type name"
  | repeatedEntity entity first =>
      "Duplicate entity \"" ++ entity ++ "\" (first declared on line " ++ toString first ++ ")"
  | strayClose => "Unexpected '\x7d'"
  | fieldOutsideBlock => "Field declaration outside of an entity block"
  | unrecognized text => "Unrecognized statement \"" ++ text ++ "\""
  | unclosedBlock => "Entity block is missing a closing \"\x7d\""
  | unclosedEntity entity => "Entity \"" ++ entity ++ "\" is missing a closing \"\x7d\""
  | badFieldName name => "Invalid field name \"" ++ name ++ "\""
  | repeatedField field entity first =>
      "Duplicate field \"" ++ field ++ "\" in entity \"" ++ entity ++ "\" (first declared on line " ++
        toString first ++ ")"
  | badType fault => fault.message
  | badModifier clause => "Invalid modifier \"@" ++ clause ++ "\""
  | unknownModifier name => "Unknown modifier \"@" ++ name ++ "\""
  | flagWithValue name => "Modifier \"@" ++ name ++ "\" does not take a value"
  | badNullable value => "Invalid @nullable value \"" ++ value ++ "\" (expected true or false)"
  | defaultWithoutValue => "Modifier \"@default\" requires a value"
  | unbalancedDefault value => "Invalid @default value \"" ++ value ++ "\" (unbalanced parentheses)"
  | missingTarget field entity =>
      "Field \"" ++ field ++ "\" does not exist on entity \"" ++ entity ++ "\""
  | tooLarge size limit =>
      "Schema text is " ++ toString size ++ " bytes; the limit is " ++ toString limit
  | relationSkipped relation =>
      "Relation \"" ++ relation.name ++ "\" skipped: \"" ++ relation.toEntity ++ "." ++ relation.toField ++
        "\" does not exist"

end Problem

/-- A problem tied to a source line, zero when it belongs to none. -/
structure Diagnostic where
  line : Nat
  problem : Problem
deriving Repr, DecidableEq

def Diagnostic.text (diagnostic : Diagnostic) : String :=
  "Line " ++ toString diagnostic.line ++ ": " ++ diagnostic.problem.message

structure Schema where
  entities : List Entity := []
  errors : List Diagnostic := []
  identifier : String := "id"
deriving Repr, DecidableEq

namespace Schema

def isValid (schema : Schema) : Bool := schema.errors.isEmpty

/-- Relations are never stored with a schema: they follow from its reference fields. -/
def relations (schema : Schema) : List Relation := relationsOf schema.entities schema.identifier

end Schema

end Schematic
