import Schematic.Basic
import Schematic.Graph.Schema

set_option autoImplicit false

namespace Schematic

open Text

def isNameChar (c : Char) : Bool := c.isAlphanum || c == '_'

def isName (text : List Char) : Bool := text ≠ [] && text.all isNameChar

def dropPrefix? : List Char → List Char → Option (List Char)
  | [], text => some text
  | _ :: _, [] => none
  | p :: pfx, c :: text => if p = c then dropPrefix? pfx text else none

def parenthesized? : List Char → Option (List Char)
  | '(' :: rest => if rest.getLast? = some ')' then some rest.dropLast else none
  | _ => none

/-- The values of an enumeration as written. They stay on one line, and a single line feed may follow. -/
def enumBody? (text : List Char) : Option (List Char) :=
  (dropPrefix? "enum".toList text).bind fun rest =>
    let list := trimStart rest
    (parenthesized? (if list.getLast? = some '\n' then list.dropLast else list)).filter (!·.contains '\n')

def firstRepeated? : List String → List String → Option String
  | _, [] => none
  | seen, value :: rest => if value ∈ seen then some value else firstRepeated? (value :: seen) rest

def enumValues (body : List Char) : Except TypeFault (List String) :=
  let values := (splitOn ',' body).map fun value => String.ofList (trim value)
  if values = [""] then .error .enumEmpty
  else if "" ∈ values then .error .enumBlankValue
  else
    match firstRepeated? [] values with
    | some value => .error (.enumRepeated value)
    | none => .ok values

def classify (entities : List String) (word : List Char) (field : Option String) (isArray : Bool) :
    Except TypeFault FieldType :=
  let token := String.ofList word
  match enumBody? word with
  | some body =>
      if field.isSome then .error (.enumQualified token)
      else (enumValues body).map (⟨.enum ·, isArray⟩)
  | none =>
      match ScalarKind.ofToken? token with
      | some kind =>
          if field.isSome then .error (.scalarQualified token) else .ok ⟨.scalar kind, isArray⟩
      | none =>
          if token ∈ entities then .ok ⟨.ref token field, isArray⟩ else .error (.unknown token)

def splitArrayMark (text : List Char) : List Char × Bool :=
  if "[]".toList.isSuffixOf text then (trim (text.take (text.length - 2)), true) else (text, false)

/-- The type that an expression stands for: a scalar word, an enumeration, or an entity with perhaps one
of its fields. Each may be followed by the array mark. -/
def resolveType (entities : List String) (expression : List Char) : Except TypeFault FieldType :=
  let text := trim expression
  if text = [] then .error .missing
  else
    let (word, isArray) := splitArrayMark text
    if (enumBody? word).isSome then classify entities word none isArray
    else
      match splitOn '.' word with
      | [base] =>
          let base := trim base
          if isName base then classify entities base none isArray else .error (.unknown (String.ofList base))
      | [base, field] =>
          let base := trim base
          let field := trim field
          if !isName field then .error (.badQualifier (String.ofList word) (String.ofList field))
          else if !isName base then .error (.unknown (String.ofList base))
          else classify entities base (some (String.ofList field)) isArray
      | _ => .error (.tooManyParts (String.ofList word))

end Schematic
