import Schematic.Number.Shortest

set_option autoImplicit false

namespace Schematic

inductive Literal where
  | null
  | text (value : String)
  | int (value : Int)
  | float (value : Binary64)
deriving Repr, DecidableEq

inductive Piece where
  | raw (text : String)
  | name (text : String)
  | literal (value : Literal)
deriving Repr, DecidableEq

abbrev Statement.Pieces := List Piece

/-- The server accepts no NUL in a text. -/
inductive LiteralFault where
  | nul
deriving Repr, DecidableEq

def LiteralFault.message : LiteralFault → String
  | nul => "PostgreSQL text fields cannot contain NUL (0x00) bytes"

namespace Ddl

def doubled (mark : Char) (text : List Char) : List Char :=
  text.flatMap fun c => if c = mark then [c, c] else [c]

def quoteName (name : String) : String := String.ofList ('"' :: doubled '"' name.toList ++ ['"'])

/-- Texts stand in apostrophes; one with a backslash is marked as escaped, after a space. -/
def quoteText (text : String) : String :=
  let body := doubled '\x27' text.toList
  if body.contains '\\' then
    String.ofList (' ' :: 'E' :: '\x27' :: doubled '\\' body ++ ['\x27'])
  else String.ofList ('\x27' :: body ++ ['\x27'])

/-- A space keeps a negative number apart from what comes before it. -/
def quoteFloat : Binary64 → String
  | .nan => "'NaN'::float8"
  | .infinite negative => if negative then "'-Infinity'::float8" else "'Infinity'::float8"
  | .finite negative mantissa exponent =>
      let value := Binary64.finite negative mantissa exponent
      if negative && mantissa ≠ 0 then " " ++ value.text else value.text

def renderLiteral : Literal → Except LiteralFault String
  | .null => .ok "NULL"
  | .text value => if value.toList.contains '\x00' then .error .nul else .ok (quoteText value)
  | .int value => .ok (if value < 0 then " " ++ toString value else toString value)
  | .float value => .ok (quoteFloat value)

def renderPiece : Piece → Except LiteralFault String
  | .raw text => .ok text
  | .name text => .ok (quoteName text)
  | .literal value => renderLiteral value

def render (pieces : Statement.Pieces) : Except LiteralFault String :=
  (pieces.mapM renderPiece).map String.join

end Ddl

end Schematic
