import Schematic.Basic
import Schematic.Json.Value
import Schematic.Number.Shortest

set_option autoImplicit false

namespace Schematic

namespace Json

def escapeUnit (unit : Nat) : List Char := '\\' :: 'u' :: hexDigits 4 unit

/-- Everything but visible ASCII is escaped, beyond the first plane as a pair. -/
def escape (c : Char) : List Char :=
  match c with
  | '"' => ['\\', '"']
  | '\\' => ['\\', '\\']
  | '\n' => ['\\', 'n']
  | '\r' => ['\\', 'r']
  | '\t' => ['\\', 't']
  | '\x0c' => ['\\', 'f']
  | '\x08' => ['\\', 'b']
  | c =>
      if ' ' ≤ c ∧ c ≤ '~' then [c]
      else if c.toNat < 0x10000 then escapeUnit c.toNat
      else
        let offset := c.toNat - 0x10000
        escapeUnit (0xD800 + offset / 1024) ++ escapeUnit (0xDC00 + offset % 1024)

def quote (text : String) : String := String.ofList ('"' :: text.toList.flatMap escape ++ ['"'])

def escapeGlyph : Glyph → List Char
  | .char c => escape c
  | .half unit => escapeUnit unit

def floatText : Binary64 → String
  | .nan => "NaN"
  | .infinite negative => if negative then "-Infinity" else "Infinity"
  | value => value.text

mutual
def write : Json → String
  | .null => "null"
  | .bool value => if value then "true" else "false"
  | .int value => toString value
  | .float value => floatText value
  | .str text => quote text
  | .loose glyphs => String.ofList ('"' :: glyphs.flatMap escapeGlyph ++ ['"'])
  | .arr items => "[" ++ ", ".intercalate (writeItems items) ++ "]"
  | .obj members => "\x7b" ++ ", ".intercalate (writeMembers members) ++ "\x7d"
def writeItems : List Json → List String
  | [] => []
  | item :: rest => write item :: writeItems rest
def writeMembers : List (String × Json) → List String
  | [] => []
  | (key, value) :: rest => (quote key ++ ": " ++ write value) :: writeMembers rest
end

end Json

end Schematic
