import Schematic.Json.Value
import Schematic.Number.Shortest
import Schematic.Text.Quoted

set_option autoImplicit false

namespace Schematic.Json

def quotedGlyph (mark : Char) : Glyph → List Char
  | .char c => Text.quotedChar mark c
  | .half unit => '\\' :: 'u' :: hexDigits 4 unit

def quotedGlyphs (glyphs : List Glyph) : String :=
  let mark := Text.markFor (glyphs.filterMap Glyph.char?)
  String.ofList (mark :: glyphs.flatMap (quotedGlyph mark) ++ [mark])

mutual
/-- The form in which values appear in messages: texts in quotation marks, and words with capitals. -/
def display : Json → String
  | .null => "None"
  | .bool value => if value then "True" else "False"
  | .int value => toString value
  | .float value => value.text
  | .str text => Text.quoted text
  | .loose glyphs => quotedGlyphs glyphs
  | .arr items => "[" ++ ", ".intercalate (displayItems items) ++ "]"
  | .obj members => "\x7b" ++ ", ".intercalate (displayMembers members) ++ "\x7d"
def displayItems : List Json → List String
  | [] => []
  | item :: rest => display item :: displayItems rest
def displayMembers : List (String × Json) → List String
  | [] => []
  | (key, value) :: rest => (Text.quoted key ++ ": " ++ display value) :: displayMembers rest
end

/-- As `display`, but a text on its own stands without quotation marks. -/
def plain : Json → String
  | .str text => text
  | .loose glyphs => Glyph.shownText glyphs
  | value => display value

end Schematic.Json
