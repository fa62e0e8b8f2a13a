import Schematic.Basic
import Schematic.Source.Nesting
import Schematic.Text.Quoted

set_option autoImplicit false

namespace Schematic

open Text

/-- A default can be written between parentheses and read back: it is not empty, has no blanks at its
ends, stays on one line, and its parentheses match. -/
def isRenderable (value : List Char) : Bool :=
  value ≠ [] && value = trim value && !value.contains '\n' && balanced 0 value

structure DefaultText where
  text : String
  renderable : isRenderable text.toList = true
deriving Repr, DecidableEq

def DefaultText.ofString? (text : String) : Option DefaultText :=
  if renderable : isRenderable text.toList = true then some ⟨text, renderable⟩ else none

def unrenderableMessage (value : String) : String :=
  "Default value " ++ quoted value ++ " cannot be written as @default(...)"

structure Modifiers where
  isPrimary : Bool := false
  isUnique : Bool := false
  isIndex : Bool := false
  isNullable : Bool := true
  defaultText : Option DefaultText := none
deriving Repr, DecidableEq

end Schematic
