import Schematic.Basic
import Schematic.Number.Binary64

set_option autoImplicit false

namespace Schematic

/-- A place in a text of the interchange format: a character, or half of a surrogate pair on its own. -/
inductive Glyph where
  | char (c : Char)
  | half (unit : Nat)
deriving Repr, DecidableEq

namespace Glyph

def char? : Glyph → Option Char
  | char c => some c
  | half _ => none

def shown : Glyph → Char
  | char c => c
  | half _ => '\ufffd'

def shownText (glyphs : List Glyph) : String := String.ofList (glyphs.map shown)

/-- What is said of a text without an encoding. The halves that stand together first are to blame. -/
def unencodableMessage (glyphs : List Glyph) : String :=
  let place := (glyphs.takeWhile (·.char?.isSome)).length
  let blamed :=
    match (glyphs.drop place).takeWhile (·.char?.isNone) with
    | [.half unit] => "character '\\u" ++ String.ofList (hexDigits 4 unit) ++ "' in position " ++ toString place
    | halves => "characters in position " ++ toString place ++ "-" ++ toString (place + halves.length - 1)
  "'utf-8' codec can't encode " ++ blamed ++ ": surrogates not allowed"

end Glyph

/-- A value of the interchange format. Members of an object keep their order. -/
inductive Json where
  | null
  | bool (value : Bool)
  | int (value : Int)
  | float (value : Binary64)
  | str (value : String)
  /-- A text with halves of surrogate pairs in it. It has no encoding. -/
  | loose (glyphs : List Glyph)
  | arr (items : List Json)
  | obj (members : List (String × Json))
deriving Repr, Inhabited, BEq

namespace Json

def nat (value : Nat) : Json := .int value

def ofOption {α : Type} (encode : α → Json) : Option α → Json
  | none => .null
  | some value => encode value

def ofGlyphs (glyphs : List Glyph) : Json :=
  match glyphs.mapM Glyph.char? with
  | some text => .str (String.ofList text)
  | none => .loose glyphs

def optStr : Option String → Json := ofOption .str

def strs (values : List String) : Json := .arr (values.map .str)

def putMember (members : List (String × Json)) (key : String) (value : Json) : List (String × Json) :=
  putBy Prod.fst (key, value) members

def mergeMembers (base later : List (String × Json)) : List (String × Json) :=
  later.foldl (fun members member => putMember members member.1 member.2) base

def members : Json → List (String × Json)
  | obj members => members
  | _ => []

def items : Json → List Json
  | arr items => items
  | _ => []

def get? (value : Json) (key : String) : Option Json := value.members.lookup key

def str? : Json → Option String
  | str text => some text
  | _ => none

def shownText? : Json → Option String
  | str text => some text
  | loose glyphs => some (Glyph.shownText glyphs)
  | _ => none

def int? : Json → Option Int
  | int value => some value
  | _ => none

def isTrue : Json → Bool
  | bool true => true
  | _ => false

end Json

end Schematic
