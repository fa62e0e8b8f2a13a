import Schematic.Basic
import Schematic.Json.Reader
import Schematic.Record.Check
import Schematic.Text.LowerCase

set_option autoImplicit false

namespace Schematic

namespace Text

def percentBytes : List Char → List UInt8
  | [] => []
  | '%' :: high :: low :: rest =>
      match Json.hexValue? high, Json.hexValue? low with
      | some h, some l => UInt8.ofNat (16 * h + l) :: percentBytes rest
      | _, _ => '%'.toUInt8 :: percentBytes (high :: low :: rest)
  | c :: rest => (String.ofList [c]).toUTF8.toList ++ percentBytes rest

/-- The text that bytes spell. If they spell none, each byte beyond ASCII counts as an unknown character. -/
def ofBytes (bytes : List UInt8) : List Char :=
  match String.fromUTF8? ⟨bytes.toArray⟩ with
  | some text => text.toList
  | none => bytes.map fun byte => if byte < 0x80 then Char.ofNat byte.toNat else '\uFFFD'

def unescapePercent (text : List Char) : List Char := ofBytes (percentBytes text)

end Text

namespace Http

structure Request where
  method : String
  target : String
  headers : List (String × String) := []
  content : String := ""
deriving Repr

inductive Payload where
  | absent
  | value (json : Json)
  /-- Content that is not declared as a value. -/
  | raw
  /-- Content that is declared as a value and is none from a place on. -/
  | malformed (place : Nat)
deriving Repr

def lowered (text : String) : String := String.ofList (Text.lower text.toList)

def isJsonType (value : String) : Bool :=
  let kind := Text.lower (Text.trim (value.toList.takeWhile (· ≠ ';')))
  match (Text.splitOn '/' kind).map String.ofList with
  | ["application", subtype] => subtype = "json" || subtype.endsWith "+json"
  | _ => false

namespace Request

def header? (request : Request) (name : String) : Option String :=
  (request.headers.find? fun header => lowered header.1 = name).map (·.2)

def principal? (request : Request) : Option String := request.header? "x-principal-id"

def payload (request : Request) : Payload :=
  if request.content = "" then .absent
  else if !((request.header? "content-type").any isJsonType) then .raw
  else
    match Json.read (Json.withoutMark request.content.toList) with
    | .ok .null => .absent
    | .ok value => .value value
    | .error (_, place) => .malformed place

def path (request : Request) : List Char :=
  let written := request.target.toList.takeWhile fun c => c ≠ '?' && c ≠ '#'
  '/' :: Text.unescapePercent (Text.unescapePercent (written.dropWhile (· == '/')))

end Request

end Http

end Schematic
