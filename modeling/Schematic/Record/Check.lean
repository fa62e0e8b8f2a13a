import Schematic.Json.Value
import Schematic.Number.Reading

set_option autoImplicit false

namespace Schematic

inductive Refusal where
  | missing
  | stringType | stringTooLong | stringTooShort | stringUnicode
  | intType | intParsing | intFromFloat | intTooLarge | finiteNumber
  | boolType | boolParsing
  | listType
  | enumValue
  | timeType | timeParsing | timeRange
  | objectType
  | jsonInvalid
deriving Repr, DecidableEq

def Refusal.text : Refusal → String
  | missing => "missing"
  | stringType => "string_type"
  | stringTooLong => "string_too_long"
  | stringTooShort => "string_too_short"
  | stringUnicode => "string_unicode"
  | intType => "int_type"
  | intParsing => "int_parsing"
  | intFromFloat => "int_from_float"
  | intTooLarge => "int_parsing_size"
  | finiteNumber => "finite_number"
  | boolType => "bool_type"
  | boolParsing => "bool_parsing"
  | listType => "list_type"
  | enumValue => "enum"
  | timeType => "datetime_type"
  | timeParsing => "datetime_from_date_parsing"
  | timeRange => "datetime_parsing"
  | objectType => "model_attributes_type"
  | jsonInvalid => "json_invalid"

inductive Step where
  | key (name : String)
  | index (place : Nat)
deriving Repr, DecidableEq

structure Complaint where
  path : List Step
  refusal : Refusal
deriving Repr, DecidableEq

inductive Checked (α : Type) where
  | ok (value : α)
  | refused (complaints : List Complaint)
deriving Repr, DecidableEq

namespace Checked

def map {α β : Type} (f : α → β) : Checked α → Checked β
  | ok value => ok (f value)
  | refused complaints => refused complaints

def both {α β : Type} (f : Checked (α → β)) (a : Checked α) : Checked β :=
  match f, a with
  | ok f, ok a => ok (f a)
  | ok _, refused late => refused late
  | refused early, ok _ => refused early
  | refused early, refused late => refused (early ++ late)

instance : Pure Checked := ⟨ok⟩
instance : Functor Checked := { map := map }
instance : Seq Checked := ⟨fun f a => both f (a ())⟩

def complain {α : Type} (refusal : Refusal) : Checked α := refused [⟨[], refusal⟩]

def within {α : Type} (step : Step) : Checked α → Checked α
  | ok value => ok value
  | refused complaints => refused (complaints.map fun complaint => { complaint with path := step :: complaint.path })

def complaints {α : Type} : Checked α → List Complaint
  | ok _ => []
  | refused complaints => complaints

def toExcept {α : Type} : Checked α → Except (List Complaint) α
  | ok value => .ok value
  | refused complaints => .error complaints

end Checked

abbrev Reading (α : Type) := Json → Checked α

/-- A text of a request. One with halves of surrogate pairs has no encoding, which shows only where it is measured
or sent on. -/
inductive Wording where
  | text (value : String)
  | loose (glyphs : List Glyph)
deriving Repr, DecidableEq

def Wording.json : Wording → Json
  | .text value => .str value
  | .loose glyphs => .loose glyphs

namespace Reading

/-- A text of at most `limit` characters. Where they are counted they have to be characters. -/
def text (limit : Option Nat) : Reading String
  | .str value =>
      if limit.any (· < value.length) then .complain .stringTooLong else .ok value
  | .loose glyphs => if limit.isSome then .complain .stringUnicode else .ok (Glyph.shownText glyphs)
  | _ => .complain .stringType

def filledText (limit : Option Nat) : Reading String
  | .str value => if value = "" then .complain .stringTooShort else text limit (.str value)
  | .loose _ => .complain .stringUnicode
  | _ => .complain .stringType

def wording : Reading Wording
  | .str value => .ok (.text value)
  | .loose glyphs => .ok (.loose glyphs)
  | _ => .complain .stringType

/-- A fraction of zeros says nothing about a whole number. -/
def withoutZeroFraction (digits : List Char) : List Char :=
  match digits.dropWhile (· ≠ '.') with
  | '.' :: fraction => if fraction.all (· == '0') then digits.takeWhile (· ≠ '.') else digits
  | _ => digits

/-- A whole number as a text: a sign and digits in groups, perhaps with blanks around and a fraction of
zeros. -/
def wholeText? (value : String) : Option Int :=
  let (negative, digits) := splitSign (Text.trim value.toList)
  let digits := withoutGroups ' ' (withoutZeroFraction digits)
  if digits ≠ [] && digits.all Char.isDigit then
    let size : Int := decimalValue digits
    some (if negative then -size else size)
  else none

def fitsWord (value : Int) : Bool := value.natAbs < Nat.pow 2 63

/-- A whole number, also where it is written as a text, a truth value or a number with a zero fraction. -/
def int : Reading Int
  | .int value => .ok value
  | .bool value => .ok (if value then 1 else 0)
  | .float (.finite negative mantissa exponent) =>
      match (Binary64.finite negative mantissa exponent).toInt? with
      | some value => if fitsWord value then .ok value else .complain .intTooLarge
      | none => .complain .intFromFloat
  | .float _ => .complain .finiteNumber
  | .str value =>
      match wholeText? value with
      | some value => .ok value
      | none => .complain .intParsing
  | _ => .complain .intType

def boolOfInt : Int → Checked Bool
  | 0 => .ok false
  | 1 => .ok true
  | _ => .complain .boolParsing

def bool : Reading Bool
  | .bool value => .ok value
  | .int value => boolOfInt value
  | .float value =>
      match value.toInt? with
      | some value => if fitsWord value then boolOfInt value else .complain .boolType
      | none => .complain .boolType
  | .str value =>
      let word := String.ofList (value.toList.map Char.toLower)
      if word ∈ ["1", "on", "t", "true", "y", "yes"] then .ok true
      else if word ∈ ["0", "off", "f", "false", "n", "no"] then .ok false
      else .complain .boolParsing
  | _ => .complain .boolType

def word {α : Type} (ofText? : String → Option α) : Reading α
  | .str value =>
      match ofText? value with
      | some value => .ok value
      | none => .complain .enumValue
  | _ => .complain .enumValue

def optional {α : Type} (read : Reading α) : Reading (Option α)
  | .null => .ok none
  | value => (read value).map some

def itemsFrom {α : Type} (read : Reading α) (place : Nat) : List Json → Checked (List α)
  | [] => .ok []
  | item :: rest => .both (((read item).within (.index place)).map List.cons) (itemsFrom read (place + 1) rest)

def list {α : Type} (read : Reading α) : Reading (List α)
  | .arr items => itemsFrom read 0 items
  | _ => .complain .listType

end Reading

def required {α : Type} (members : List (String × Json)) (key : String) (read : Reading α) : Checked α :=
  match members.lookup key with
  | some value => (read value).within (.key key)
  | none => (Checked.complain .missing).within (.key key)

def defaulted {α : Type} (members : List (String × Json)) (key : String) (read : Reading α) (fallback : α) :
    Checked α :=
  match members.lookup key with
  | some value => (read value).within (.key key)
  | none => .ok fallback

def overlong (key : String) (limit : Nat) (value : String) : List Complaint :=
  if limit < value.length then [⟨[.key key], .stringTooLong⟩] else []

end Schematic
