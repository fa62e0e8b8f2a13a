import Schematic.Json.Value

set_option autoImplicit false

namespace Schematic

inductive JsonFault where
  | value | name | colon | comma | openString | control | badEscape | unicodeEscape | extra
deriving Repr, DecidableEq

def JsonFault.message : JsonFault → String
  | value => "Expecting value"
  | name => "Expecting property name enclosed in double quotes"
  | colon => "Expecting ':' delimiter"
  | comma => "Expecting ',' delimiter"
  | openString => "Unterminated string starting at"
  | control => "Invalid control character at"
  | badEscape => "Invalid \\escape"
  | unicodeEscape => "Invalid \\uXXXX escape"
  | extra => "Extra data"

structure JsonStop where
  fault : JsonFault
  rest : List Char

namespace Json

abbrev Read (α : Type) := Except JsonStop (α × List Char)

def stop {α : Type} (fault : JsonFault) (rest : List Char) : Read α := .error ⟨fault, rest⟩

def skipSpace (text : List Char) : List Char :=
  text.dropWhile fun c => c == ' ' || c == '\t' || c == '\n' || c == '\r'

def hexValue? (c : Char) : Option Nat :=
  if '0' ≤ c ∧ c ≤ '9' then some (c.toNat - 48)
  else if 'a' ≤ c ∧ c ≤ 'f' then some (c.toNat - 87)
  else if 'A' ≤ c ∧ c ≤ 'F' then some (c.toNat - 55)
  else none

def hexUnit? : List Char → Option (Nat × List Char)
  | a :: b :: c :: d :: e :: rest => do
      let a ← hexValue? a
      let b ← hexValue? b
      let c ← hexValue? c
      let d ← hexValue? d
      some (((a * 16 + b) * 16 + c) * 16 + d, e :: rest)
  | _ => none

def escapeChar? : Char → Option Char
  | '"' => some '"'
  | '\\' => some '\\'
  | '/' => some '/'
  | 'b' => some '\x08'
  | 'f' => some '\x0c'
  | 'n' => some '\n'
  | 'r' => some '\r'
  | 't' => some '\t'
  | _ => none

/-- What a code unit stands for, with its second half where it is the first of a pair. A half that misses the other
one stands for itself. -/
def joinUnits (unit : Nat) (rest : List Char) : Glyph × List Char :=
  if 0xD800 ≤ unit ∧ unit < 0xDC00 then
    match rest with
    | '\\' :: 'u' :: more =>
        match hexUnit? more with
        | some (low, after) =>
            if 0xDC00 ≤ low ∧ low < 0xE000 then
              (.char (Char.ofNat (0x10000 + (unit - 0xD800) * 1024 + (low - 0xDC00))), after)
            else (.half unit, rest)
        | none => (.half unit, rest)
    | _ => (.half unit, rest)
  else if 0xDC00 ≤ unit ∧ unit < 0xE000 then (.half unit, rest)
  else (.char (Char.ofNat unit), rest)

/-- The rest of a string after its opening mark. `start` is the text from that mark on. -/
def readString (start : List Char) : Nat → List Glyph → List Char → Read (List Glyph)
  | 0, _, _ => stop .openString start
  | _ + 1, _, [] => stop .openString start
  | _ + 1, done, '"' :: rest => .ok (done.reverse, rest)
  | _ + 1, _, ['\\'] => stop .openString start
  | fuel + 1, done, '\\' :: 'u' :: rest =>
      match hexUnit? rest with
      | some (unit, after) =>
          let (glyph, after) := joinUnits unit after
          readString start fuel (glyph :: done) after
      | none => stop .unicodeEscape ('u' :: rest)
  | fuel + 1, done, '\\' :: c :: rest =>
      match escapeChar? c with
      | some c => readString start fuel (.char c :: done) rest
      | none => stop .badEscape ('\\' :: c :: rest)
  | fuel + 1, done, c :: rest =>
      if c.toNat < 32 then stop .control (c :: rest) else readString start fuel (.char c :: done) rest

def digitsOf (text : List Char) : Nat := text.foldl (fun n c => n * 10 + (c.toNat - 48)) 0

def readFraction : List Char → List Char × List Char
  | '.' :: rest => (rest.takeWhile Char.isDigit, rest.dropWhile Char.isDigit)
  | _ => ([], [])

def readExponent : List Char → Option (Int × List Char)
  | c :: rest =>
      if c == 'e' || c == 'E' then
        let (negative, rest) :=
          match rest with
          | '-' :: rest => (true, rest)
          | '+' :: rest => (false, rest)
          | rest => (false, rest)
        let digits := rest.takeWhile Char.isDigit
        if digits = [] then none
        else
          let size : Int := digitsOf (digits.dropWhile (· == '0') |>.take 9)
          some (if negative then -size else size, rest.dropWhile Char.isDigit)
      else none
  | [] => none

def readNumber? (text : List Char) : Option (Json × List Char) :=
  let (negative, body) :=
    match text with
    | '-' :: rest => (true, rest)
    | rest => (false, rest)
  let whole :=
    match body with
    | '0' :: _ => ['0']
    | rest => rest.takeWhile Char.isDigit
  if whole = [] then none
  else
    let rest := body.drop whole.length
    let (fraction, afterFraction) := readFraction rest
    let rest := if fraction = [] then rest else afterFraction
    match readExponent rest, fraction with
    | none, [] =>
        let size : Int := digitsOf whole
        some (.int (if negative then -size else size), rest)
    | none, _ =>
        some (.float (.ofDecimal negative (digitsOf (whole ++ fraction)) (-fraction.length)), rest)
    | some (exponent, after), _ =>
        some (.float (.ofDecimal negative (digitsOf (whole ++ fraction)) (exponent - fraction.length)), after)

def words : List (String × Json) :=
  [("null", .null), ("true", .bool true), ("false", .bool false), ("NaN", .float .nan),
    ("Infinity", .float (.infinite false)), ("-Infinity", .float (.infinite true))]

def readWord? (text : List Char) : Option (Json × List Char) :=
  words.findSome? fun (word, value) =>
    if word.toList.isPrefixOf text then some (value, text.drop word.length) else none

mutual
def readValue : Nat → List Char → Read Json
  | 0, text => stop .value text
  | fuel + 1, text =>
      match text with
      | '"' :: rest => (readString text (rest.length + 1) [] rest).map fun (glyphs, rest) => (ofGlyphs glyphs, rest)
      | '{' :: rest =>
          match skipSpace rest with
          | '}' :: rest => .ok (.obj [], rest)
          | rest => readMembers fuel [] rest
      | '[' :: rest =>
          match skipSpace rest with
          | ']' :: rest => .ok (.arr [], rest)
          | rest => readItems fuel [] rest
      | _ =>
          match readWord? text with
          | some found => .ok found
          | none =>
              match readNumber? text with
              | some found => .ok found
              | none => stop .value text
def readItems : Nat → List Json → List Char → Read Json
  | 0, _, text => stop .value text
  | fuel + 1, done, text =>
      match readValue fuel text with
      | .error fault => .error fault
      | .ok (value, rest) =>
          match skipSpace rest with
          | ']' :: rest => .ok (.arr (value :: done).reverse, rest)
          | ',' :: rest => readItems fuel (value :: done) (skipSpace rest)
          | rest => stop .comma rest
def readMembers : Nat → List (String × Json) → List Char → Read Json
  | 0, _, text => stop .value text
  | fuel + 1, done, text =>
      match text with
      | '"' :: rest =>
          match readString text (rest.length + 1) [] rest with
          | .error fault => .error fault
          | .ok (glyphs, rest) =>
              match skipSpace rest with
              | ':' :: rest =>
                  match readValue fuel (skipSpace rest) with
                  | .error fault => .error fault
                  | .ok (value, rest) =>
                      let done := putMember done (Glyph.shownText glyphs) value
                      match skipSpace rest with
                      | '}' :: rest => .ok (.obj done, rest)
                      | ',' :: rest => readMembers fuel done (skipSpace rest)
                      | rest => stop .comma rest
              | rest => stop .colon rest
      | rest => stop .name rest
end

/-- Reads a whole text. A fault comes with its place, counted in characters. Left out are the limits that an interpreter
sets to the depth of values and to the digits of a whole number, and the errors that go with them. -/
def read (text : List Char) : Except (JsonFault × Nat) Json :=
  let place (rest : List Char) : Nat := text.length - rest.length
  match readValue (2 * text.length + 2) (skipSpace text) with
  | .error ⟨fault, rest⟩ => .error (fault, place rest)
  | .ok (value, rest) =>
      match skipSpace rest with
      | [] => .ok value
      | rest => .error (.extra, place rest)

def withoutMark : List Char → List Char
  | '\uFEFF' :: rest => rest
  | rest => rest

/-- A fault with its line and column, both counted from one. -/
def faultMessage (text : List Char) (fault : JsonFault) (place : Nat) : String :=
  let before := text.take place
  let line := before.count '\n' + 1
  let column := (before.reverse.takeWhile (· ≠ '\n')).length + 1
  fault.message ++ ": line " ++ toString line ++ " column " ++ toString column ++ " (char " ++ toString place ++
    ")"

end Json

end Schematic
