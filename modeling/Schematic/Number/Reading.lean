import Schematic.Basic
import Schematic.Number.Binary64
import Schematic.Text.Quoted

set_option autoImplicit false

namespace Schematic

open Text

inductive NumberFault where
  | notInt (text : String)
  | notFloat (text : String)
deriving Repr, DecidableEq

def NumberFault.message : NumberFault → String
  | notInt text => "invalid literal for int() with base 10: " ++ quoted text
  | notFloat text => "could not convert string to float: " ++ quoted text

/-- Blanks that may surround a number: the ASCII separators are not among them. -/
def isNumberSpace (c : Char) : Bool := isBlank c && !('\x1c' ≤ c && c ≤ '\x1f')

def asciiNumber (text : List Char) : List Char :=
  let inner := (text.dropWhile isNumberSpace).reverse.dropWhile isNumberSpace |>.reverse
  inner.map fun c => ((digitValue? c).map fun value => Char.ofNat (48 + value)).getD c

def withoutGroups (before : Char) : List Char → List Char
  | [] => []
  | c :: rest =>
      if c = '_' ∧ before.isDigit ∧ (rest.head?.any Char.isDigit) then withoutGroups c rest
      else c :: withoutGroups c rest

def splitSign : List Char → Bool × List Char
  | '-' :: rest => (true, rest)
  | '+' :: rest => (false, rest)
  | rest => (false, rest)

def decimalValue (digits : List Char) : Nat := digits.foldl (fun n c => n * 10 + (c.toNat - 48)) 0

/-- Reads a whole number: perhaps a sign, then digits, which single underscores may group. -/
def readInt (text : String) : Except NumberFault Int :=
  let (negative, digits) := splitSign (withoutGroups ' ' (asciiNumber text.toList))
  if digits ≠ [] && digits.all Char.isDigit then
    let size : Int := decimalValue digits
    .ok (if negative then -size else size)
  else .error (.notInt text)

def exponent? : List Char → Option Int
  | [] => some 0
  | c :: rest =>
      let (negative, digits) := splitSign rest
      if (c == 'e' || c == 'E') && digits ≠ [] && digits.all Char.isDigit then
        let size : Int := decimalValue (digits.dropWhile (· == '0') |>.take 9)
        some (if negative then -size else size)
      else none

def readFloat (text : String) : Except NumberFault Binary64 :=
  let (negative, body) := splitSign (withoutGroups ' ' (asciiNumber text.toList))
  match String.ofList (body.map Char.toLower) with
  | "inf" | "infinity" => .ok (.infinite negative)
  | "nan" => .ok .nan
  | _ =>
      let whole := body.takeWhile Char.isDigit
      let (fraction, rest) :=
        match body.dropWhile Char.isDigit with
        | '.' :: rest => (rest.takeWhile Char.isDigit, rest.dropWhile Char.isDigit)
        | rest => ([], rest)
      if whole = [] && fraction = [] then .error (.notFloat text)
      else
        match exponent? rest with
        | none => .error (.notFloat text)
        | some exponent =>
            .ok (.ofDecimal negative (decimalValue (whole ++ fraction)) (exponent - fraction.length))

end Schematic
