import Schematic.Json.Display
import Schematic.Number.Fixed
import Schematic.Number.Reading

set_option autoImplicit false

namespace Schematic.Log

inductive FillFault where
  | mismatch
  | incomplete
  | incompleteKey
  | unsupported (conversion : Char) (place : Nat)
  | missingKey (key : String)
  | numberTooLarge
  | widthTooLarge
  | precisionTooLarge
  | noCharacter
deriving Repr, DecidableEq

def FillFault.message : FillFault → String
  | mismatch => ""
  | incomplete => "incomplete format"
  | incompleteKey => "incomplete format key"
  | unsupported c place =>
      let shown := if '\x1f' ≤ c ∧ c ≤ '~' then c else '?'
      "unsupported format character '" ++ String.ofList [shown] ++ "' (0x" ++
        String.ofList (hexDigits 1 c.toNat) ++ ") at index " ++ toString place
  | missingKey key => Text.quoted key
  | numberTooLarge => "int too large to convert to float"
  | widthTooLarge => "Python int too large to convert to C ssize_t"
  | precisionTooLarge => "Python int too large to convert to C int"
  | noCharacter => "%c arg not in range(0x110000)"

inductive Amount where
  | none
  | written (value : Nat)
  | taken
deriving Repr, DecidableEq

structure Directive where
  key : Option String := Option.none
  left : Bool := false
  plus : Bool := false
  space : Bool := false
  alternate : Bool := false
  zero : Bool := false
  width : Amount := .none
  precision : Amount := .none
  conversion : Char
  place : Nat
deriving Repr, DecidableEq

def readKey? : Nat → List Char → Option (List Char × List Char)
  | _, [] => none
  | depth, c :: rest =>
      let go (depth : Nat) := (readKey? depth rest).map fun (key, rest) => (c :: key, rest)
      match c with
      | '(' => go (depth + 1)
      | ')' => match depth with
          | 0 => some ([], rest)
          | depth + 1 => go depth
      | _ => go depth

def readAmount : List Char → Amount × List Char
  | '*' :: rest => (.taken, rest)
  | rest =>
      let digits := rest.takeWhile Char.isDigit
      (if digits = [] then .none else .written (decimalValue digits), rest.dropWhile Char.isDigit)

def readPrecision : List Char → Amount × List Char
  | '.' :: rest =>
      match readAmount rest with
      | (.none, rest) => (.written 0, rest)
      | found => found
  | rest => (.none, rest)

def readDirective (size : Nat) (rest : List Char) : Except FillFault (Directive × List Char) := do
  let (key, rest) ←
    match rest with
    | '(' :: rest =>
        match readKey? 0 rest with
        | some (key, rest) => .ok (some (String.ofList key), rest)
        | none => .error .incompleteKey
    | rest => .ok (none, rest)
  let isFlag (c : Char) : Bool := ['-', '+', ' ', '#', '0'].contains c
  let flags := rest.takeWhile isFlag
  let (width, rest) := readAmount (rest.dropWhile isFlag)
  let (precision, rest) := readPrecision rest
  let rest :=
    match rest with
    | 'h' :: rest | 'l' :: rest | 'L' :: rest => rest
    | rest => rest
  match rest with
  | [] => .error .incomplete
  | conversion :: rest =>
      .ok
        ({ key, width, precision, conversion
           left := flags.contains '-'
           plus := flags.contains '+'
           space := flags.contains ' '
           alternate := flags.contains '#'
           zero := flags.contains '0'
           place := size - rest.length - 1 }, rest)

structure Values where
  left : List Json
  members : Option (List (String × Json)) := none

namespace Values

/-- One object stands for its members; anything else is taken in order. -/
def ofArguments : List Json → Values
  | [.obj (member :: rest)] => ⟨[.obj (member :: rest)], some (member :: rest)⟩
  | arguments => ⟨arguments, none⟩

def next (values : Values) : Except FillFault (Json × Values) :=
  match values.left with
  | value :: left => .ok (value, { values with left })
  | [] => .error .mismatch

def select (values : Values) : Option String → Except FillFault Values
  | none => .ok values
  | some key =>
      match values.members with
      | none => .error .mismatch
      | some members =>
          match members.lookup key with
          | some value => .ok { values with left := [value] }
          | none => .error (.missingKey key)

def amount (values : Values) (bound : Nat) (excess : FillFault) :
    Amount → Except FillFault (Option Int × Values)
  | .none => .ok (none, values)
  | .written value => .ok (some value, values)
  | .taken => do
      match ← values.next with
      | (.int value, values) => if value.natAbs < bound then .ok (some value, values) else .error excess
      | (.bool value, values) => .ok (some (if value then 1 else 0), values)
      | _ => .error .mismatch

end Values

structure Figure where
  negative : Bool
  mark : List Char := []
  digits : List Char

def layText (directive : Directive) (width : Nat) (body : List Char) : List Char :=
  let fill := List.replicate (width - body.length) ' '
  if directive.left then body ++ fill else fill ++ body

/-- Zeros go between the sign and the digits, blanks before the sign or behind the digits. -/
def layFigure (directive : Directive) (width : Nat) (figure : Figure) : List Char :=
  let sign : List Char :=
    if figure.negative then ['-'] else if directive.plus then ['+'] else if directive.space then [' '] else []
  let front := sign ++ figure.mark
  let missing := width - (front ++ figure.digits).length
  if directive.zero && !directive.left then front ++ List.replicate missing '0' ++ figure.digits
  else layText directive width (front ++ figure.digits)

def asciiOnly (text : String) : List Char :=
  text.toList.flatMap fun c =>
    if c.toNat < 0x80 then [c]
    else if c.toNat < 0x100 then '\\' :: 'x' :: hexDigits 2 c.toNat
    else if c.toNat < 0x10000 then '\\' :: 'u' :: hexDigits 4 c.toNat
    else '\\' :: 'U' :: hexDigits 8 c.toNat

def wholeFigure (base : Nat) (mark : List Char) (places : Nat) (value : Int) : Figure :=
  let digits := Nat.toDigits base value.natAbs
  { negative := value < 0, mark, digits := List.replicate (places - digits.length) '0' ++ digits }

def wholeOf (allowFraction : Bool) : Json → Except FillFault Int
  | .int value => .ok value
  | .bool value => .ok (if value then 1 else 0)
  | .float (.finite negative mantissa exponent) =>
      if allowFraction then
        let (num, den) := Binary64.ratio mantissa exponent
        .ok (if negative then -(num / den : Nat) else (num / den : Nat))
      else .error .mismatch
  | _ => .error .mismatch

def numberOf : Json → Except FillFault Binary64
  | .float value => .ok value
  | .int value =>
      match Binary64.ofInt value with
      | .infinite _ => .error .numberTooLarge
      | value => .ok value
  | .bool value => .ok (.ofInt (if value then 1 else 0))
  | _ => .error .mismatch

def floatFigure (directive : Directive) (places : Nat) (value : Binary64) : Figure :=
  match value with
  | .finite negative mantissa exponent =>
      let (num, den) := Binary64.ratio mantissa exponent
      let digits :=
        match directive.conversion.toLower with
        | 'f' => fixedText directive.alternate places num den
        | 'e' => exponentText directive.alternate places num den
        | _ => generalText directive.alternate places num den
      { negative, digits }
  | .infinite negative => { negative, digits := ['i', 'n', 'f'] }
  | .nan => { negative := false, digits := ['n', 'a', 'n'] }

def character : Json → Except FillFault Char
  | .str text =>
      match text.toList with
      | [c] => .ok c
      | _ => .error .mismatch
  | value => do
      let code ← wholeOf false value
      if 0 ≤ code ∧ code < 0x110000 then .ok (Char.ofNat code.toNat) else .error .noCharacter

def fillOne (directive : Directive) (width : Nat) (precision : Option Nat) (value : Json) :
    Except FillFault (List Char) := do
  let cut (body : List Char) : List Char :=
    match precision with
    | some most => body.take most
    | none => body
  let places := precision.getD 0
  let capital (body : List Char) : List Char :=
    if directive.conversion.isUpper then body.map Char.toUpper else body
  let mark (letter : Char) : List Char := if directive.alternate then ['0', letter] else []
  match directive.conversion with
  | 's' => .ok (layText directive width (cut value.plain.toList))
  | 'r' => .ok (layText directive width (cut value.display.toList))
  | 'a' => .ok (layText directive width (cut (asciiOnly value.display)))
  | 'c' => return layText directive width [← character value]
  | 'd' | 'i' | 'u' => return layFigure directive width (wholeFigure 10 [] places (← wholeOf true value))
  | 'o' => return layFigure directive width (wholeFigure 8 (mark 'o') places (← wholeOf false value))
  | 'x' | 'X' => return capital (layFigure directive width (wholeFigure 16 (mark 'x') places (← wholeOf false value)))
  | 'e' | 'E' | 'f' | 'F' | 'g' | 'G' =>
      return capital (layFigure directive width (floatFigure directive (precision.getD 6) (← numberOf value)))
  | conversion => .error (.unsupported conversion directive.place)

def fillDirective (directive : Directive) (values : Values) : Except FillFault (List Char × Values) := do
  let values ← values.select directive.key
  let (width, values) ← values.amount (Nat.pow 2 63) .widthTooLarge directive.width
  let (precision, values) ← values.amount (Nat.pow 2 31) .precisionTooLarge directive.precision
  let (value, values) ← values.next
  let directive := { directive with left := directive.left || width.any (· < 0) }
  return (← fillOne directive (width.getD 0).natAbs (precision.map Int.toNat) value, values)

def fillFrom (size : Nat) : Nat → Values → List Char → Except FillFault (List Char)
  | _, values, [] => if values.left ≠ [] && values.members.isNone then .error .mismatch else .ok []
  | 0, _, _ => .ok []
  | fuel + 1, values, '%' :: '%' :: rest => return '%' :: (← fillFrom size fuel values rest)
  | fuel + 1, values, '%' :: rest => do
      let (directive, rest) ← readDirective size rest
      let (body, values) ← fillDirective directive values
      return body ++ (← fillFrom size fuel values rest)
  | fuel + 1, values, c :: rest => return c :: (← fillFrom size fuel values rest)

/-- Puts values into a template at its percent signs. A text without values is no template. -/
def fill (template : String) (arguments : List Json) : Except FillFault String :=
  if arguments.isEmpty then .ok template
  else
    let text := template.toList
    (fillFrom text.length text.length (.ofArguments arguments) text).map String.ofList

end Schematic.Log
