import Schematic.Number.Binary64

set_option autoImplicit false

namespace Schematic

/-- Decimal digits with the place of the point: `0.d₁d₂… * 10 ^ point`. -/
structure Decimal where
  digits : Nat
  point : Int
deriving Repr, DecidableEq

/-- How many decimal places the number `num / den` has before its point. Below one tenth the count is
negative. -/
def placesBefore (num den : Nat) : Int :=
  if num ≥ den then (Nat.toDigits 10 (num / den)).length
  else
    match (List.range 400).find? fun shift => num * Nat.pow 10 (shift + 1) ≥ den with
    | some shift => -shift
    | none => 0

def nearestDecimal? (mantissa : Nat) (exponent : Int) (places : Int) (count : Nat) : Option Nat :=
  let (num, den) := Binary64.ratio mantissa exponent
  let (up, down) := Binary64.power 10 (places - count)
  let reads (digits : Nat) : Bool :=
    Binary64.ofRatio false (digits * up) down = .finite false mantissa exponent
  let low := num * down / (den * up)
  let near := Binary64.roundDiv (num * down) (den * up)
  let far := if near = low then low + 1 else low
  if reads near then some near else if reads far then some far else none

/-- The fewest digits that read back as the number, the nearest where several do. -/
def shortestDecimal (mantissa : Nat) (exponent : Int) : Decimal :=
  let (num, den) := Binary64.ratio mantissa exponent
  let places := placesBefore num den
  let counts := (List.range 17).map (· + 1)
  match counts.findSome? fun count =>
      (nearestDecimal? mantissa exponent places count).map fun digits => (count, digits) with
  | some (count, digits) => if digits = Nat.pow 10 count then ⟨1, places + 1⟩ else ⟨digits, places⟩
  | none => ⟨0, 0⟩

/-- Positional up to sixteen places before the point and four zeros behind it, always with a point;
otherwise with an exponent of at least two digits and its sign. -/
def Binary64.text : Binary64 → String
  | .nan => "nan"
  | .infinite negative => if negative then "-inf" else "inf"
  | .finite negative mantissa exponent =>
      let sign := if negative then "-" else ""
      if mantissa = 0 then sign ++ "0.0"
      else
        let decimal := shortestDecimal mantissa exponent
        let digits := (Nat.toDigits 10 decimal.digits).reverse.dropWhile (· == '0') |>.reverse
        let point := decimal.point
        let body : List Char :=
          if -4 < point ∧ point ≤ 0 then
            '0' :: '.' :: List.replicate (-point).toNat '0' ++ digits
          else if 0 < point ∧ point ≤ 16 then
            let whole := digits.take point.toNat
            let fraction := digits.drop point.toNat
            whole ++ List.replicate (point.toNat - digits.length) '0' ++
              '.' :: (if fraction = [] then ['0'] else fraction)
          else
            let power := point - 1
            let places := Nat.toDigits 10 power.natAbs
            digits.take 1 ++ (if digits.length > 1 then '.' :: digits.drop 1 else []) ++
              'e' :: (if power < 0 then '-' else '+') ::
              (if places.length < 2 then '0' :: places else places)
        sign ++ String.ofList body

end Schematic
