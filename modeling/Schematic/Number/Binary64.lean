set_option autoImplicit false

namespace Schematic

/-- A double-precision number. A finite one is `mantissa * 2 ^ exponent` with a sign, where the mantissa
is below `2 ^ 53` and as large as the least exponent, -1074, allows. -/
inductive Binary64 where
  | finite (negative : Bool) (mantissa : Nat) (exponent : Int)
  | infinite (negative : Bool)
  | nan
deriving Repr, DecidableEq, Inhabited

namespace Binary64

def zero (negative : Bool) : Binary64 := .finite negative 0 (-1074)

def power (base : Nat) (exponent : Int) : Nat × Nat :=
  (Nat.pow base exponent.toNat, Nat.pow base (-exponent).toNat)

def roundDiv (num den : Nat) : Nat :=
  let whole := num / den
  let twice := 2 * (num % den)
  if twice > den || (twice == den && whole % 2 == 1) then whole + 1 else whole

/-- The double nearest to `num / den`; of two equally near the one with the even mantissa. -/
def ofRatio (negative : Bool) (num den : Nat) : Binary64 :=
  if num = 0 then zero negative
  else
    let size : Int := (num.log2 : Int) - den.log2
    let low := max (size - 53) (-1074)
    let scaled (exponent : Int) : Nat × Nat :=
      let (up, down) := power 2 exponent
      (num * down, den * up)
    let exponent := if (scaled low).1 / (scaled low).2 < Nat.pow 2 53 then low else low + 1
    let mantissa := roundDiv (scaled exponent).1 (scaled exponent).2
    let (mantissa, exponent) := if mantissa = Nat.pow 2 53 then (Nat.pow 2 52, exponent + 1) else (mantissa, exponent)
    if exponent > 971 then .infinite negative else .finite negative mantissa exponent

def ofDecimal (negative : Bool) (digits : Nat) (exponent : Int) : Binary64 :=
  let size : Int := (Nat.toDigits 10 digits).length + exponent
  if digits = 0 || size < -400 then zero negative
  else if size > 400 then .infinite negative
  else
    let (up, down) := power 10 exponent
    ofRatio negative (digits * up) down

def ofInt (value : Int) : Binary64 := ofRatio (value < 0) value.natAbs 1

def isNegative : Binary64 → Bool
  | finite negative _ _ => negative
  | infinite negative => negative
  | nan => false

def ratio (mantissa : Nat) (exponent : Int) : Nat × Nat :=
  let (up, down) := power 2 exponent
  (mantissa * up, down)

def toInt? : Binary64 → Option Int
  | finite negative mantissa exponent =>
      let (num, den) := ratio mantissa exponent
      if num % den = 0 then some (if negative then -(num / den : Nat) else (num / den : Nat)) else none
  | _ => none

/-- Millionths, rounded to the nearest; halves go away from zero. -/
def millionths? : Binary64 → Option Int
  | finite negative mantissa exponent =>
      let (num, den) := ratio mantissa exponent
      let size : Nat := (2 * num * 1000000 + den) / (2 * den)
      some (if negative then -(size : Int) else size)
  | _ => none

end Binary64

end Schematic
