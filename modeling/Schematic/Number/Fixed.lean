import Schematic.Number.Shortest

set_option autoImplicit false

namespace Schematic

def pointed (keepPoint : Bool) (places digits : Nat) : List Char :=
  let shown := Nat.toDigits 10 digits
  let shown := List.replicate (places + 1 - shown.length) '0' ++ shown
  let whole := shown.take (shown.length - places)
  if places = 0 then (if keepPoint then whole ++ ['.'] else whole)
  else whole ++ '.' :: shown.drop (shown.length - places)

/-- `num / den` with a fixed count of places behind the point, a half going to the even neighbour. -/
def fixedText (keepPoint : Bool) (places num den : Nat) : List Char :=
  pointed keepPoint places (Binary64.roundDiv (num * Nat.pow 10 places) den)

def leadingDigits (places num den : Nat) : Nat × Int :=
  if num = 0 then (0, 0)
  else
    let power := placesBefore num den - 1
    let (up, down) := Binary64.power 10 (places - power)
    let digits := Binary64.roundDiv (num * up) (den * down)
    if digits = Nat.pow 10 (places + 1) then (Nat.pow 10 places, power + 1) else (digits, power)

def exponentText (keepPoint : Bool) (places num den : Nat) : List Char :=
  let (digits, power) := leadingDigits places num den
  let size := Nat.toDigits 10 power.natAbs
  pointed keepPoint places digits ++
    'e' :: (if power < 0 then '-' else '+') :: (if size.length < 2 then '0' :: size else size)

def withoutIdleZeros (text : List Char) : List Char :=
  if text.contains '.' then
    let kept := text.reverse.dropWhile (· == '0')
    (if kept.head? = some '.' then kept.drop 1 else kept).reverse
  else text

/-- `count` digits that matter, positional unless the power of ten is below -4 or not below the count. -/
def generalText (keepPoint : Bool) (count num den : Nat) : List Char :=
  let count := max count 1
  let power := (leadingDigits (count - 1) num den).2
  if -4 ≤ power ∧ power < count then
    let body := fixedText keepPoint (count - 1 - power).toNat num den
    if keepPoint then body else withoutIdleZeros body
  else
    let body := exponentText keepPoint (count - 1) num den
    if keepPoint then body
    else withoutIdleZeros (body.takeWhile (· ≠ 'e')) ++ body.dropWhile (· ≠ 'e')

end Schematic
