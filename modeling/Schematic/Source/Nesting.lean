import Schematic.Basic

set_option autoImplicit false

namespace Schematic

open Text

/-- Open parentheses after one more character; a stray closing one counts for nothing. -/
def depthAfter (depth : Nat) (c : Char) : Nat :=
  if c = '(' then depth + 1 else if c = ')' then depth - 1 else depth

/-- Pieces between separators that stand outside parentheses; there is always at least one. -/
def splitOutside (separator : Char) (depth : Nat) : List Char → List (List Char)
  | [] => [[]]
  | c :: rest =>
      let inner := depthAfter depth c
      if c = separator ∧ inner = 0 then [] :: splitOutside separator inner rest
      else consFirst c (splitOutside separator inner rest)

/-- Every parenthesis closes one that is open, starting from `depth` open ones. -/
def balanced (depth : Nat) : List Char → Bool
  | [] => depth == 0
  | '(' :: rest => balanced (depth + 1) rest
  | ')' :: rest =>
      match depth with
      | 0 => false
      | outer + 1 => balanced outer rest
  | _ :: rest => balanced depth rest

end Schematic
