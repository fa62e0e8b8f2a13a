import Schematic.Basic
import Schematic.Source.Nesting
import Schematic.Text.Alphanumeric

set_option autoImplicit false

namespace Schematic

open Text

structure Statement where
  line : Nat
  text : List Char
deriving Repr, DecidableEq

/-- The part of a line before its comment. Two slashes open a comment outside parentheses, unless they
follow a colon that itself follows a letter or a numeral, as in an address. `before` and `last` are the
two characters already passed. -/
def beforeComment (depth : Nat) (before last : Char) : List Char → List Char
  | [] => []
  | c :: rest =>
      if c = '/' ∧ rest.head? = some '/' ∧ depth = 0 ∧ ¬ (last = ':' ∧ isAlphanumeric before) then []
      else c :: beforeComment (depthAfter depth c) last c rest

/-- Pieces that end after an opening brace and around a closing one; braces in parentheses are plain text. -/
def splitBraces (depth : Nat) : List Char → List (List Char)
  | [] => [[]]
  | c :: rest =>
      let inner := depthAfter depth c
      if c = '{' ∧ inner = 0 then ['{'] :: splitBraces inner rest
      else if c = '}' ∧ inner = 0 then [] :: ['}'] :: splitBraces inner rest
      else consFirst c (splitBraces inner rest)

def piecesOfLine (text : List Char) : List (List Char) :=
  ((splitBraces 0 (beforeComment 0 ' ' ' ' text)).map trim).filter (· ≠ [])

def scanLines (number : Nat) : List (List Char) → List Statement
  | [] => []
  | text :: rest => (piecesOfLine text).map (⟨number, ·⟩) ++ scanLines (number + 1) rest

def scan (source : List Char) : List Statement := scanLines 1 (lines source)

end Schematic
