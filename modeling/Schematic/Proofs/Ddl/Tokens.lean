import Schematic.Ddl.Build
import Mathlib.Tactic.SplitIfs

/- These are the lexical rules of PostgreSQL for names, texts and bodies in dollar signs, with standard conforming
   strings. A premise is that a server makes nothing more of the tokens than is shown here. It does cut names to 63
   bytes and write words in small letters, and refuses a NUL; two names that differ only beyond 63 bytes are told apart
   here and not there. -/
set_option autoImplicit false

namespace Schematic.Ddl

inductive Token where
  | word (letters : List Char)
  | number (digits : List Char)
  | mark (sign : Char)
  | name (letters : List Char)
  | text (letters : List Char)
deriving DecidableEq

-- A place in the text, with what was read of the token that is not yet over. A text may be over only once it is certain that
-- no second part follows on a new line.
inductive Mode where
  | between
  | word (letters : List Char)
  | number (digits : List Char)
  | mark (sign : Char)
  | minus
  | comment
  | name (letters : List Char)
  | nameEnd (letters : List Char)
  | text (isEscaped : Bool) (letters : List Char)
  | escape (letters : List Char)
  | textEnd (isEscaped : Bool) (letters : List Char)
  | textGap (isEscaped isBroken : Bool) (letters : List Char)
  | dollar
  | body (letters : List Char)
  | bodyDollar (letters : List Char)
deriving DecidableEq

def isNewline (c : Char) : Bool := c = '\n' || c = '\r'

def isSpace (c : Char) : Bool := c = ' ' || c = '\t' || c = '\x0b' || c = '\x0c' || isNewline c

def startsWord (c : Char) : Bool := c.isAlpha || c = '_' || 128 ≤ c.toNat

def continuesWord (c : Char) : Bool := startsWord c || c.isDigit || c = '$'

def isOperator (c : Char) : Bool := "+-*/<>=~!@#%^&|`?".toList.contains c

-- Nothing is read of forms that no statement here is written in: operators of several signs, fractions, other comments, other
-- escapes than that of the backslash, marked texts other than escaped ones, and bodies with a tag.
def opens (c : Char) : Option (List Token × Mode) :=
  if isSpace c then some ([], .between)
  else if startsWord c then some ([], .word [c])
  else if c.isDigit then some ([], .number [c])
  else if c = '"' then some ([], .name [])
  else if c = '\x27' then some ([], .text false [])
  else if c = '$' then some ([], .dollar)
  else if c = '-' then some ([], .minus)
  else if c = '.' || c = '=' then some ([], .mark c)
  else if c = '(' || c = ')' || c = ',' || c = ';' then some ([.mark c], .between)
  else none

def after (token : Token) (c : Char) : Option (List Token × Mode) := (opens c).map fun read => (token :: read.1, read.2)

namespace Mode

def step : Mode → Char → Option (List Token × Mode)
  | between, c => opens c
  | word letters, c =>
      if continuesWord c then some ([], word (letters ++ [c]))
      else if c = '\x27' ∧ (letters = ['E'] ∨ letters = ['e']) then some ([], text true [])
      else if c = '\x27' ∧ letters ∈ ["B".toList, "b".toList, "X".toList, "x".toList, "N".toList, "n".toList] then none
      else after (.word letters) c
  | number digits, c =>
      if c.isDigit then some ([], number (digits ++ [c]))
      else if continuesWord c || c = '.' then none
      else after (.number digits) c
  | mark sign, c =>
      if (if sign = '.' then c = '.' || c.isDigit else isOperator c) then none else after (.mark sign) c
  | minus, c => if c = '-' then some ([], comment) else none
  | comment, c => some ([], if isNewline c then between else comment)
  | name letters, c => some ([], if c = '"' then nameEnd letters else name (letters ++ [c]))
  | nameEnd letters, c =>
      if c = '"' then some ([], name (letters ++ [c]))
      else if letters = [] then none
      else after (.name letters) c
  | text isEscaped letters, c =>
      some ([], if c = '\x27' then textEnd isEscaped letters
        else if isEscaped ∧ c = '\\' then escape letters
        else text isEscaped (letters ++ [c]))
  | escape letters, c => if c = '\\' then some ([], text true (letters ++ [c])) else none
  | textEnd isEscaped letters, c =>
      if c = '\x27' then some ([], text isEscaped (letters ++ [c]))
      else if isSpace c then some ([], textGap isEscaped (isNewline c) letters)
      else if c = '-' then none
      else after (.text letters) c
  | textGap isEscaped isBroken letters, c =>
      if isSpace c then some ([], textGap isEscaped (isBroken || isNewline c) letters)
      else if c = '\x27' ∧ isBroken then some ([], text isEscaped letters)
      else if c = '-' then none
      else after (.text letters) c
  | dollar, c => if c = '$' then some ([], body []) else none
  | body letters, c => some ([], if c = '$' then bodyDollar letters else body (letters ++ [c]))
  | bodyDollar letters, c => some (if c = '$' then ([.text letters], between) else ([], body (letters ++ ['$', c])))

def finish : Mode → Option (List Token)
  | between => some []
  | comment => some []
  | word letters => some [.word letters]
  | number digits => some [.number digits]
  | mark sign => some [.mark sign]
  | nameEnd letters => if letters = [] then none else some [.name letters]
  | textEnd _ letters => some [.text letters]
  | textGap _ _ letters => some [.text letters]
  | _ => none

def run : Mode → List Char → Option (List Token)
  | mode, [] => mode.finish
  | mode, c :: rest => (mode.step c).bind fun (tokens, next) => (next.run rest).map (tokens ++ ·)

def advance : Mode → List Char → Option (List Token × Mode)
  | mode, [] => some ([], mode)
  | mode, c :: rest =>
      (mode.step c).bind fun (tokens, next) => (next.advance rest).map fun (more, last) => (tokens ++ more, last)

end Mode

def tokens? (text : List Char) : Option (List Token) := Mode.between.run text

section Run

variable (mode next : Mode) (c : Char) (rest : List Char) (tokens : List Token)

theorem run_step (steps : mode.step c = some (tokens, next)) : mode.run (c :: rest) = (next.run rest).map (tokens ++ ·) := by
  rw [Mode.run, steps]
  rfl

theorem run_silent (steps : mode.step c = some ([], next)) : mode.run (c :: rest) = next.run rest := by
  rw [run_step mode next c rest [] steps]
  exact Option.map_id'

theorem run_advance (text : List Char) (reads : mode.advance text = some (tokens, next)) :
    mode.run (text ++ rest) = (next.run rest).map (tokens ++ ·) := by
  induction text generalizing mode tokens with
  | nil =>
      obtain ⟨rfl, rfl⟩ := Prod.mk.inj (Option.some.inj reads)
      exact Option.map_id'.symm
  | cons c text ih =>
      rw [Mode.advance] at reads
      obtain ⟨⟨first, middle⟩, steps, later⟩ := Option.bind_eq_some_iff.mp reads
      obtain ⟨⟨more, last⟩, read, same⟩ := Option.map_eq_some_iff.mp later
      obtain ⟨rfl, rfl⟩ := Prod.mk.inj same
      rw [List.cons_append, run_step mode middle c _ first steps, ih middle more read, Option.map_map]
      simp only [Function.comp_def, List.append_assoc]

theorem run_over (token : Token) (ends : mode.finish = some [token])
    (ended : ∀ c, rest.head? = some c → mode.step c = after token c) :
    mode.run rest = (Mode.between.run rest).map (token :: ·) := by
  cases rest with
  | nil => exact ends
  | cons c rest =>
      rw [Mode.run, Mode.run, ended c rfl, after, Mode.step]
      cases opens c with
      | none => rfl
      | some read => simp [Option.map_map, Function.comp_def]

end Run

section Named

variable (mode next : Mode) (c : Char) (tokens : List Token)

theorem silent_named (last : Mode) (steps : some ([], last) = some (tokens, next)) : .name [] ∉ tokens := by
  obtain ⟨rfl, rfl⟩ := Prod.mk.inj (Option.some.inj steps)
  exact List.not_mem_nil

theorem opens_named (begins : opens c = some (tokens, next)) : .name [] ∉ tokens := by
  unfold opens at begins
  split_ifs at begins
  all_goals first
    | exact silent_named next tokens _ begins
    | (obtain ⟨rfl, rfl⟩ := Prod.mk.inj (Option.some.inj begins)
       simp)

theorem after_named (token : Token) (named : .name [] ≠ token) (begins : after token c = some (tokens, next)) :
    .name [] ∉ tokens := by
  obtain ⟨⟨more, last⟩, opening, same⟩ := Option.map_eq_some_iff.mp begins
  obtain ⟨rfl, rfl⟩ := Prod.mk.inj same
  exact fun member => (List.mem_cons.mp member).elim named (opens_named last c more opening)

theorem step_named (steps : mode.step c = some (tokens, next)) : .name [] ∉ tokens := by
  cases mode with
  | between => exact opens_named next c tokens steps
  | nameEnd letters =>
      simp only [Mode.step] at steps
      split_ifs at steps with quote none
      · exact silent_named next tokens _ steps
      · exact after_named next c tokens _ (fun same => none (Token.name.inj same).symm) steps
  | bodyDollar letters =>
      simp only [Mode.step] at steps
      split_ifs at steps
      · obtain ⟨rfl, rfl⟩ := Prod.mk.inj (Option.some.inj steps)
        simp
      · exact silent_named next tokens _ steps
  | comment | name letters | text isEscaped letters | body letters => exact silent_named next tokens _ steps
  | word letters | number digits | mark sign | minus | escape letters | textEnd isEscaped letters
  | textGap isEscaped isBroken letters | dollar =>
      simp only [Mode.step] at steps
      split_ifs at steps
      all_goals first
        | exact silent_named next tokens _ steps
        | exact after_named next c tokens _ (by simp) steps

theorem finish_named (ends : mode.finish = some tokens) : .name [] ∉ tokens := by
  cases mode with
  | nameEnd letters =>
      simp only [Mode.finish] at ends
      split_ifs at ends with none
      obtain rfl := Option.some.inj ends
      simpa using Ne.symm none
  | minus | name letters | text isEscaped letters | escape letters | dollar | body letters | bodyDollar letters =>
      exact nomatch ends
  | between | word letters | number digits | mark sign | comment | textEnd isEscaped letters
  | textGap isEscaped isBroken letters =>
      obtain rfl := Option.some.inj ends
      simp

end Named

theorem run_named (mode : Mode) (text : List Char) (tokens : List Token) (read : mode.run text = some tokens) :
    .name [] ∉ tokens := by
  induction text generalizing mode tokens with
  | nil => exact finish_named mode tokens read
  | cons c text ih =>
      rw [Mode.run] at read
      obtain ⟨⟨first, next⟩, steps, later⟩ := Option.bind_eq_some_iff.mp read
      obtain ⟨more, rest, rfl⟩ := Option.map_eq_some_iff.mp later
      rw [List.mem_append, not_or]
      exact ⟨step_named mode next c first steps, ih next more rest⟩

end Schematic.Ddl
