import Schematic.Record.Check

set_option autoImplicit false

namespace Schematic

/-- A point in time as it was given: a date, a time of day, and how many minutes the clock is ahead of
universal time, if that was said. -/
structure DateTime where
  year : Nat
  month : Nat
  day : Nat
  hour : Nat := 0
  minute : Nat := 0
  second : Nat := 0
  microsecond : Nat := 0
  offset : Option Int := none
deriving Repr, DecidableEq

inductive Moment where
  | clock
  | given (time : DateTime)
deriving Repr, DecidableEq, Inhabited

namespace DateTime

def isLeap (year : Nat) : Bool := year % 4 == 0 && (year % 100 != 0 || year % 400 == 0)

def daysIn (year month : Nat) : Nat :=
  if month = 2 then (if isLeap year then 29 else 28)
  else if month ∈ [4, 6, 9, 11] then 30
  else 31

def twoDigits (value : Nat) : List Char := [Nat.digitChar (value / 10), Nat.digitChar (value % 10)]

def fixedDigits (width value : Nat) : List Char :=
  let digits := Nat.toDigits 10 value
  List.replicate (width - digits.length) '0' ++ digits

def takeDigits? (count : Nat) (text : List Char) : Option (Nat × List Char) :=
  let digits := text.take count
  if digits.length = count ∧ digits.all Char.isDigit then some (decimalValue digits, text.drop count) else none

def takeChar? (accepted : List Char) : List Char → Option (List Char)
  | c :: rest => if c ∈ accepted then some rest else none
  | [] => none

def readDate? (text : List Char) : Option (DateTime × List Char) := do
  let (year, rest) ← takeDigits? 4 text
  let rest ← takeChar? ['-'] rest
  let (month, rest) ← takeDigits? 2 rest
  let rest ← takeChar? ['-'] rest
  let (day, rest) ← takeDigits? 2 rest
  if 1 ≤ month ∧ month ≤ 12 ∧ 1 ≤ day ∧ day ≤ daysIn year month then some ({ year, month, day }, rest) else none

def readOffset? : List Char → Option (Option Int)
  | [] => some none
  | ['Z'] | ['z'] => some (some 0)
  | sign :: rest => do
      let negative ← if sign = '-' ∨ sign = '\u2212' then some true else if sign = '+' then some false else none
      let (hours, rest) ← takeDigits? 2 rest
      let rest := (takeChar? [':'] rest).getD rest
      let (minutes, rest) ← takeDigits? 2 rest
      let size : Int := hours * 60 + minutes
      if rest = [] ∧ hours < 24 ∧ minutes < 60 then some (some (if negative then -size else size)) else none

/-- Six digits of a fraction; further ones are dropped. -/
def microseconds (digits : List Char) : Nat := decimalValue ((digits ++ List.replicate 6 '0').take 6)

def readTime? (date : DateTime) (text : List Char) : Option DateTime := do
  let (hour, rest) ← takeDigits? 2 text
  let rest ← takeChar? [':'] rest
  let (minute, rest) ← takeDigits? 2 rest
  let (second, rest) ←
    match rest with
    | ':' :: rest => takeDigits? 2 rest
    | rest => some (0, rest)
  let (fraction, rest) ←
    match rest with
    | '.' :: rest | ',' :: rest =>
        let digits := rest.takeWhile Char.isDigit
        if digits = [] then none else some (digits, rest.dropWhile Char.isDigit)
    | rest => some ([], rest)
  let offset ← readOffset? rest
  if hour < 24 ∧ minute < 60 ∧ second < 60 then
    some { date with hour, minute, second, microsecond := microseconds fraction, offset }
  else none

def read? (text : List Char) : Option DateTime := do
  let (date, rest) ← readDate? text
  match rest with
  | [] => some date
  | rest => readTime? date (← takeChar? ['T', 't', ' ', '_'] rest)

def ofDays (days : Int) : DateTime :=
  let shifted := days + 719468
  let era := shifted.fdiv 146097
  let dayOfEra := (shifted.fmod 146097).toNat
  let yearOfEra := (dayOfEra - dayOfEra / 1460 + dayOfEra / 36524 - dayOfEra / 146096) / 365
  let dayOfYear := dayOfEra - (365 * yearOfEra + yearOfEra / 4 - yearOfEra / 100)
  let shiftedMonth := (5 * dayOfYear + 2) / 153
  let month := if shiftedMonth < 10 then shiftedMonth + 3 else shiftedMonth - 9
  let year := (yearOfEra + era * 400 + if month ≤ 2 then 1 else 0).toNat
  { year, month, day := dayOfYear - (153 * shiftedMonth + 2) / 5 + 1 }

/-- A count since 1970 in seconds, or in milliseconds where it is too large for seconds, and microseconds on top
of it. Years have four digits. -/
def ofStamp? (stamp : Int) (extra : Nat) : Option DateTime :=
  let micros := (if stamp.natAbs > 20000000000 then stamp * 1000 else stamp * 1000000) + extra
  let seconds := micros.fdiv 1000000
  let inDay := (seconds.fmod 86400).toNat
  if seconds < -62135596800 ∨ 253402300799 < seconds then none
  else
    some
      { ofDays (seconds.fdiv 86400) with
        hour := inDay / 3600, minute := inDay / 60 % 60, second := inDay % 60
        microsecond := (micros.fmod 1000000).toNat, offset := some 0 }

def ofMillionths? (millionths : Int) : Option DateTime :=
  ofStamp? (millionths.fdiv 1000000) (millionths.fmod 1000000).toNat

def readStamp? (text : List Char) : Option DateTime :=
  let (negative, body) := splitSign text
  let whole := body.takeWhile Char.isDigit
  let signed (size : Nat) : Int := if negative then -(size : Int) else size
  match whole, body.dropWhile Char.isDigit with
  | [], _ => none
  | whole, [] => ofStamp? (signed (decimalValue whole)) 0
  | whole, '.' :: fraction =>
      if fraction.all Char.isDigit then
        ofMillionths? (signed (decimalValue whole * 1000000 + microseconds fraction))
      else none
  | _, _ => none

def render (time : DateTime) : String :=
  let fraction := if time.microsecond = 0 then [] else '.' :: fixedDigits 6 time.microsecond
  let offset :=
    match time.offset with
    | none => []
    | some minutes =>
        (if minutes < 0 then '-' else '+') :: twoDigits (minutes.natAbs / 60) ++
          ':' :: twoDigits (minutes.natAbs % 60)
  String.ofList <|
    fixedDigits 4 time.year ++ '-' :: twoDigits time.month ++ '-' :: twoDigits time.day ++
      'T' :: twoDigits time.hour ++ ':' :: twoDigits time.minute ++ ':' :: twoDigits time.second ++
      fraction ++ offset

def days (time : DateTime) : Int :=
  -- Years begin with March, so that the odd day of a leap year is the last one.
  let year : Int := if time.month ≤ 2 then time.year - 1 else time.year
  let dayOfYear := (153 * ((time.month + 9) % 12) + 2) / 5 + time.day
  365 * year + year.fdiv 4 - year.fdiv 100 + year.fdiv 400 + dayOfYear - 719469

example : ((ofDays 20515).month, (ofDays 20515).day, (ofDays 20515).days) = (3, 3, 20515) := by decide

/-- Microseconds since 1970. A time that does not say how far ahead its clock is counts as universal. -/
def instant (time : DateTime) : Int :=
  (((time.days * 24 + time.hour) * 60 + time.minute - time.offset.getD 0) * 60 + time.second) * 1000000 +
    time.microsecond

end DateTime

def Moment.instant (reading : Int) : Moment → Int
  | .clock => reading
  | .given time => time.instant

def Reading.moment : Reading Moment
  | .str value =>
      match (DateTime.read? value.toList).or (DateTime.readStamp? value.toList) with
      | some time => .ok (.given time)
      | none => .complain .timeParsing
  | .int stamp => counted (DateTime.ofStamp? stamp 0)
  | .float value => counted (value.millionths?.bind DateTime.ofMillionths?)
  | _ => .complain .timeType
where
  counted : Option DateTime → Checked Moment
    | some time => .ok (.given time)
    | none => .complain .timeRange

end Schematic
