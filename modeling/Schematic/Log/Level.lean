import Schematic.Text.LowerCase

set_option autoImplicit false

namespace Schematic.Log

def info : Int := 20
def warning : Int := 30
def error : Int := 40

def levelName (level : Int) : String :=
  ([(0, "NOTSET"), (10, "DEBUG"), (20, "INFO"), (30, "WARNING"), (40, "ERROR"), (50, "CRITICAL")].lookup level).getD
    ("Level " ++ toString level)

def levelNames : List (String × Int) :=
  [("NOTSET", 0), ("DEBUG", 10), ("INFO", 20), ("WARNING", 30), ("WARN", 30), ("ERROR", 40), ("FATAL", 50),
    ("CRITICAL", 50)]

inductive LevelFault where
  | pattern (text : String)
  | table
deriving Repr, DecidableEq

/-- The level of a name in any case. Unknown names stand for the level of ordinary messages; two reserved
names stand for no level at all. -/
def levelOfName (name : String) : Except LevelFault Int :=
  match String.ofList (Text.upperAscii name.toList) with
  | "BASIC_FORMAT" => .error (.pattern "%(levelname)s:%(name)s:%(message)s")
  | "_STYLES" => .error .table
  | name => .ok ((levelNames.lookup name).getD info)

inductive Layout where
  | structured | human
deriving Repr, DecidableEq

def layoutOf (wanted : Bool) (format : String) : Layout :=
  if wanted || Text.lower format.toList == "json".toList then .structured else .human

end Schematic.Log
