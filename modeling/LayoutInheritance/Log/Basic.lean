/-! Log records and the levels that they are filtered by. -/

namespace LayoutInheritance.Log

structure Record where
  /-- A dotted name; a logger takes what is sent to the names below its own. -/
  logger : String
  level : Int
  message : String
  deriving DecidableEq

def debug : Int := 10

def info : Int := 20

def warning : Int := 30

/-- The levels that have names. Where two names share a level, the first is the one that is written. -/
def levels : List (String × Int) :=
  [("CRITICAL", 50), ("FATAL", 50), ("ERROR", 40), ("WARNING", warning), ("WARN", warning), ("INFO", info),
   ("DEBUG", debug), ("NOTSET", 0)]

/-- The capital of a letter that has it among the ASCII letters; the long s and the i without a dot do. -/
def capital (c : Char) : Char :=
  if c = 'ſ' then 'S' else if c = 'ı' then 'I' else c.toUpper

/-- The level that a name in any case stands for. -/
def level? (name : String) : Option Int :=
  levels.lookup (name.map capital)

/-- The level of a name; an unknown one means the level of information. -/
def levelOf (name : String) : Int :=
  (level? name).getD info

def levelName (level : Int) : String :=
  match levels.find? fun l => l.2 == level with
  | some l => l.1
  | none => "Level " ++ toString level

/-- The line of a record, after the time of its writing. -/
def Record.line (r : Record) (time : String) : String :=
  time ++ " " ++ levelName r.level ++ " " ++ r.logger ++ ": " ++ r.message ++ "\n"

end LayoutInheritance.Log
