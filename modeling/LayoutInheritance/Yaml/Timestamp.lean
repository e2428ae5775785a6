import LayoutInheritance.Text.Hex
import LayoutInheritance.Text.Lines
import LayoutInheritance.Yaml.Cursor

/-! Dates and times of day as YAML texts write them, and whether the calendar and the clock have them. -/

namespace LayoutInheritance.Yaml

structure TimeOfDay where
  hour : Nat
  minute : Nat
  second : Nat
  /-- In millionths of a second. -/
  fraction : Nat := 0
  /-- Minutes east, where a zone is given. -/
  zone : Option Int := none
  deriving DecidableEq

/-- A date, and a time of day where one is written. -/
structure Timestamp where
  year : Nat
  month : Nat
  day : Nat
  time : Option TimeOfDay := none
  deriving DecidableEq

namespace Timestamp

/-! ### Reading -/

/-- A number of `least` to `most` digits, as many as there are. -/
def number? (least most : Nat) (cs : List Char) : Option (Nat × List Char) :=
  let digits := (cs.take most).takeWhile Char.isDigit
  if least ≤ digits.length then some (Text.ofDigits 10 digits, cs.drop digits.length) else none

def mark? (c : Char) : List Char → Option (List Char)
  | d :: cs => if d = c then some cs else none
  | [] => none

/-- A zone: nothing, or `Z`, or hours and perhaps minutes. -/
def zone? (cs : List Char) : Option (Option Int) :=
  if cs.isEmpty then some none
  else match cs.dropWhile isSpaceOrTab with
    | ['Z'] => some (some 0)
    | sign :: rest =>
      if sign != '+' && sign != '-' then none
      else do
        let (hours, rest) ← number? 1 2 rest
        let minutes ← match rest with
          | [] => pure 0
          | ':' :: rest => do
            let (minutes, rest) ← number? 2 2 rest
            if rest.isEmpty then pure minutes else none
          | _ => none
        let total : Int := hours * 60 + minutes
        return some (if sign == '-' then -total else total)
    | [] => none

/-- The digits of a fraction, in millionths. -/
def millionths (digits : List Char) : Nat :=
  Text.ofDigits 10 ((digits ++ List.replicate 6 '0').take 6)

def time? (cs : List Char) : Option TimeOfDay := do
  let (hour, rest) ← number? 1 2 cs
  let (minute, rest) ← number? 2 2 (← mark? ':' rest)
  let (second, rest) ← number? 2 2 (← mark? ':' rest)
  let (fraction, rest) := match rest with
    | '.' :: cs => (cs.takeWhile Char.isDigit, cs.dropWhile Char.isDigit)
    | _ => ([], rest)
  return { hour, minute, second, fraction := millionths fraction, zone := ← zone? rest }

/-- A date, and a time after a `T` or blanks. -/
def ofChars? (cs : List Char) : Option Timestamp := do
  let (year, rest) ← number? 4 4 cs
  let (month, rest) ← number? 1 2 (← mark? '-' rest)
  let (day, rest) ← number? 1 2 (← mark? '-' rest)
  match rest with
  | [] => return { year, month, day }
  | c :: rest =>
    let rest ← if c == 'T' || c == 't' then pure rest
      else if isSpaceOrTab c then pure (rest.dropWhile isSpaceOrTab)
      else none
    return { year, month, day, time := some (← time? rest) }

/-- How many characters a date takes that has two digits for its month and for its day. -/
def dateWidth : Nat := 10

/-- Whether a text is a timestamp by its form alone; a date without a time has to be written in full. -/
def isForm (cs : List Char) : Bool :=
  match ofChars? cs with
  | none => false
  | some t => t.time.isSome || cs.length == dateWidth

/-! ### The calendar -/

def isLeap (year : Nat) : Bool :=
  year % 4 == 0 && (year % 100 != 0 || year % 400 == 0)

def daysIn (year month : Nat) : Nat :=
  if month = 2 then if isLeap year then 29 else 28
  else if month = 4 ∨ month = 6 ∨ month = 9 ∨ month = 11 then 30
  else 31

/-- The days before a date, from the first day of the year one on. -/
def dayNumber (t : Timestamp) : Nat :=
  let years := t.year - 1
  let months := (List.range t.month).drop 1
  let days := months.foldl (fun days month => days + daysIn t.year month) (t.day - 1)
  365 * years + years / 4 - years / 100 + years / 400 + days

/-- Seconds and millionths since the first day of the year one, at the zone in the middle; nothing without
a zone. -/
def instant? (t : Timestamp) : Option (Int × Nat) :=
  match t.time with
  | some { hour, minute, second, fraction, zone := some zone } =>
    let minutes : Int := (t.dayNumber * 1440 + hour * 60 + minute : Nat) - zone
    some (minutes * 60 + second, fraction)
  | _ => none

/-- What the calendar or the clock does not have. -/
inductive Fault where
  | year (n : Nat)
  | month | day | hour | minute | second
  /-- A zone that is a day or more away. -/
  | zone (minutes : Int)
  deriving DecidableEq

def minutesPerDay : Nat := 1440

/-- The first fault, the zone's before all others. -/
def fault? (t : Timestamp) : Option Fault :=
  let zone? := t.time.bind TimeOfDay.zone
  let out (f : TimeOfDay → Nat) (limit : Nat) := t.time.any fun time => limit ≤ f time
  if zone?.any (minutesPerDay ≤ ·.natAbs) then zone?.map .zone
  else if t.year = 0 then some (.year t.year)
  else if t.month = 0 ∨ 12 < t.month then some .month
  else if t.day = 0 ∨ daysIn t.year t.month < t.day then some .day
  else if out TimeOfDay.hour 24 then some .hour
  else if out TimeOfDay.minute 60 then some .minute
  else if out TimeOfDay.second 60 then some .second
  else none

/-- A length of time in days and seconds, of which only the days may be negative. -/
def durationText (minutes : Int) : String :=
  let seconds := minutes * 60
  let days := seconds / 86400
  let rest := seconds % 86400
  let parts := (if days = 0 then [] else ["days=" ++ toString days])
    ++ (if rest = 0 then [] else ["seconds=" ++ toString rest])
  "datetime.timedelta(" ++ (if parts.isEmpty then "0" else ", ".intercalate parts) ++ ")"

def Fault.message : Fault → String
  | year n => "year " ++ toString n ++ " is out of range"
  | month => "month must be in 1..12"
  | day => "day is out of range for month"
  | hour => "hour must be in 0..23"
  | minute => "minute must be in 0..59"
  | second => "second must be in 0..59"
  | zone minutes =>
    "offset must be a timedelta strictly between -timedelta(hours=24) and timedelta(hours=24), not "
      ++ durationText minutes ++ "."

/-- The date and time of a text. Nothing when it is none by its form. -/
def ofText? (text : String) : Option Timestamp :=
  ofChars? (Text.withoutLineFeed text.toList)

example : daysIn 2000 2 = 29 ∧ daysIn 1900 2 = 28 := by decide
example : (Timestamp.mk 1 1 1 none).dayNumber = 0 ∧ (Timestamp.mk 2001 1 1 none).dayNumber = 730485 := by
  decide +kernel

end Timestamp

end LayoutInheritance.Yaml
