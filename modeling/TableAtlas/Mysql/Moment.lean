/-!
# Dates and times

Points in time and times of day as a server stores them, which need not exist, and their text. A
fraction of a second is written in three digits if it is whole milliseconds and in six otherwise.
-/

namespace TableAtlas.Mysql

/-- A time of day, or what was stored as one. -/
structure Clock where
  hour : Nat := 0
  minute : Nat := 0
  second : Nat := 0
  microsecond : Nat := 0
  deriving DecidableEq, Repr, Inhabited

/-- A date with a time of day, or what was stored as one. -/
structure Moment where
  year : Nat
  month : Nat
  day : Nat
  clock : Clock := {}
  deriving DecidableEq, Repr, Inhabited

def isLeapYear (year : Nat) : Bool :=
  year % 4 = 0 && (year % 100 != 0 || year % 400 = 0)

def daysInMonth (year month : Nat) : Nat :=
  if month = 2 then if isLeapYear year then 29 else 28
  else if month = 4 ∨ month = 6 ∨ month = 9 ∨ month = 11 then 30
  else 31

/-- The time exists on a day of twenty-four hours. -/
def Clock.exists (c : Clock) : Bool :=
  c.hour < 24 && c.minute < 60 && c.second < 60 && c.microsecond < 1000000

def Moment.dateExists (m : Moment) : Bool :=
  1 ≤ m.month && m.month ≤ 12 && 1 ≤ m.day && m.day ≤ daysInMonth m.year m.month

/-- A number in at least so many digits. -/
def padded (width n : Nat) : String :=
  let digits := Nat.toDigits 10 n
  String.ofList (List.replicate (width - digits.length) '0' ++ digits)

def fractionText (microsecond : Nat) : String :=
  if microsecond = 0 then ""
  else if microsecond % 1000 = 0 then "." ++ padded 3 (microsecond / 1000)
  else "." ++ padded 6 microsecond

def Clock.text (c : Clock) : String :=
  padded 2 c.hour ++ ":" ++ padded 2 c.minute ++ ":" ++ padded 2 c.second
    ++ fractionText c.microsecond

def Moment.dateText (m : Moment) : String :=
  (if m.year ≤ 9999 then padded 4 m.year else "+" ++ toString m.year)
    ++ "-" ++ padded 2 m.month ++ "-" ++ padded 2 m.day

end TableAtlas.Mysql
