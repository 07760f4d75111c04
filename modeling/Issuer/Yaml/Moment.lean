import Issuer.Text.Basic
/-!
# Dates and times

A day of the calendar, or a time of a day, which may say how far its clock is from the universal
time.
-/
namespace Issuer.Yaml

structure Clock where
  hour : Nat
  minute : Nat
  second : Nat
  microsecond : Nat
  /-- How many minutes the clock is ahead of the universal time, if that is known. -/
  offset : Option Int
  deriving DecidableEq, Repr

structure Moment where
  year : Nat
  month : Nat
  day : Nat
  clock : Option Clock
  deriving DecidableEq, Repr

namespace Moment

def isLeap (year : Nat) : Bool := year % 4 == 0 && (year % 100 != 0 || year % 400 == 0)

def daysIn (year month : Nat) : Nat :=
  if month = 2 then if isLeap year then 29 else 28
  else if month = 4 || month = 6 || month = 9 || month = 11 then 30 else 31

/-- Whether the calendar has the day, and a day the time.  A clock is less than a day ahead of the
universal time or behind it. -/
def isValid (m : Moment) : Bool :=
  1 ≤ m.year && m.year ≤ 9999 && 1 ≤ m.month && m.month ≤ 12 && 1 ≤ m.day &&
    m.day ≤ daysIn m.year m.month && m.clock.all fun c =>
      c.hour < 24 && c.minute < 60 && c.second < 60 && c.offset.all fun o => -1440 < o && o < 1440

def padded (width n : Nat) : Text :=
  let digits := Text.ofNat n
  List.replicate (width - digits.length) (CodePoint.ofChar '0') ++ digits

def showOffset (offset : Int) : Text :=
  (if offset < 0 then "-" else "+") ++ padded 2 (offset.natAbs / 60) ++ ":" ++
    padded 2 (offset.natAbs % 60)

/-- The time of a day: a fraction of a second only where there is one. -/
def showClock (c : Clock) : Text :=
  let fraction : Text := if c.microsecond = 0 then "" else '.' :: padded 6 c.microsecond
  padded 2 c.hour ++ ":" ++ padded 2 c.minute ++ ":" ++ padded 2 c.second ++ fraction ++
    (c.offset.map showOffset).getD ""

def display (m : Moment) : Text :=
  padded 4 m.year ++ "-" ++ padded 2 m.month ++ "-" ++ padded 2 m.day ++
    (m.clock.map fun c => " " ++ showClock c).getD ""

/-- How far a clock is ahead, as it stands inside a list: whole days and seconds. -/
def inspectOffset (offset : Int) : Text :=
  if offset = 0 then "datetime.timezone.utc"
  else
    let days : Text := if offset < 0 then "days=-1, " else ""
    let seconds := if offset < 0 then 86400 - 60 * offset.natAbs else 60 * offset.natAbs
    "datetime.timezone(datetime.timedelta(" ++ days ++ "seconds=" ++ Text.ofNat seconds ++ "))"

/-- The moment as it stands inside a list; a time without seconds leaves them out. -/
def inspect (m : Moment) : Text :=
  let date := [m.year, m.month, m.day]
  let numbers (ns : List Nat) : Text := Text.join ", " (ns.map Text.ofNat)
  match m.clock with
  | none => "datetime.date(" ++ numbers date ++ ")"
  | some c =>
    let time :=
      if c.microsecond != 0 then [c.hour, c.minute, c.second, c.microsecond]
      else if c.second != 0 then [c.hour, c.minute, c.second]
      else [c.hour, c.minute]
    "datetime.datetime(" ++ numbers (date ++ time) ++
      ((c.offset.map fun o => ", tzinfo=" ++ inspectOffset o).getD "") ++ ")"

end Moment

end Issuer.Yaml
