/-!
# Times

The time of a report is written as a date and a time of day in the zone of the
zero meridian.
-/

namespace WebCompat
namespace Time

structure Date where
  year : Nat
  month : Nat
  day : Nat
deriving DecidableEq, Repr

def isLeapYear (year : Nat) : Bool :=
  year % 4 = 0 && (year % 100 != 0 || year % 400 = 0)

def daysOfYear (year : Nat) : Nat :=
  if isLeapYear year then 366 else 365

def monthLengths (year : Nat) : List Nat :=
  [31, if isLeapYear year then 29 else 28, 31, 30, 31, 30, 31, 31, 30, 31, 30, 31]

/-- The month and the day of the month that come some days after the first of a month. -/
def monthAndDay (month : Nat) (days : Nat) : List Nat → Nat × Nat
  | [] => (month, days + 1)
  | length :: rest =>
      if days < length then (month, days + 1) else monthAndDay (month + 1) (days - length) rest

def dateAfter (year : Nat) (days : Nat) : Date :=
  if days < daysOfYear year then
    let (month, day) := monthAndDay 1 days (monthLengths year)
    { year, month, day }
  else dateAfter (year + 1) (days - daysOfYear year)
termination_by days
decreasing_by
  have : 0 < daysOfYear year := by unfold daysOfYear; split <;> decide
  omega

def padded (width value : Nat) : String :=
  let digits := toString value
  String.ofList (List.replicate (width - digits.length) '0') ++ digits

def ofSeconds (seconds : Nat) : String :=
  let date := dateAfter 1970 (seconds / 86400)
  let rest := seconds % 86400
  padded 4 date.year ++ "-" ++ padded 2 date.month ++ "-" ++ padded 2 date.day ++ "T" ++
    padded 2 (rest / 3600) ++ ":" ++ padded 2 (rest / 60 % 60) ++ ":" ++
    padded 2 (rest % 60) ++ "Z"

end Time
end WebCompat
