import NodeBridge.Text.Integer

/-!
Days of the years 1 to 9999 in the calendar of today, which is used for all of them. Days
are also counted: the first of January of the year 1 is day one. A day is written as year,
month and day, or as year, week and day of the week.
-/

namespace NodeBridge

structure Date where
  year : Nat
  month : Nat
  day : Nat
deriving DecidableEq, Repr

namespace Date

def isLeapYear (year : Nat) : Bool := year % 4 = 0 && (year % 100 ≠ 0 || year % 400 = 0)

def monthLength (year month : Nat) : Nat :=
  if month = 2 then if isLeapYear year then 29 else 28
  else if month = 4 ∨ month = 6 ∨ month = 9 ∨ month = 11 then 30
  else 31

def of? (year month day : Nat) : Option Date :=
  if 1 ≤ year ∧ year ≤ 9999 ∧ 1 ≤ month ∧ month ≤ 12 ∧
      1 ≤ day ∧ day ≤ monthLength year month then
    some ⟨year, month, day⟩
  else none

/-- How many days the years before a year have. -/
def daysBeforeYear (year : Nat) : Nat :=
  let past := year - 1
  365 * past + past / 4 - past / 100 + past / 400

/-- How many days the months before a month have. -/
def daysBeforeMonth (year month : Nat) : Nat :=
  (List.range (month - 1)).foldl (fun days index => days + monthLength year (index + 1)) 0

def ordinal (date : Date) : Nat :=
  daysBeforeYear date.year + daysBeforeMonth date.year date.month + date.day

/-- The latest year that begins before the day of a count, close to an estimate. -/
def yearOfOrdinal (ordinal : Nat) : Nat :=
  let estimate := (ordinal - 1) * 400 / 146097 + 1
  if daysBeforeYear (estimate + 1) < ordinal then estimate + 1
  else if daysBeforeYear estimate < ordinal then estimate
  else estimate - 1

/-- The latest month of a year that begins before the day of that year. -/
def monthOfDay (year day : Nat) : Nat :=
  ((List.range 12).filter fun index => daysBeforeMonth year (index + 1) < day).length

def ofOrdinal? (ordinal : Int) : Option Date :=
  let count := ordinal.toNat
  let year := yearOfOrdinal count
  let day := count - daysBeforeYear year
  let month := monthOfDay year day
  of? year month (day - daysBeforeMonth year month)

/-- The day of the week; Monday is zero. -/
def weekday (ordinal : Nat) : Nat := (ordinal + 6) % 7

/-- Whether a year has a week 53: it begins on a Thursday, or on a Wednesday and is a leap
year. -/
def hasLongWeekYear (year : Nat) : Bool :=
  let first := weekday (daysBeforeYear year + 1)
  first = 3 || (first = 2 && isLeapYear year)

/-- A day by its week. The first week of a year is the one with the first Thursday. -/
def ofWeek? (year week day : Nat) : Option Date :=
  if 1 ≤ year ∧ 1 ≤ week ∧ (week ≤ 52 ∨ (week = 53 ∧ hasLongWeekYear year)) ∧
      1 ≤ day ∧ day ≤ 7 then
    let first := daysBeforeYear year + 1
    let weekOne : Int := (first : Int) - weekday first + (if 3 < weekday first then 7 else 0)
    ofOrdinal? (weekOne + 7 * (week - 1 : Nat) + (day - 1 : Nat))
  else none

def digitsOf? (digits : List Char) : Option Nat :=
  if digits.all fun char => '0' ≤ char && char ≤ '9' then
    some (digits.foldl (fun value digit => 10 * value + (digit.toNat - '0'.toNat)) 0)
  else none

/-- Reads a day. Either all parts are set off by hyphens or none is; a week without a day
means its Monday. -/
def ofText? (text : String) : Option Date :=
  match text.toList with
  | [y1, y2, y3, y4, '-', 'W', w1, w2] => do
      ofWeek? (← digitsOf? [y1, y2, y3, y4]) (← digitsOf? [w1, w2]) 1
  | [y1, y2, y3, y4, '-', 'W', w1, w2, '-', day] => do
      ofWeek? (← digitsOf? [y1, y2, y3, y4]) (← digitsOf? [w1, w2]) (← digitsOf? [day])
  | [y1, y2, y3, y4, 'W', w1, w2] => do
      ofWeek? (← digitsOf? [y1, y2, y3, y4]) (← digitsOf? [w1, w2]) 1
  | [y1, y2, y3, y4, 'W', w1, w2, day] => do
      ofWeek? (← digitsOf? [y1, y2, y3, y4]) (← digitsOf? [w1, w2]) (← digitsOf? [day])
  | [y1, y2, y3, y4, '-', m1, m2, '-', d1, d2] => do
      of? (← digitsOf? [y1, y2, y3, y4]) (← digitsOf? [m1, m2]) (← digitsOf? [d1, d2])
  | [y1, y2, y3, y4, m1, m2, d1, d2] => do
      of? (← digitsOf? [y1, y2, y3, y4]) (← digitsOf? [m1, m2]) (← digitsOf? [d1, d2])
  | _ => none

/-- The day so many days after the first of January 1970. -/
def ofEpochDay? (days : Int) : Option Date := ofOrdinal? (days + daysBeforeYear 1970 + 1)

def listedChars (date : Date) : List Char :=
  Text.naturalDigits date.year ++ ',' :: ' ' :: Text.naturalDigits date.month ++
    ',' :: ' ' :: Text.naturalDigits date.day

/-- A day inside a message. -/
def shownChars (date : Date) : List Char :=
  "datetime.date(".toList ++ date.listedChars ++ [')']

end Date

end NodeBridge
