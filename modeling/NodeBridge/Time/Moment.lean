import NodeBridge.Number.Binary64
import NodeBridge.Time.Date

/-!
Moments to the microsecond, as a day and a time on a clock that stands some minutes ahead
of universal time. A moment is read from its usual text, or as the seconds since the
beginning of 1970. Two moments are the same if universal time is.
-/

namespace NodeBridge

structure Moment where
  date : Date
  second : Nat
  microsecond : Nat
  /-- How many minutes the clock is ahead of universal time. -/
  offset : Int
deriving DecidableEq, Repr

namespace Moment

def daySeconds : Nat := 86400

/-- How many microseconds of universal time lie behind a moment. -/
def instant (moment : Moment) : Int :=
  ((moment.date.ordinal * daySeconds + moment.second : Nat) - 60 * moment.offset) * 1000000 +
    moment.microsecond

def same (left right : Moment) : Bool := left.instant = right.instant

/-- The moment so many microseconds after the beginning of 1970. -/
def ofEpochMicroseconds? (microseconds : Int) : Option Moment :=
  let seconds := microseconds.fdiv 1000000
  (Date.ofEpochDay? (seconds.fdiv daySeconds)).map fun date =>
    ⟨date, (seconds.fmod daySeconds).toNat, (microseconds.fmod 1000000).toNat, 0⟩

def ofEpochSeconds? (seconds : Int) : Option Moment := ofEpochMicroseconds? (seconds * 1000000)

/-- The moment of a double. Its fraction is multiplied by a million, which may round, and
the product goes to the nearest whole number, a tie to the even one. -/
def ofEpochDouble? (seconds : Binary64) : Option Moment := do
  let whole ← seconds.truncate?
  let unit := seconds.unitExponent
  let scale := Nat.pow 2 (-unit).toNat
  let fraction := if 0 ≤ unit then 0 else seconds.significand % scale
  let product := Binary64.ofQuotient false (fraction * 1000000) scale
  let width := Nat.pow 2 (-product.unitExponent).toNat
  let microseconds : Int := Binary64.roundedQuotient product.significand width
  ofEpochMicroseconds?
    (whole * 1000000 + if seconds.isNegative then -microseconds else microseconds)

/-- The digits after a point, to the microsecond, and what follows them. -/
def readFraction : List Char → Option (Nat × List Char)
  | '.' :: rest =>
      match rest.takeWhile Char.isDigit with
      | [] => none
      | digits => do
          let size ← Date.digitsOf? ((digits ++ List.replicate 6 '0').take 6)
          some (size, rest.dropWhile Char.isDigit)
  | input => some (0, input)

/-- How far a clock is ahead, in minutes: the letter Z, or hours and minutes. -/
def readOffset : List Char → Option Int
  | ['Z'] => some 0
  | [sign, h1, h2, ':', m1, m2] => do
      let hours ← Date.digitsOf? [h1, h2]
      let minutes ← Date.digitsOf? [m1, m2]
      let size : Nat := 60 * hours + minutes
      if 1440 ≤ size then none
      else if sign = '+' then some size
      else if sign = '-' then some (-(size : Int))
      else none
  | _ => none

/-- Reads a moment: the day, the letter T, the time to the second or finer, the offset. -/
def ofText? (text : String) : Option Moment :=
  match text.toList with
  | y1 :: y2 :: y3 :: y4 :: '-' :: m1 :: m2 :: '-' :: d1 :: d2 :: 'T' ::
      h1 :: h2 :: ':' :: n1 :: n2 :: ':' :: s1 :: s2 :: rest => do
      let date ← Date.of? (← Date.digitsOf? [y1, y2, y3, y4]) (← Date.digitsOf? [m1, m2])
        (← Date.digitsOf? [d1, d2])
      let hour ← Date.digitsOf? [h1, h2]
      let minute ← Date.digitsOf? [n1, n2]
      let second ← Date.digitsOf? [s1, s2]
      let (microsecond, rest) ← readFraction rest
      let offset ← readOffset rest
      if hour < 24 ∧ minute < 60 ∧ second < 60 then
        some ⟨date, (hour * 60 + minute) * 60 + second, microsecond, offset⟩
      else none
  | _ => none

/-- The offset of a clock inside a message. -/
def shownOffset (offset : Int) : List Char :=
  if offset = 0 then "datetime.timezone.utc".toList
  else
    "datetime.timezone(datetime.timedelta(".toList ++
      (if offset < 0 then "days=-1, ".toList else []) ++
      "seconds=".toList ++ Text.integerDigits ((60 * offset).fmod daySeconds) ++ [')', ')']

/-- The numbers at the end of a time. Zeros are left out there. -/
def shownFinest (second microsecond : Nat) : List Char :=
  if microsecond = 0 then
    if second = 0 then [] else ',' :: ' ' :: Text.naturalDigits second
  else
    ',' :: ' ' :: Text.naturalDigits second ++ ',' :: ' ' :: Text.naturalDigits microsecond

/-- A moment inside a message. -/
def shownChars (moment : Moment) : List Char :=
  "datetime.datetime(".toList ++ moment.date.listedChars ++
    ',' :: ' ' :: Text.naturalDigits (moment.second / 3600) ++
    ',' :: ' ' :: Text.naturalDigits (moment.second / 60 % 60) ++
    shownFinest (moment.second % 60) moment.microsecond ++
    ", tzinfo=".toList ++ shownOffset moment.offset ++ [')']

end Moment

end NodeBridge
