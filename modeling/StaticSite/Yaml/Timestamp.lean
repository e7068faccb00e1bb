import StaticSite.Number.Decimal
import StaticSite.Text.Class
import StaticSite.Text.Search
import StaticSite.Value.Basic

/-!
# Timestamps

A timestamp is a date of the proleptic Gregorian calendar, perhaps with a time of day. An offset
from universal time is taken off, so every time is shown in universal time.
-/

namespace StaticSite.Yaml

open StaticSite.Text

structure Clock where
  hour : Nat
  minute : Nat
  second : Nat
  microsecond : Nat
  deriving Repr, DecidableEq

structure Timestamp where
  year : Nat
  month : Nat
  day : Nat
  clock : Option Clock
  /-- Whether month and day have two digits each. -/
  isPadded : Bool
  /-- Seconds ahead of universal time. -/
  offset : Int
  deriving Repr, DecidableEq

namespace Timestamp

def numberOf (digits : List Char) : Nat := digits.foldl (fun n c => n * 10 + (c.toNat - 48)) 0

/-- From `least` to `most` digits. -/
def digits? (least most : Nat) (s : List Char) : Option (List Char × List Char) :=
  let found := (s.take most).takeWhile isAsciiDigit
  if found.length < least then none else some (found, s.drop found.length)

def dropChar? (c : Char) : List Char → Option (List Char)
  | d :: rest => if c = d then some rest else none
  | [] => none

def isSpace (c : Char) : Bool := c = ' ' || c = '\t'

/-- The mark between date and time: a letter or blanks. -/
def dropBetween? : List Char → Option (List Char)
  | c :: rest =>
    if c = 'T' || c = 't' then some rest
    else if isSpace c then some (rest.dropWhile isSpace)
    else none
  | [] => none

/-- Digits of a fraction as microseconds, the seventh digit rounded; a full second is carried. -/
def microseconds (fraction : List Char) : Nat × Nat :=
  let six := numberOf (padRight 6 '0' (fraction.take 6))
  let roundsUp := ((fraction[6]?).map fun c => decide ('4' < c)).getD false
  let rounded := if roundsUp then six + 1 else six
  if rounded > 999999 then (0, 1) else (rounded, 0)

/-- The offset from universal time in seconds. -/
def offset? (s : List Char) : Option Int :=
  match s.dropWhile isSpace with
  | [] => if s.isEmpty then some 0 else none
  | ['Z'] => some 0
  | sign :: rest =>
    if sign != '+' && sign != '-' then none
    else (digits? 1 2 rest).bind fun (hours, rest) =>
      let minutes? : Option Nat := match rest with
        | [] => some 0
        | ':' :: rest => match digits? 2 2 rest with
          | some (minutes, []) => some (numberOf minutes)
          | _ => none
        | _ => none
      minutes?.map fun minutes =>
        let seconds : Int := (numberOf hours * 60 + minutes) * 60
        if sign = '-' then -seconds else seconds

/-- A time of day and the offset behind it; the second part counts a carried second. -/
def clock? (s : List Char) : Option (Clock × Int) := do
  let (hour, s) ← digits? 1 2 s
  let (minute, s) ← digits? 2 2 (← dropChar? ':' s)
  let (second, s) ← digits? 2 2 (← dropChar? ':' s)
  let (fraction, s) := match s with
    | '.' :: rest => (rest.takeWhile isAsciiDigit, rest.dropWhile isAsciiDigit)
    | _ => ([], s)
  let (micro, carried) := microseconds fraction
  let offset ← offset? s
  return (⟨numberOf hour, numberOf minute, numberOf second, micro⟩, offset - carried)

/-- The timestamp that a text writes. -/
def ofText? (s : List Char) : Option Timestamp := do
  let (year, s) ← digits? 4 4 s
  let (month, s) ← digits? 1 2 (← dropChar? '-' s)
  let (day, s) ← digits? 1 2 (← dropChar? '-' s)
  let padded := month.length = 2 && day.length = 2
  if s.isEmpty then
    return ⟨numberOf year, numberOf month, numberOf day, none, padded, 0⟩
  else
    let (clock, offset) ← clock? (← dropBetween? s)
    return ⟨numberOf year, numberOf month, numberOf day, some clock, padded, offset⟩

def isLeap (year : Nat) : Bool := year % 4 = 0 && (year % 100 ≠ 0 || year % 400 = 0)

def monthLength (year month : Nat) : Nat :=
  if month = 2 then (if isLeap year then 29 else 28)
  else if month = 4 || month = 6 || month = 9 || month = 11 then 30
  else 31

def isValidDate (stamp : Timestamp) : Bool :=
  1 ≤ stamp.year && 1 ≤ stamp.month && stamp.month ≤ 12 && 1 ≤ stamp.day
    && stamp.day ≤ monthLength stamp.year stamp.month

def isValidClock (clock : Clock) : Bool :=
  clock.hour < 24 && clock.minute < 60 && clock.second < 60

/-- The date one day earlier or later. -/
def shiftDay (forward : Bool) (stamp : Timestamp) : Timestamp :=
  if forward then
    if stamp.day < monthLength stamp.year stamp.month then { stamp with day := stamp.day + 1 }
    else if stamp.month < 12 then { stamp with month := stamp.month + 1, day := 1 }
    else { stamp with year := stamp.year + 1, month := 1, day := 1 }
  else if 1 < stamp.day then { stamp with day := stamp.day - 1 }
  else if 1 < stamp.month then
    { stamp with month := stamp.month - 1, day := monthLength stamp.year (stamp.month - 1) }
  else { stamp with year := stamp.year - 1, month := 12, day := 31 }

def shiftDays (forward : Bool) : (count : Nat) → Timestamp → Timestamp
  | 0, stamp => stamp
  | count + 1, stamp => shiftDays forward count (shiftDay forward stamp)

/-- The same moment in universal time. -/
def universal (stamp : Timestamp) : Timestamp := match stamp.clock with
  | none => stamp
  | some clock =>
    let seconds : Int := ((clock.hour * 60 + clock.minute) * 60 + clock.second) - stamp.offset
    let days := Int.fdiv seconds 86400
    let rest := (Int.fmod seconds 86400).toNat
    { shiftDays (0 ≤ days) days.natAbs stamp with
      clock := some ⟨rest / 3600, rest / 60 % 60, rest % 60, clock.microsecond⟩, offset := 0 }

def padded (width n : Nat) : String := String.ofList (padLeft width '0' (Decimal.natText n))

def dateText (stamp : Timestamp) : String :=
  padded 4 stamp.year ++ "-" ++ padded 2 stamp.month ++ "-" ++ padded 2 stamp.day

def clockText (clock : Clock) : String :=
  padded 2 clock.hour ++ ":" ++ padded 2 clock.minute ++ ":" ++ padded 2 clock.second
    ++ if clock.microsecond = 0 then "" else "." ++ padded 6 clock.microsecond

def call (name : String) (arguments : List Nat) : String :=
  "datetime." ++ name ++ "("
    ++ String.intercalate ", " (arguments.map fun n => String.ofList (Decimal.natText n)) ++ ")"

/-- Leaves out seconds that are zero together with what follows them. -/
def clockParts (clock : Clock) : List Nat :=
  [clock.hour, clock.minute]
    ++ if clock.microsecond ≠ 0 then [clock.second, clock.microsecond]
      else if clock.second ≠ 0 then [clock.second] else []

/-- The value of a timestamp, which must lie on the calendar. -/
def value (stamp : Timestamp) : Except Fault Value :=
  let date := [stamp.year, stamp.month, stamp.day]
  if !stamp.isValidDate then .error .wrongValue
  else match stamp.clock with
    | none => .ok (.thing "date" stamp.dateText (call "date" date))
    | some clock =>
      if !isValidClock clock then .error .wrongValue
      else
        let shown := stamp.universal
        let clock := shown.clock.getD clock
        if shown.year = 0 || 9999 < shown.year then .error .overflow
        else .ok (.thing "datetime" (shown.dateText ++ " " ++ clockText clock)
          (call "datetime" ([shown.year, shown.month, shown.day] ++ clockParts clock)))

end Timestamp

end StaticSite.Yaml
