import NanoCore.Foundation.PythonIsoformat

namespace NanoCore.Foundation.PythonIsoparse

open NanoCore.Foundation.PythonText
open NanoCore.Foundation.PythonDatetime
open NanoCore.Foundation.PythonIsoformat

def isLeap (year : Nat) : Bool := year % 4 = 0 && (year % 100 ≠ 0 || year % 400 = 0)

def daysInMonth (year month : Nat) : Nat :=
  if month = 2 then if isLeap year then 29 else 28
  else if month = 4 || month = 6 || month = 9 || month = 11 then 30
  else 31

def daysOfCivil (year month day : Nat) : Int :=
  let marchYear : Int := if month ≤ 2 then (year : Int) - 1 else year
  let yearOfEra := (marchYear % 400).toNat
  let marchMonth := if month ≤ 2 then month + 9 else month - 3
  let dayOfYear := (153 * marchMonth + 2) / 5 + day - 1
  let dayOfEra := 365 * yearOfEra + yearOfEra / 4 - yearOfEra / 100 + dayOfYear
  marchYear / 400 * 146097 + dayOfEra - 719468

def dateOfCivil (year month day : Nat) : Option Int :=
  if 1 ≤ year ∧ 1 ≤ month ∧ month ≤ 12 ∧ 1 ≤ day ∧ day ≤ daysInMonth year month then
    some (daysOfCivil year month day)
  else none

def weekday (days : Int) : Int := (days + 3) % 7

def isoWeek1Monday (year : Nat) : Int :=
  let firstDay := daysOfCivil year 1 1
  firstDay - weekday firstDay + (if 3 < weekday firstDay then 7 else 0)

def hasWeek53 (year : Nat) : Bool :=
  let firstWeekday := weekday (daysOfCivil year 1 1)
  firstWeekday = 3 || (firstWeekday = 2 && isLeap year)

def dateOfIsoWeek (year week day : Nat) : Option Int :=
  if 1 ≤ year ∧ 1 ≤ week ∧ (week ≤ 52 ∨ week = 53 ∧ hasWeek53 year = true) ∧ 1 ≤ day ∧ day ≤ 7 then
    some (isoWeek1Monday year + 7 * (week - 1) + (day - 1))
  else none

def parseDigits (width : Nat) (s : Text) : Option (Nat × Text) :=
  if (s.take width).length = width ∧ (s.take width).all Char.isDigit then
    some ((s.take width).foldl (fun n c => 10 * n + (c.toNat - 48)) 0, s.drop width)
  else none

def parseSeparator (separator s : Text) : Option Text :=
  if separator.isPrefixOf s then some (s.drop separator.length) else none

/-- `YYYY-MM-DD`, `YYYYMMDD`, `YYYY-Www-D`, `YYYYWwwD`, or a week without its day. -/
def parseDate (s : Text) : Option Int := do
  let (year, rest) ← parseDigits 4 s
  let separator : Text := if rest.head? = some '-' then ['-'] else []
  match rest.drop separator.length with
  | 'W' :: rest =>
      let (week, rest) ← parseDigits 2 rest
      if rest = [] then dateOfIsoWeek year week 1
      else
        let (day, rest) ← parseDigits 1 (← parseSeparator separator rest)
        if rest = [] then dateOfIsoWeek year week day else none
  | rest =>
      let (month, rest) ← parseDigits 2 rest
      let (day, rest) ← parseDigits 2 (← parseSeparator separator rest)
      if rest = [] then dateOfCivil year month day else none

structure ClockFields where
  hour : Nat
  minute : Nat := 0
  second : Nat := 0
  microsecond : Nat := 0

def microsOfClock (fields : ClockFields) : Int :=
  ((fields.hour * 60 + fields.minute) * 60 + fields.second) * second + fields.microsecond

/-- The first six digits of a fraction of a second. -/
def parseFraction : Text → Option Nat
  | c :: d :: digits =>
      if (c = '.' ∨ c = ',') ∧ (d :: digits).all Char.isDigit then
        let kept := (d :: digits).take 6
        (parseDigits 6 (kept ++ List.replicate (6 - kept.length) '0')).map Prod.fst
      else none
  | _ => none

/-- `HH[:MM[:SS[.fff]]]`, or the same without colons. -/
def parseClock (s : Text) : Option ClockFields := do
  let (hour, rest) ← parseDigits 2 s
  if rest = [] then return { hour }
  let separator : Text := if rest.head? = some ':' then [':'] else []
  let (minute, rest) ← parseDigits 2 (← parseSeparator separator rest)
  if rest = [] then return { hour, minute }
  let (second, rest) ← parseDigits 2 (← parseSeparator separator rest)
  if rest = [] then return { hour, minute, second }
  return { hour, minute, second, microsecond := ← parseFraction rest }

def isZoneStart (c : Char) : Bool := c == '+' || c == '-' || c == 'Z'

/-- The offset after the clock: none, `Z`, or a sign and a clock below 24 hours. -/
def parseZone : Text → Option (Option Int)
  | [] => some none
  | sign :: rest =>
      if sign = 'Z' then if rest = [] then some (some 0) else none
      else do
        let offset := microsOfClock (← parseClock rest)
        if offset < microsPerDay then
          some (some (if sign = '-' then -offset else offset))
        else none

def parseTime (s : Text) : Option (Int × Option Int) := do
  let (clock, zone) := s.span fun c => !isZoneStart c
  let fields ← parseClock clock
  if fields.hour < 24 ∧ fields.minute < 60 ∧ fields.second < 60 then
    return (microsOfClock fields, ← parseZone zone)
  else none

/-- Where the date ends.  After a week the separator may be a digit or a hyphen,
so the text behind it decides. -/
def separatorLocation (s : Text) : Nat :=
  if s.length = 7 then 7
  else if s[4]? = some '-' then
    if s[5]? = some 'W' then
      if s[8]? = some '-' ∧ ¬ (s[10]?.any Char.isDigit = true) then 10 else 8
    else 10
  else if s[4]? = some 'W' then
    let firstNonDigit := 7 + ((s.drop 7).takeWhile Char.isDigit).length
    if firstNonDigit < 9 then firstNonDigit
    else if firstNonDigit % 2 = 0 then 7 else 8
  else 8

def parseDatetime (s : Text) : Option Datetime := do
  let days ← parseDate (s.take (separatorLocation s))
  let (time, utcoffset) ← match s.drop (separatorLocation s) with
    | [] => some (0, none)
    | _ :: rest => parseTime rest
  let wall := days * microsPerDay + time
  if minWall ≤ wall ∧ wall ≤ maxWall then return ⟨wall, utcoffset⟩ else none

def fromisoformat (s : Text) : Except PyError Datetime :=
  match parseDatetime s with
  | some d => .ok d
  | none => .error .valueError

example : fromisoformat "2024-02-29T12:00:00,0000051-05:30".toList =
    .ok ⟨1709208000 * second + 5, some (-(5 * 60 + 30) * minute)⟩ := by decide +kernel

example : fromisoformat "2026W537".toList = .ok ⟨1798934400 * second, none⟩ := by decide +kernel

end NanoCore.Foundation.PythonIsoparse
