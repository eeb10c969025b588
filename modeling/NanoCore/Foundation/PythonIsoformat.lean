import NanoCore.Foundation.PythonDatetime

namespace NanoCore.Foundation.PythonIsoformat

open NanoCore.Foundation.PythonText
open NanoCore.Foundation.PythonDatetime

def padded (width : Nat) (n : Nat) : Text :=
  let digits := (toString n).toList
  List.replicate (width - digits.length) '0' ++ digits

def microsPerDay : Int := 86400 * second

/-- Year, month and day of a count of days since 1970-01-01.  Years are counted
from March, in eras of 400 years, so that leap days end a year. -/
def civilOfDays (days : Int) : Int × Nat × Nat :=
  let shifted := days + 719468
  let era := shifted / 146097
  let dayOfEra := (shifted % 146097).toNat
  let yearOfEra :=
    (dayOfEra - dayOfEra / 1460 + dayOfEra / 36524 - dayOfEra / 146096) / 365
  let dayOfYear := dayOfEra - (365 * yearOfEra + yearOfEra / 4 - yearOfEra / 100)
  let marchMonth := (5 * dayOfYear + 2) / 153
  let day := dayOfYear - (153 * marchMonth + 2) / 5 + 1
  let month := if marchMonth < 10 then marchMonth + 3 else marchMonth - 9
  (era * 400 + yearOfEra + (if month ≤ 2 then 1 else 0), month, day)

def formatTimeOfDay (micros : Nat) : Text :=
  let seconds := micros / 1000000
  padded 2 (seconds / 3600) ++ [':'] ++ padded 2 (seconds / 60 % 60) ++ [':'] ++
    padded 2 (seconds % 60) ++
    (if micros % 1000000 = 0 then [] else '.' :: padded 6 (micros % 1000000))

def formatOffset (offset : Int) : Text :=
  let micros := offset.natAbs
  let seconds := micros / 1000000
  (if offset < 0 then '-' else '+') :: padded 2 (seconds / 3600) ++ [':'] ++
    padded 2 (seconds / 60 % 60) ++
    (if micros % 60000000 = 0 then []
    else ':' :: padded 2 (seconds % 60) ++
      (if micros % 1000000 = 0 then [] else '.' :: padded 6 (micros % 1000000)))

def isoformat (d : Datetime) : Text :=
  let (year, month, day) := civilOfDays (d.wall / microsPerDay)
  padded 4 year.toNat ++ ['-'] ++ padded 2 month ++ ['-'] ++ padded 2 day ++ ['T'] ++
    formatTimeOfDay (d.wall % microsPerDay).toNat ++
    (d.utcoffset.map formatOffset).getD []

example : isoformat ⟨1709208000 * second + 5, some (-(5 * 60 + 30) * minute)⟩ =
    "2024-02-29T12:00:00.000005-05:30".toList := by decide +kernel

end NanoCore.Foundation.PythonIsoformat
