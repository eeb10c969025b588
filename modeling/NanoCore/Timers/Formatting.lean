import NanoCore.Common.Duration
import NanoCore.Foundation.PythonDatetime

namespace NanoCore.Timers.Formatting

open NanoCore.Foundation.PythonDatetime
open NanoCore.Foundation.PythonText
open NanoCore.Common.Duration

/-- `int((b - a).total_seconds())`. -/
def secondsBetween (a b : Int) : Int := (b - a).tdiv second

def timerRemainingText (dueAt now : Int) : Text :=
  (humanizeDurationSeconds (max 0 (secondsBetween now dueAt))).toList

def timerElapsedText (startedAt now : Int) : Text :=
  (humanizeDurationSeconds (max 0 (secondsBetween startedAt now))).toList

def formatCountdownTimer (label : Text) (dueAt : Option Int) (now : Int) : Text :=
  match dueAt with
  | none => label ++ " countdown is active.".toList
  | some due => label ++ " has ".toList ++ timerRemainingText due now ++ " remaining.".toList

def formatStopwatch (label : Text) (startedAt now : Int) : Text :=
  label ++ " stopwatch has been running for ".toList ++ timerElapsedText startedAt now ++ ['.']

/-- `label.strip() or default`. -/
def strippedOr (default : String) (label : Text) : Text :=
  if strip label = [] then default.toList else strip label

/-- Title and detail of the announcement of a finished countdown. -/
def formatDueTimer (label : Text) (createdAt dueAt : Int) (durationSeconds : Option Int) :
    Text × Text :=
  let displayLabel := strippedOr "Timer" label
  let duration := match durationSeconds with
    | some n => if n ≤ 0 then max 1 (secondsBetween createdAt dueAt) else n
    | none => max 1 (secondsBetween createdAt dueAt)
  let labelSuffix := if displayLabel = "Timer".toList then [] else " for ".toList ++ displayLabel
  ("Timer complete.".toList,
    "Your ".toList ++ (humanizeDurationSeconds duration).toList ++ " timer".toList ++
      labelSuffix ++ " is complete.".toList)

end NanoCore.Timers.Formatting
