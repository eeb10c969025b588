import NanoCore.Memory.Repository
import NanoCore.Timers.Formatting

namespace NanoCore.Timers.Serialization

open NanoCore.Foundation.PythonDatetime
open NanoCore.Foundation.PythonText
open NanoCore.Memory.Models
open NanoCore.Memory.Repository
open NanoCore.Runtime.State
open NanoCore.Timers.Formatting

def maxFutureStart : Int := 5 * minute

/-- `resolve_stopwatch_started_at` of a stored start at a reading of the clock. -/
def resolveStopwatchStartedAt (value now : Int) : Datetime :=
  let current := Datetime.utc now
  let started := (Datetime.stored value).normalizeTimestamp
  if started.instant < minValidTimerStart then current
  else if current.instant + maxFutureStart < started.instant then current
  else started

/-- The payload of a countdown, with the datetimes whose `isoformat` it holds. -/
structure CountdownPayload where
  id : Int
  label : Text
  durationSeconds : Int
  startedAt : Datetime
  dueAt : Datetime
  remainingSeconds : Int
  deriving DecidableEq, Repr

structure StopwatchPayload where
  id : Int
  label : Text
  startedAt : Datetime
  elapsedSeconds : Int
  deriving DecidableEq, Repr

/-- The payload of a countdown at a reading of the clock. -/
def countdownPayload (timer : Timer) (dueAt durationSeconds now : Int) : CountdownPayload where
  id := timer.id
  label := strippedOr "Timer" timer.label
  durationSeconds := durationSeconds
  startedAt := resolveStopwatchStartedAt timer.createdAt now
  dueAt := (Datetime.stored dueAt).normalizeTimestamp
  remainingSeconds := max 0 (secondsBetween now dueAt)

def stopwatchPayload (stopwatch : Timer) (now : Int) : StopwatchPayload :=
  let startedAt := resolveStopwatchStartedAt stopwatch.createdAt now
  { id := stopwatch.id
    label := strippedOr "Stopwatch" stopwatch.label
    startedAt := startedAt
    elapsedSeconds := max 0 (secondsBetween startedAt.instant now) }

def serializeCountdown (timer : Timer) (server : Server) : Server × Option CountdownPayload :=
  match timer.dueAt, timer.durationSeconds with
  | some dueAt, some durationSeconds =>
      if durationSeconds ≤ 0 then (server, none)
      else
        (server.tick, some (countdownPayload timer dueAt durationSeconds server.clock.now))
  | _, _ => (server, none)

/-- The loop of `serialize_active_timers`: each countdown at its own reading of
the clock. -/
def serializeCountdowns : List Timer → Server → Server × List CountdownPayload
  | [], server => (server, [])
  | timer :: rest, server =>
      let (server, payload) := serializeCountdown timer server
      let (server, payloads) := serializeCountdowns rest server
      (server, payload.toList ++ payloads)

def serializeActiveTimers (server : Server) : Server × List CountdownPayload :=
  serializeCountdowns (listCountdownTimers server.database) server

def serializeTimerById (timerId : Int) (server : Server) : Server × Option CountdownPayload :=
  match getTimer timerId server.database with
  | none => (server, none)
  | some timer =>
      if timer.kind ≠ .countdown then (server, none) else serializeCountdown timer server

def serializeStopwatchById (stopwatchId : Int) (server : Server) :
    Server × Option StopwatchPayload :=
  match getTimer stopwatchId server.database with
  | none => (server, none)
  | some stopwatch =>
      if stopwatch.kind ≠ .stopwatch then (server, none)
      else (server.tick, some (stopwatchPayload stopwatch server.clock.now))

variable {timer : Timer} {server : Server}

theorem serializeCountdown_eq {dueAt durationSeconds : Int} (hdue : timer.dueAt = some dueAt)
    (hduration : timer.durationSeconds = some durationSeconds) (hpos : 0 < durationSeconds) :
    serializeCountdown timer server =
      (server.tick, some (countdownPayload timer dueAt durationSeconds server.clock.now)) := by
  rw [serializeCountdown, hdue, hduration]
  exact if_neg (Int.not_le.mpr hpos)

end NanoCore.Timers.Serialization
