import NanoCore.Timers.Lifecycle
import NanoCore.Timers.Serialization

namespace NanoCore.Api.Timers

open NanoCore.Foundation.PythonDatetime
open NanoCore.Foundation.PythonText
open NanoCore.Memory.Models
open NanoCore.Memory.Repository
open NanoCore.Runtime.State
open NanoCore.Timers.Labels
open NanoCore.Timers.Lifecycle
open NanoCore.Timers.Operations
open NanoCore.Timers.Serialization

/-- An `HTTPException`, or another exception that a handler lets through. -/
inductive RequestError where
  | http (statusCode : Nat) (detail : Text)
  | raised (e : PyError)
  deriving DecidableEq, Repr

def startAtPastGrace : Int := 30 * second

def normalizeRequestStartAt (value : Option Datetime) (server : Server) :
    Server × Except RequestError (Option Datetime) :=
  match value with
  | none => (server, .ok none)
  | some value =>
      match normalizeUtc value with
      | .error e => (server, .error (.raised e))
      | .ok startedAt =>
          if !isPlausibleTimerStart startedAt then
            (server, .error (.http 400 "start_at is not a valid timestamp.".toList))
          else if startedAt.instant < server.clock.now - startAtPastGrace then
            (server.tick, .error (.http 400 "start_at cannot be in the past.".toList))
          else (server.tick, .ok (some startedAt))

theorem isUtc_normalizeUtc {value startedAt : Datetime} (h : normalizeUtc value = .ok startedAt) :
    startedAt.IsUtc := by
  unfold normalizeUtc at h
  split at h
  · cases h
    rfl
  · rw [Datetime.astimezoneUtc_eq_ok h]
    exact Datetime.isUtc_utc _

/-- Every start time that a request hands to `create_countdown_timer` is of zone UTC. -/
theorem isUtc_normalizeRequestStartAt {value : Option Datetime} {server server' : Server}
    {startedAt : Option Datetime}
    (h : normalizeRequestStartAt value server = (server', .ok startedAt)) :
    ∀ start, startedAt = some start → start.IsUtc := by
  rintro start rfl
  cases value with
  | none => cases h
  | some value =>
      cases hnormalized : normalizeUtc value with
      | error e =>
          simp only [normalizeRequestStartAt, hnormalized] at h
          cases h
      | ok candidate =>
          simp only [normalizeRequestStartAt, hnormalized] at h
          split at h
          · cases h
          · split at h <;> cases h
            exact isUtc_normalizeUtc hnormalized

/-- So the call is an event of the runs of `Timers.Lifecycle`. -/
theorem exists_event_of_request (u : PyData) {value : Option Datetime} {server server' : Server}
    {startedAt : Option Datetime}
    (h : normalizeRequestStartAt value server = (server', .ok startedAt)) (durationSeconds : Int)
    (label : Text) :
    ∃ event, step u server' event =
      (createCountdownTimer durationSeconds label startedAt server').1 := by
  cases startedAt with
  | none => exact ⟨.createCountdownTimer durationSeconds label none, rfl⟩
  | some start =>
      exact ⟨.createCountdownTimer durationSeconds label
        (some ⟨start, isUtc_normalizeRequestStartAt h start rfl⟩), rfl⟩

/-- `_require_usable_system_clock_when_needed` for a normalized start. -/
def requireUsableSystemClockWhenNeeded (startAt : Option Datetime) (server : Server) :
    Server × Except RequestError Unit :=
  match startAt with
  | some start =>
      if isPlausibleTimerStart start then (server, .ok ())
      else requireUsable server
  | none => requireUsable server
where
  requireUsable (server : Server) : Server × Except RequestError Unit :=
    if server.clock.now < minValidTimerStart then
      (server.tick, .error (.http 503
        "System clock is not set. Wait for network time sync, then try again.".toList))
    else (server.tick, .ok ())

/-- A body that the schema accepts: the duration is positive, and the start is a
`datetime`. -/
structure TimerCreate where
  durationSeconds : Int
  label : Text := "Timer".toList
  startAt : Option Datetime := none
  duration_pos : 0 < durationSeconds
  start_range : ∀ start, startAt = some start → minWall ≤ start.wall ∧ start.wall ≤ maxWall

/-- What `post_timer` answers once `create_countdown_timer` has returned or raised. -/
def answerCreated : Server × Except PyError Timer → Server × Except RequestError CountdownPayload
  | (server, .error (.toolError message)) => (server, .error (.http 400 message))
  | (server, .error e) => (server, .error (.raised e))
  | (server, .ok timer) =>
      match serializeTimerById timer.id server with
      | (server, none) => (server, .error (.http 500 "Timer could not be serialized.".toList))
      | (server, some payload) => (server, .ok payload)

def postTimer (body : TimerCreate) (server : Server) :
    Server × Except RequestError CountdownPayload :=
  match normalizeTimerLabel body.label "Timer" with
  | .error message => (server, .error (.http 400 message))
  | .ok label =>
      match normalizeRequestStartAt body.startAt server with
      | (server, .error e) => (server, .error e)
      | (server, .ok startedAt) =>
          match requireUsableSystemClockWhenNeeded startedAt server with
          | (server, .error e) => (server, .error e)
          | (server, .ok ()) =>
              answerCreated (createCountdownTimer body.durationSeconds label startedAt server)

/-- The two PATCH requests: a row of the kind gets the new label. -/
def patchRow {α : Type} (kind : TimerKind) (default : String) (notFound : Text)
    (serializeById : Int → Server → Server × Option α) (rowId : Int) (bodyLabel : Text)
    (server : Server) : Server × Except RequestError α :=
  match getTimer rowId server.database with
  | none => (server, .error (.http 404 notFound))
  | some row =>
      if row.kind ≠ kind then (server, .error (.http 404 notFound))
      else
        match normalizeTimerLabel bodyLabel default with
        | .error message => (server, .error (.http 400 message))
        | .ok label =>
            match updateTimerLabel rowId label server with
            | (server, none) => (server, .error (.http 404 notFound))
            | (server, some _) =>
                match serializeById rowId server with
                | (server, none) => (server, .error (.http 404 notFound))
                | (server, some payload) => (server, .ok payload)

def patchTimer (timerId : Int) (bodyLabel : Text) (server : Server) :
    Server × Except RequestError CountdownPayload :=
  patchRow .countdown "Timer" "Timer not found.".toList serializeTimerById timerId bodyLabel server

def patchStopwatch (stopwatchId : Int) (bodyLabel : Text) (server : Server) :
    Server × Except RequestError StopwatchPayload :=
  patchRow .stopwatch "Stopwatch" "Stopwatch not found.".toList serializeStopwatchById stopwatchId
    bodyLabel server

/-- The two DELETE requests. -/
def deleteRow (notFound : Text) (remove : Int → Server → Server × Bool) (rowId : Int)
    (server : Server) : Server × Except RequestError Unit :=
  match remove rowId server with
  | (server, false) => (server, .error (.http 404 notFound))
  | (server, true) => (server, .ok ())

def deleteTimer (timerId : Int) (server : Server) : Server × Except RequestError Unit :=
  deleteRow "Timer not found.".toList removeCountdownTimer timerId server

def deleteStopwatch (stopwatchId : Int) (server : Server) : Server × Except RequestError Unit :=
  deleteRow "Stopwatch not found.".toList removeStopwatch stopwatchId server

end NanoCore.Api.Timers
