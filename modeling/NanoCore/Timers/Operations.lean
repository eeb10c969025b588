import NanoCore.Scheduler.Jobs
import NanoCore.Timers.Labels
import NanoCore.Foundation.PythonIsoformat

namespace NanoCore.Timers.Operations

open NanoCore.Foundation.PythonDatetime
open NanoCore.Foundation.PythonIsoformat
open NanoCore.Foundation.PythonText
open NanoCore.Common.Duration
open NanoCore.Memory.Models
open NanoCore.Memory.Repository
open NanoCore.Runtime.State
open NanoCore.Scheduler.Jobs
open NanoCore.Timers.Formatting
open NanoCore.Timers.Labels

def activeCountdownTimers (db : Database) : List Timer :=
  (listCountdownTimers db).insertionSort
    fun a b => a.dueAt.getD minWall ≤ b.dueAt.getD minWall

def activeStopwatches (db : Database) : List Timer := listStopwatches db

def removeOfKind (kind : TimerKind) (remove : Server → Server × Bool) (timerId : Int)
    (server : Server) : Server × Bool :=
  match getTimer timerId server.database with
  | none => (server, false)
  | some timer => if timer.kind ≠ kind then (server, false) else remove server

def removeCountdownTimer (timerId : Int) (server : Server) : Server × Bool :=
  removeOfKind .countdown (fun server => deleteTimer timerId (unscheduleTimer timerId server))
    timerId server

def removeStopwatch (stopwatchId : Int) (server : Server) : Server × Bool :=
  removeOfKind .stopwatch (deleteTimer stopwatchId) stopwatchId server

/-- `started_at or datetime.now(UTC)`, read as UTC when it is naive. -/
def countdownStart (startedAt : Option Datetime) (server : Server) : Server × Datetime :=
  match startedAt with
  | none => (server.tick, .utc server.clock.now)
  | some value => (server, value.normalizeTimestamp)

/-- `create_countdown_timer` up to the stored row, with the due time. -/
def insertCountdownTimer (durationSeconds : Int) (label : Text) (startedAt : Option Datetime)
    (server : Server) : Server × Except PyError (Timer × Datetime) :=
  if durationSeconds ≤ 0 then
    (server, .error (.toolError
      "Timer duration is required. Ask the user how long the timer should run.".toList))
  else
    let (server, startTime) := countdownStart startedAt server
    match startTime.add (durationSeconds * second) with
    | .error e => (server, .error e)
    | .ok dueAt =>
        match addTimer label dueAt durationSeconds (some startTime) server with
        | (server, .error e) => (server, .error e)
        | (server, .ok timer) => (server, .ok (timer, dueAt))

def scheduleCountdownTimer (durationSeconds : Int) (label : Text) (timerId : Int)
    (dueAt : Datetime) (server : Server) : Server :=
  (scheduleTimer timerId (some dueAt) server).addActivity
    (.log ("Timer started (" ++ humanizeDurationSeconds durationSeconds ++ ")").toList
      label "scheduler.timers".toList)

def createCountdownTimer (durationSeconds : Int) (label : Text) (startedAt : Option Datetime)
    (server : Server) : Server × Except PyError Timer :=
  match insertCountdownTimer durationSeconds label startedAt server with
  | (server, .error e) => (server, .error e)
  | (server, .ok (timer, dueAt)) =>
      (scheduleCountdownTimer durationSeconds label timer.id dueAt server, .ok timer)

def createStopwatch (label : Text) (startedAt : Option Datetime) (server : Server) :
    Server × Except PyError Timer :=
  match addStopwatch label startedAt server with
  | (server, .error e) => (server, .error e)
  | (server, .ok timer) =>
      (server.addActivity (.log "Stopwatch started.".toList label "scheduler.timers".toList),
        .ok timer)

/-- `args.get(name, "")` as a text. -/
def textArg (args : PyDict) (name : String) : Text :=
  match args.lookup name with
  | none => []
  | some value => value.toText

variable (u : PyData)

def startTimer (args : PyDict) (server : Server) : Server × Except PyError Text :=
  match durationSecondsFromToolArgs u args with
  | .error e => (server, .error e)
  | .ok durationSeconds =>
      let label := strippedOr "Timer" (textArg args "label")
      match createCountdownTimer durationSeconds label none server with
      | (server, .error e) => (server, .error e)
      | (server, .ok timer) =>
          let dueIso := match timer.dueAt with
            | none => []
            | some dueAt => isoformat (.utc dueAt)
          (server, .ok ("started timer ".toList ++ (toString timer.id).toList ++ ": ".toList ++
            label ++ " for ".toList ++ (toString durationSeconds).toList ++
            " seconds, due at ".toList ++ dueIso))

def startStopwatch (args : PyDict) (server : Server) : Server × Except PyError Text :=
  match createStopwatch (strippedOr "Stopwatch" (textArg args "label")) none server with
  | (server, .error e) => (server, .error e)
  | (server, .ok _) => (server, .ok "Stopwatch started.".toList)

def listTimers (server : Server) : Server × Text :=
  let countdownTimers := activeCountdownTimers server.database
  let stopwatches := activeStopwatches server.database
  if countdownTimers = [] ∧ stopwatches = [] then (server, "No active timers.".toList)
  else
    let now := server.clock.now
    let lines :=
      countdownTimers.map (fun timer => formatCountdownTimer timer.label timer.dueAt now) ++
        stopwatches.map fun stopwatch => formatStopwatch stopwatch.label stopwatch.createdAt now
    (server.tick,
      if lines.length = 1 then "You have one timer active. ".toList ++ lines.flatten
      else "You have ".toList ++ (toString lines.length).toList ++ " timers active:\n".toList ++
        List.intercalate ['\n'] lines)

/-- `str(args.get("label", "")).strip().lower()`. -/
def requestedLabel (args : PyDict) : Text := u.lower (strip (textArg args "label"))

def selectedTimers (args : PyDict) (db : Database) : List Timer :=
  (activeCountdownTimers db).filter fun timer =>
    timerMatchesCancelRequest u timer.id timer.label (args.lookup "timer_id")
      (requestedLabel u args)

def selectedStopwatches (args : PyDict) (db : Database) : List Timer :=
  (activeStopwatches db).filter fun stopwatch =>
    timerMatchesCancelRequest u stopwatch.id stopwatch.label (args.lookup "stopwatch_id")
      (requestedLabel u args)

def removeCountdownTimers (timers : List Timer) (server : Server) : Server :=
  timers.foldl (fun server timer => (removeCountdownTimer timer.id server).1) server

def removeStopwatches (stopwatches : List Timer) (server : Server) : Server :=
  stopwatches.foldl (fun server stopwatch => (removeStopwatch stopwatch.id server).1) server

def cancelTimers (args : PyDict) (server : Server) : Server × Except PyError Text :=
  let selected := selectedTimers u args server.database
  if selected = [] then
    (server,
      if givenId (args.lookup "timer_id") ≠ none ∨ requestedLabel u args ≠ [] then
        .error (.toolError "No matching active timers to cancel.".toList)
      else .ok "No active timers to cancel.".toList)
  else
    (removeCountdownTimers selected server,
      .ok (if selected.length = 1 then "Cancelled 1 timer.".toList
        else "Cancelled ".toList ++ (toString selected.length).toList ++ " timers: ".toList ++
          List.intercalate ", ".toList (selected.map Timer.label) ++ ".".toList))

def logStopwatchStopped (server : Server) : Server :=
  server.addActivity (.log "Stopwatch stopped.".toList [] "assistant.flows.timer".toList)

/-- `<count> <noun>`, with the noun in the plural unless the count is one. -/
def counted (count : Nat) (one many : String) : Text :=
  (toString count).toList ++ ' ' :: (if count = 1 then one else many).toList

def clearAllTimers (server : Server) : Server × Text :=
  let countdownTimers := activeCountdownTimers server.database
  let stopwatches := activeStopwatches server.database
  if countdownTimers = [] ∧ stopwatches = [] then (server, "No active timers.".toList)
  else
    let server := removeStopwatches stopwatches (removeCountdownTimers countdownTimers server)
    let server := if stopwatches = [] then server else logStopwatchStopped server
    let parts :=
      (if countdownTimers = [] then []
        else [counted countdownTimers.length "countdown timer" "countdown timers"]) ++
      (if stopwatches = [] then []
        else [counted stopwatches.length "stopwatch" "stopwatches"])
    (server, "Cleared ".toList ++ List.intercalate " and ".toList parts ++ ".".toList)

def stopStopwatches (args : PyDict) (server : Server) : Server × Except PyError Text :=
  let selected := selectedStopwatches u args server.database
  if selected = [] then
    (server,
      if givenId (args.lookup "stopwatch_id") ≠ none ∨ requestedLabel u args ≠ [] then
        .error (.toolError "No matching active stopwatches to stop.".toList)
      else .ok "No active stopwatches.".toList)
  else
    (logStopwatchStopped (removeStopwatches selected server),
      .ok (if selected.length = 1 then "Stopped 1 stopwatch.".toList
        else "Stopped ".toList ++ (toString selected.length).toList ++ " stopwatches.".toList))

/-- The two rename tools: of the rows listed, the target gets the new label. -/
def renameRow (items : Database → List Timer) (idName itemNoun default : String)
    (args : PyDict) (server : Server) : Server × Except PyError Text :=
  match givenId (args.lookup "new_label") with
  | none =>
      (server, .error (.toolError
        ("A new label is required to rename a " ++ itemNoun ++ ".").toList))
  | some newLabelRaw =>
      match resolveRenameTarget u (items server.database) (args.lookup idName)
          (strip (textArg args "label")) itemNoun with
      | .error e => (server, .error e)
      | .ok target =>
          match normalizeLabel newLabelRaw.toText default with
          | .error e => (server, .error e)
          | .ok newLabel =>
              match updateTimerLabel target.id newLabel server with
              | (server, none) =>
                  (server, .error (.toolError
                    ("No matching active " ++ itemNoun ++ " to rename.").toList))
              | (server, some _) =>
                  (server, .ok ("Renamed ".toList ++ itemNoun.toList ++ " to \"".toList ++
                    newLabel ++ "\".".toList))

def renameTimer (args : PyDict) (server : Server) : Server × Except PyError Text :=
  renameRow u activeCountdownTimers "timer_id" "timer" "Timer" args server

def renameStopwatch (args : PyDict) (server : Server) : Server × Except PyError Text :=
  renameRow u activeStopwatches "stopwatch_id" "stopwatch" "Stopwatch" args server

/-- The handlers that `app/tools/timer_tools.py` registers. -/
def runTimerTool (name : String) (args : PyDict) (server : Server) :
    Option (Server × Except PyError Text) :=
  if name = "start_timer" then some (startTimer u args server)
  else if name = "start_stopwatch" then some (startStopwatch args server)
  else if name = "list_timers" then some ((listTimers server).1, .ok (listTimers server).2)
  else if name = "cancel_timers" then some (cancelTimers u args server)
  else if name = "stop_stopwatches" then some (stopStopwatches u args server)
  else if name = "rename_timer" then some (renameTimer u args server)
  else if name = "rename_stopwatch" then some (renameStopwatch u args server)
  else if name = "clear_all_timers" then
    some ((clearAllTimers server).1, .ok (clearAllTimers server).2)
  else none

end NanoCore.Timers.Operations
