import NanoCore.Runtime.State
import Mathlib.Data.List.Sort

namespace NanoCore.Memory.Repository

open NanoCore.Foundation.KeyedTable
open NanoCore.Foundation.PythonDatetime
open NanoCore.Foundation.PythonText
open NanoCore.Memory.Models
open NanoCore.Runtime.State

/-- `MIN_VALID_TIMER_START`: 2020-01-01 UTC. -/
def minValidTimerStart : Int := 1577836800 * second

def normalizeUtc (value : Datetime) : Except PyError Datetime :=
  match value.utcoffset with
  | none => .ok ⟨value.wall, some 0⟩
  | some _ => value.astimezoneUtc

/-- `is_plausible_timer_start`.  Its callers pass what `normalize_utc` has returned,
and of that it makes the same value again. -/
def isPlausibleTimerStart (normalized : Datetime) : Bool :=
  minValidTimerStart ≤ normalized.instant

theorem isPlausibleTimerStart_utc_iff {start : Int} :
    isPlausibleTimerStart (.utc start) = true ↔ minValidTimerStart ≤ start := by
  rw [isPlausibleTimerStart, decide_eq_true_iff, Datetime.instant_utc]

/-- The start time to store: the given one when it is plausible, else the clock's. -/
def resolveTimerStartTime (startedAt : Option Datetime) (server : Server) :
    Server × Except PyError Datetime :=
  let fromClock : Server × Except PyError Datetime :=
    if isPlausibleTimerStart (.utc server.clock.now) then
      (server.tick, .ok (.utc server.clock.now))
    else (server.tick, .error .valueError)
  match startedAt with
  | none => fromClock
  | some value =>
      match normalizeUtc value with
      | .error e => (server, .error e)
      | .ok candidate =>
          if isPlausibleTimerStart candidate then (server, .ok candidate)
          else fromClock

def insertTimer (row : Int → Timer) (server : Server) : Server × Timer :=
  let timer := row (nextRowid (server.database.timers.rows.map Timer.id))
  ((server.onTimers (server.database.timers.put timer)).record (.created timer), timer)

def addTimer (label : Text) (dueAt : Datetime) (durationSeconds : Int)
    (startedAt : Option Datetime) (server : Server) : Server × Except PyError Timer :=
  match resolveTimerStartTime startedAt server with
  | (server, .error e) => (server, .error e)
  | (server, .ok startTime) =>
      let (server, timer) := insertTimer
        (fun id =>
          { id, kind := .countdown, label := if label = [] then "Timer".toList else label
            dueAt := some dueAt.wall, durationSeconds := some durationSeconds
            createdAt := startTime.wall })
        server
      (server, .ok timer)

def addStopwatch (label : Text) (startedAt : Option Datetime) (server : Server) :
    Server × Except PyError Timer :=
  match resolveTimerStartTime startedAt server with
  | (server, .error e) => (server, .error e)
  | (server, .ok startTime) =>
      let (server, timer) := insertTimer
        (fun id =>
          { id, kind := .stopwatch, label := if label = [] then "Stopwatch".toList else label
            dueAt := none, createdAt := startTime.wall })
        server
      (server, .ok timer)

/-- `ORDER BY created_at, id`. -/
def byCreation (a b : Timer) : Bool :=
  a.createdAt < b.createdAt || (a.createdAt = b.createdAt && a.id ≤ b.id)

/-- `ORDER BY due_at, id`; SQLite puts a missing due time first. -/
def byDueTime (a b : Timer) : Bool :=
  match a.dueAt, b.dueAt with
  | none, none => a.id ≤ b.id
  | none, some _ => true
  | some _, none => false
  | some due, some due' => due < due' || (due = due' && a.id ≤ b.id)

def listTimers (db : Database) : List Timer := db.timers.rows.insertionSort (byCreation · ·)

def listCountdownTimers (db : Database) : List Timer :=
  (db.timers.filter fun timer => timer.kind = .countdown).rows.insertionSort (byDueTime · ·)

def listStopwatches (db : Database) : List Timer :=
  (db.timers.filter fun timer => timer.kind = .stopwatch).rows.insertionSort (byCreation · ·)

def getTimer (timerId : Int) (db : Database) : Option Timer := db.timers.find? timerId

/-- `kind = 'countdown' AND due_at IS NOT NULL AND due_at <= now`. -/
def isDue (now : Int) (timer : Timer) : Bool :=
  timer.kind = .countdown && timer.dueAt.any fun due => due ≤ now

def listDueTimers (now : Int) (db : Database) : List Timer :=
  (db.timers.filter (isDue now)).rows.insertionSort (byDueTime · ·)

def setLabel (label : Text) (timer : Timer) : Timer := { timer with label := label }

/-- The row with its new label; nothing when there is no such row. -/
def updateTimerLabel (timerId : Int) (label : Text) (server : Server) : Server × Option Timer :=
  match getTimer timerId server.database with
  | none => (server, none)
  | some timer =>
      (server.onTimers (server.database.timers.modify timerId (setLabel label) fun _ => rfl),
        some (setLabel label timer))

def deleteTimer (timerId : Int) (server : Server) : Server × Bool :=
  match getTimer timerId server.database with
  | none => (server, false)
  | some _ => (server.onTimers (server.database.timers.erase timerId), true)

/-- Every row of the models `ChatMessage`, `Timer` and `InternalNote` deleted. -/
def wipeDatabase (server : Server) : Server :=
  let db := server.database
  { server with
    database :=
      { db with
        chatMessages := db.chatMessages.eraseAll (db.chatMessages.rows.map ChatMessage.id)
        timers := db.timers.eraseAll (db.timers.rows.map Timer.id)
        internalNotes := db.internalNotes.eraseAll (db.internalNotes.rows.map InternalNote.id) } }

/-- The message stored under the next id, at the next reading of the clock. -/
def addChatMessage (conversationId role : String) (content : Text) (server : Server) : Server :=
  let messages := server.database.chatMessages
  let message : ChatMessage :=
    { id := nextRowid (messages.rows.map ChatMessage.id), conversationId, role, content
      createdAt := server.clock.now }
  { server.tick with database := { server.database with chatMessages := messages.put message } }

/-- The last messages of a conversation, oldest first. -/
def listChatMessages (conversationId : String) (limit : Nat) (db : Database) : List ChatMessage :=
  let messages := db.chatMessages.filter fun message => message.conversationId = conversationId
  ((messages.rows.insertionSort fun a b =>
    b.createdAt < a.createdAt || (a.createdAt = b.createdAt && b.id ≤ a.id)).take limit).reverse

theorem mem_listCountdownTimers {db : Database} {timer : Timer} :
    timer ∈ listCountdownTimers db ↔ timer ∈ db.timers ∧ timer.kind = .countdown := by
  rw [listCountdownTimers, List.mem_insertionSort, Table.mem_rows, Table.mem_filter,
    decide_eq_true_eq]

theorem mem_listStopwatches {db : Database} {timer : Timer} :
    timer ∈ listStopwatches db ↔ timer ∈ db.timers ∧ timer.kind = .stopwatch := by
  rw [listStopwatches, List.mem_insertionSort, Table.mem_rows, Table.mem_filter,
    decide_eq_true_eq]

theorem mem_listDueTimers {now : Int} {db : Database} {timer : Timer} :
    timer ∈ listDueTimers now db ↔ timer ∈ db.timers ∧ isDue now timer = true := by
  rw [listDueTimers, List.mem_insertionSort, Table.mem_rows, Table.mem_filter]

theorem isDue_iff {now : Int} {timer : Timer} :
    isDue now timer = true ↔
      timer.kind = .countdown ∧ ∃ due, timer.dueAt = some due ∧ due ≤ now := by
  simp only [isDue, Bool.and_eq_true, decide_eq_true_eq, Option.any_eq_true]

end NanoCore.Memory.Repository
