import NanoCore.Foundation.KeyedTable
import NanoCore.Foundation.PythonDatetime

/-!
The tables of `app/memory/models.py`.  A column of type `DateTime` holds the
fields of a wall clock without an offset, so a row has integers for them.
-/

namespace NanoCore.Memory.Models

open NanoCore.Foundation.KeyedTable
open NanoCore.Foundation.PythonText

structure ChatMessage where
  id : Int
  conversationId : String := "default"
  role : String
  content : Text
  createdAt : Int
  deriving DecidableEq, Repr

/-- `COUNTDOWN_KIND` and `STOPWATCH_KIND`. -/
inductive TimerKind where
  | countdown
  | stopwatch
  deriving DecidableEq, Repr

structure Timer where
  id : Int
  kind : TimerKind := .countdown
  label : Text := "Timer".toList
  dueAt : Option Int := none
  durationSeconds : Option Int := none
  createdAt : Int
  deriving DecidableEq, Repr

structure InternalNote where
  id : Int
  kind : String
  title : Text
  content : Text
  payloadJson : Text
  status : String := "pending"
  attemptCount : Int := 0
  nextAttemptAt : Int
  createdAt : Int
  lastAttemptAt : Option Int := none
  deliveredAt : Option Int := none
  deriving DecidableEq, Repr

structure MeetingReminder where
  id : String
  calendarId : Text
  eventId : Text
  start : Int
  stop : Int
  summary : Text
  allDay : Bool := false
  leadMinutes : Int
  remindAt : Int
  firedAt : Option Int := none
  createdAt : Int
  updatedAt : Int
  deriving DecidableEq, Repr

/-- The columns of `uq_meeting_reminder_instance`. -/
def MeetingReminder.occurrence (reminder : MeetingReminder) : Text × Text × Int :=
  (reminder.calendarId, reminder.eventId, reminder.start)

abbrev ReminderTable :=
  UniqueTable String MeetingReminder MeetingReminder.id MeetingReminder.occurrence

structure Database where
  chatMessages : Table Int ChatMessage ChatMessage.id
  timers : Table Int Timer Timer.id
  internalNotes : Table Int InternalNote InternalNote.id
  meetingReminders : ReminderTable
  deriving DecidableEq

/-- A database right after `create_db_and_tables`. -/
def Database.empty : Database := ⟨.empty, .empty, .empty, .empty⟩

/-- The row id that SQLite gives to a new row: one more than the largest in use. -/
def nextRowid (ids : List Int) : Int := (ids.max?.map (· + 1)).getD 1

theorem lt_nextRowid {ids : List Int} {i : Int} (hmem : i ∈ ids) : i < nextRowid ids := by
  unfold nextRowid
  cases hmax : ids.max? with
  | none =>
      rw [List.max?_eq_none_iff.mp hmax] at hmem
      exact absurd hmem List.not_mem_nil
  | some largest =>
      exact Int.lt_add_one_of_le ((List.max?_eq_some_iff.mp hmax).2 i hmem)

end NanoCore.Memory.Models
