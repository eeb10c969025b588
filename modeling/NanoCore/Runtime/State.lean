import NanoCore.Memory.Models

/-!
The state of the running server that timers and reminders share: the system
clock, the database, the scheduler's job table and the calls to the activity
log.
-/

namespace NanoCore.Runtime.State

open NanoCore.Foundation.KeyedTable
open NanoCore.Foundation.PythonDatetime
open NanoCore.Foundation.PythonText
open NanoCore.Memory.Models

/-- The job ids `timer:<id>` and `meeting_reminder:<id>`.  The id fixes the
function of the job and its argument. -/
inductive JobId where
  | timer (timerId : Int)
  | meetingReminder (reminderId : String)
  deriving DecidableEq, Repr

structure Job where
  id : JobId
  runDate : Int
  deriving DecidableEq, Repr

abbrev JobTable := Table JobId Job Job.id

inductive ActivityCall where
  | log (title detail source : Text)
  | announceVoice (text : Text)
  | working (title detail source : Text)
  | standby (title detail source : Text)
  deriving DecidableEq, Repr

/-- What happens to the rows of the timer table, for the statements about runs:
no function reads it. -/
inductive TimerEvent where
  | created (timer : Timer)
  /-- The reading of the clock at which the row was found due. -/
  | completed (timer : Timer) (now : Int)
  deriving DecidableEq, Repr

def TimerEvent.timer : TimerEvent → Timer
  | .created timer => timer
  | .completed timer _ => timer

structure Server where
  clock : Clock
  database : Database
  jobs : JobTable
  activity : List ActivityCall
  /-- Latest first. -/
  history : List TimerEvent

namespace Server

def initial (clock : Clock) : Server := ⟨clock, .empty, .empty, [], []⟩

def tick (server : Server) : Server := { server with clock := server.clock.tick }

def addActivity (server : Server) (call : ActivityCall) : Server :=
  { server with activity := server.activity ++ [call] }

def record (server : Server) (event : TimerEvent) : Server :=
  { server with history := event :: server.history }

def onTimers (server : Server) (timers : Table Int Timer Timer.id) : Server :=
  { server with database := { server.database with timers := timers } }

def onReminders (server : Server) (meetingReminders : ReminderTable) : Server :=
  { server with database := { server.database with meetingReminders } }

def onNotes (server : Server) (internalNotes : Table Int InternalNote InternalNote.id) : Server :=
  { server with database := { server.database with internalNotes } }

def onJobs (server : Server) (jobs : JobTable) : Server := { server with jobs := jobs }

section Fields

variable (server : Server) (call : ActivityCall) (event : TimerEvent)
variable (timers : Table Int Timer Timer.id) (reminders : ReminderTable) (jobs : JobTable)

@[simp] theorem tick_clock : server.tick.clock = server.clock.tick := rfl
@[simp] theorem tick_database : server.tick.database = server.database := rfl
@[simp] theorem tick_jobs : server.tick.jobs = server.jobs := rfl
@[simp] theorem tick_history : server.tick.history = server.history := rfl
@[simp] theorem addActivity_clock : (server.addActivity call).clock = server.clock := rfl
@[simp] theorem addActivity_database : (server.addActivity call).database = server.database := rfl
@[simp] theorem addActivity_jobs : (server.addActivity call).jobs = server.jobs := rfl
@[simp] theorem addActivity_history : (server.addActivity call).history = server.history := rfl
@[simp] theorem record_clock : (server.record event).clock = server.clock := rfl
@[simp] theorem record_database : (server.record event).database = server.database := rfl
@[simp] theorem record_jobs : (server.record event).jobs = server.jobs := rfl
@[simp] theorem record_history : (server.record event).history = event :: server.history := rfl
@[simp] theorem onTimers_clock : (server.onTimers timers).clock = server.clock := rfl
@[simp] theorem onTimers_timers : (server.onTimers timers).database.timers = timers := rfl
@[simp] theorem onTimers_jobs : (server.onTimers timers).jobs = server.jobs := rfl
@[simp] theorem onTimers_history : (server.onTimers timers).history = server.history := rfl
@[simp] theorem onReminders_clock : (server.onReminders reminders).clock = server.clock := rfl
@[simp] theorem onReminders_timers :
    (server.onReminders reminders).database.timers = server.database.timers := rfl
@[simp] theorem onReminders_meetingReminders :
    (server.onReminders reminders).database.meetingReminders = reminders := rfl
@[simp] theorem onReminders_jobs : (server.onReminders reminders).jobs = server.jobs := rfl
@[simp] theorem onReminders_history :
    (server.onReminders reminders).history = server.history := rfl
@[simp] theorem onJobs_clock : (server.onJobs jobs).clock = server.clock := rfl
@[simp] theorem onJobs_database : (server.onJobs jobs).database = server.database := rfl
@[simp] theorem onJobs_jobs : (server.onJobs jobs).jobs = jobs := rfl
@[simp] theorem onJobs_history : (server.onJobs jobs).history = server.history := rfl

end Fields

end Server

end NanoCore.Runtime.State
