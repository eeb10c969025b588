import NanoCore.Memory.MeetingReminders
import NanoCore.Memory.Repository
import NanoCore.Timers.Formatting

namespace NanoCore.Scheduler.Jobs

open NanoCore.Foundation.KeyedTable
open NanoCore.Foundation.PythonDatetime
open NanoCore.Foundation.PythonText
open NanoCore.Memory.MeetingReminders
open NanoCore.Memory.Models
open NanoCore.Memory.Repository
open NanoCore.Runtime.State
open NanoCore.Timers.Formatting

def unscheduleJob (id : JobId) (server : Server) : Server :=
  server.onJobs (server.jobs.erase id)

/-- `add_job` with a date trigger, in place of a job with the same id. -/
def scheduleJob (id : JobId) (runAt : Option Datetime) (server : Server) : Server :=
  match runAt with
  | none => unscheduleJob id server
  | some runAt =>
      let runDate := max runAt.normalizeTimestamp.instant server.clock.now
      server.tick.onJobs (server.jobs.put ⟨id, runDate⟩)

def unscheduleTimer (timerId : Int) (server : Server) : Server :=
  unscheduleJob (.timer timerId) server

def scheduleTimer (timerId : Int) (dueAt : Option Datetime) (server : Server) : Server :=
  scheduleJob (.timer timerId) dueAt server

def unscheduleReminder (reminderId : String) (server : Server) : Server :=
  unscheduleJob (.meetingReminder reminderId) server

def scheduleReminder (reminderId : String) (remindAt : Option Datetime) (server : Server) :
    Server :=
  scheduleJob (.meetingReminder reminderId) remindAt server

def logCompletion (timer : Timer) (dueAt now : Int) (server : Server) : Server :=
  let (title, detail) := formatDueTimer timer.label timer.createdAt dueAt timer.durationSeconds
  ((server.addActivity (.log title detail "scheduler.timers".toList)).addActivity
    (.announceVoice detail)).record (.completed timer now)

def completeTimer (timerId : Int) (server : Server) : Server :=
  match getTimer timerId server.database with
  | none => unscheduleTimer timerId server
  | some timer =>
      match timer.kind, timer.dueAt with
      | .countdown, some dueAt =>
          if server.clock.now < dueAt then
            scheduleTimer timerId (some (.stored dueAt)) server.tick
          else
            unscheduleTimer timerId
              (deleteTimer timerId (logCompletion timer dueAt server.clock.now server.tick)).1
      | _, _ => unscheduleTimer timerId server

/-- One round of the loop in `sync_timer_schedules`. -/
def syncTimerSchedule (server : Server) (timer : Timer) : Server :=
  match timer.dueAt with
  | none => server
  | some dueAt => scheduleTimer timer.id (some (.stored dueAt)) server

def syncTimerSchedules (server : Server) : Server :=
  (listCountdownTimers server.database).foldl syncTimerSchedule server

def syncReminderSchedule (server : Server) (reminder : MeetingReminder) : Server :=
  scheduleReminder reminder.id (some (.stored reminder.remindAt)) server

def syncReminderSchedules (server : Server) : Server :=
  (listSchedulableReminders server.clock.now server.database).foldl syncReminderSchedule
    server.tick

/-- The server after `register_jobs`, which finds no job from before. -/
def registerJobs (clock : Clock) (db : Database) : Server :=
  syncReminderSchedules (syncTimerSchedules ⟨clock, db, .empty, [], []⟩)

def checkDueTimers (server : Server) : Server :=
  (listDueTimers server.clock.now server.database).foldl
    (fun server timer => completeTimer timer.id server) server.tick

/-- Seconds after which a late job is dropped. -/
def misfireGraceTime : Int := 60

/-- The scheduler taking up the job of a timer: the job leaves the table, and
its function runs unless the executor finds the job too late. -/
def runTimerJob (timerId : Int) (server : Server) : Server :=
  match server.jobs.find? (.timer timerId) with
  | none => server
  | some job =>
      if server.clock.now < job.runDate then server.tick
      else
        let server := unscheduleTimer timerId server.tick
        if job.runDate + misfireGraceTime * second < server.clock.now then server.tick
        else completeTimer timerId server.tick

def completionCalls (timer : Timer) (dueAt : Int) : List ActivityCall :=
  let (title, detail) := formatDueTimer timer.label timer.createdAt dueAt timer.durationSeconds
  [.log title detail "scheduler.timers".toList, .announceVoice detail]

/-- The calls of the activity hub by which a timer is told to be complete. -/
def tellsOfCompletion : ActivityCall → Bool
  | .log title _ _ => title = "Timer complete.".toList
  | .announceVoice _ => true
  | _ => false

def toldCompletions (server : Server) : List ActivityCall :=
  server.activity.filter tellsOfCompletion

theorem toldCompletions_addActivity {call : ActivityCall} (h : tellsOfCompletion call = false)
    (server : Server) : toldCompletions (server.addActivity call) = toldCompletions server := by
  rw [toldCompletions, Server.addActivity, List.filter_append, List.filter_singleton, h]
  exact List.append_nil _

theorem tellsOfCompletion_log {title : Text} (h : title = "Timer complete.".toList)
    (detail source : Text) : tellsOfCompletion (.log title detail source) = true := by
  rw [tellsOfCompletion]
  exact decide_eq_true h

theorem toldCompletions_logCompletion (timer : Timer) (dueAt now : Int) (server : Server) :
    toldCompletions (logCompletion timer dueAt now server) =
      toldCompletions server ++ completionCalls timer dueAt := by
  have hcalls : (logCompletion timer dueAt now server).activity =
      server.activity ++ completionCalls timer dueAt :=
    List.append_assoc server.activity [_] [_]
  have htells : ∀ call ∈ completionCalls timer dueAt, tellsOfCompletion call = true :=
    List.forall_mem_cons.mpr ⟨tellsOfCompletion_log rfl _ _, List.forall_mem_singleton.mpr rfl⟩
  rw [toldCompletions, hcalls, List.filter_append, List.filter_eq_self.mpr htells]
  rfl

structure OnlySchedules (server server' : Server) : Prop where
  clock : server.clock.latest ≤ server'.clock.latest
  database : server'.database = server.database
  activity : server'.activity = server.activity
  history : server'.history = server.history

namespace OnlySchedules

variable {a b c : Server}

theorem tick (server : Server) : OnlySchedules server server.tick :=
  ⟨server.clock.latest_le_now, rfl, rfl, rfl⟩

theorem trans (h : OnlySchedules a b) (h' : OnlySchedules b c) : OnlySchedules a c :=
  ⟨h.clock.trans h'.clock, h'.database.trans h.database, h'.activity.trans h.activity,
    h'.history.trans h.history⟩

end OnlySchedules

theorem onlySchedules_scheduleJob (id : JobId) (runAt : Option Datetime) (server : Server) :
    OnlySchedules server (scheduleJob id runAt server) := by
  cases runAt with
  | none => exact ⟨Int.le_refl _, rfl, rfl, rfl⟩
  | some due => exact ⟨server.clock.latest_le_now, rfl, rfl, rfl⟩

theorem onlySchedules_syncTimerSchedule (server : Server) (timer : Timer) :
    OnlySchedules server (syncTimerSchedule server timer) := by
  unfold syncTimerSchedule
  split
  · exact ⟨Int.le_refl _, rfl, rfl, rfl⟩
  · exact onlySchedules_scheduleJob ..

theorem onlySchedules_syncReminderSchedule (server : Server) (reminder : MeetingReminder) :
    OnlySchedules server (syncReminderSchedule server reminder) :=
  onlySchedules_scheduleJob (.meetingReminder reminder.id) (some (.stored reminder.remindAt)) server

theorem onlySchedules_syncTimerSchedules (server : Server) :
    OnlySchedules server (syncTimerSchedules server) :=
  List.foldlRecOn _ _ ⟨Int.le_refl _, rfl, rfl, rfl⟩
    fun server' h timer _ => h.trans (onlySchedules_syncTimerSchedule server' timer)

theorem onlySchedules_syncReminderSchedules (server : Server) :
    OnlySchedules server.tick (syncReminderSchedules server) :=
  List.foldlRecOn _ _ ⟨Int.le_refl _, rfl, rfl, rfl⟩
    fun server' h reminder _ => h.trans (onlySchedules_syncReminderSchedule server' reminder)

theorem onlySchedules_registerJobs (clock : Clock) (db : Database) :
    OnlySchedules ⟨clock, db, .empty, [], []⟩ (registerJobs clock db) :=
  (onlySchedules_syncTimerSchedules _).trans
    ((OnlySchedules.tick _).trans (onlySchedules_syncReminderSchedules _))

end NanoCore.Scheduler.Jobs
