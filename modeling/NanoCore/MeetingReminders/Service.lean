import NanoCore.Foundation.PythonIsoparse
import NanoCore.Scheduler.Jobs

namespace NanoCore.MeetingReminders.Service

open NanoCore.Foundation.KeyedTable
open NanoCore.Foundation.PythonDatetime
open NanoCore.Foundation.PythonIsoformat
open NanoCore.Foundation.PythonIsoparse
open NanoCore.Foundation.PythonText
open NanoCore.Memory.MeetingReminders
open NanoCore.Memory.Models
open NanoCore.Runtime.State
open NanoCore.Scheduler.Jobs

inductive ReminderError where
  /-- `MeetingReminderValidationError`. -/
  | validation (message : Text)
  /-- `MeetingReminderDatetimeError`. -/
  | datetime (message : Text)
  | raised (e : PyError)
  deriving DecidableEq, Repr

/-- `value.replace("Z", "+00:00")`. -/
def replaceZulu (value : Text) : Text :=
  value.flatMap fun c => if c = 'Z' then "+00:00".toList else [c]

def parseIsoDatetime (value : Text) (fieldName : String) : Except ReminderError Datetime :=
  match fromisoformat (replaceZulu value) with
  | .ok parsed => .ok parsed
  | .error _ => .error
      (.datetime ("Invalid " ++ fieldName ++ ". Use an ISO-8601 datetime.").toList)

def allowedLeadMinutes : List Int := [15, 30, 60]

def validateUpsert (allDay : Bool) (leadMinutes : Int) (start now : Datetime) :
    Except ReminderError Unit :=
  if allDay then .error (.validation "All-day events are not supported.".toList)
  else if leadMinutes ∉ allowedLeadMinutes then
    .error (.validation "lead_minutes must be one of: 15, 30, or 60.".toList)
  else if start.instant ≤ now.instant then
    .error (.validation "start must be in the future.".toList)
  else .ok ()

structure SerializedReminder where
  id : String
  calendarId : Text
  eventId : Text
  start : Text
  stop : Text
  summary : Text
  allDay : Bool
  leadMinutes : Int
  remindAt : Text
  firedAt : Option Text
  createdAt : Text
  updatedAt : Text
  deriving DecidableEq, Repr

/-- `isoformat` of a stored datetime with zone UTC attached. -/
def serializeDatetime (wall : Int) : Text :=
  isoformat (Datetime.stored wall).normalizeTimestamp

def serializeReminder (reminder : MeetingReminder) : SerializedReminder where
  id := reminder.id
  calendarId := reminder.calendarId
  eventId := reminder.eventId
  start := serializeDatetime reminder.start
  stop := serializeDatetime reminder.stop
  summary := reminder.summary
  allDay := reminder.allDay
  leadMinutes := reminder.leadMinutes
  remindAt := serializeDatetime reminder.remindAt
  firedAt := reminder.firedAt.map serializeDatetime
  createdAt := serializeDatetime reminder.createdAt
  updatedAt := serializeDatetime reminder.updatedAt

structure ReminderRequest where
  calendarId : Text
  eventId : Text
  startRaw : Text
  endRaw : Text
  summary : Text
  allDay : Bool := false
  leadMinutes : Int
  deriving DecidableEq, Repr

def computeRemindAt (start : Datetime) (leadMinutes : Int) : Except ReminderError Datetime :=
  match start.normalizeTimestamp.add (-(leadMinutes * minute)) with
  | .ok remindAt => .ok remindAt
  | .error e => .error (.raised e)

/-- What a request at a reading of the clock asks to store. -/
def reminderArgs (request : ReminderRequest) (now : Int) : Except ReminderError ReminderArgs := do
  let start ← parseIsoDatetime request.startRaw "start"
  let stop ← parseIsoDatetime request.endRaw "end"
  validateUpsert request.allDay request.leadMinutes start.normalizeTimestamp (.utc now)
  let remindAt ← computeRemindAt start.normalizeTimestamp request.leadMinutes
  return {
    calendarId := request.calendarId, eventId := request.eventId
    start := start.normalizeTimestamp, stop := stop.normalizeTimestamp
    summary := request.summary, allDay := request.allDay, leadMinutes := request.leadMinutes
    remindAt }

/-- The part of `upsert_meeting_reminder` up to the transaction of the database. -/
def storeReminder (newId : String) (request : ReminderRequest) (server : Server) :
    Server × Except ReminderError (MeetingReminder × Datetime) :=
  match reminderArgs request server.clock.now with
  | .error e => (server.tick, .error e)
  | .ok args =>
      match upsertReminder newId args server.tick with
      | (server, .error e) => (server, .error (.raised e))
      | (server, .ok reminder) => (server, .ok (reminder, args.remindAt))

def upsertMeetingReminder (newId : String) (request : ReminderRequest) (server : Server) :
    Server × Except ReminderError SerializedReminder :=
  match storeReminder newId request server with
  | (server, .error e) => (server, .error e)
  | (server, .ok (reminder, remindAt)) =>
      (scheduleReminder reminder.id (some remindAt) server, .ok (serializeReminder reminder))

def listMeetingReminders (server : Server) : Server × List SerializedReminder :=
  let now := server.clock.now
  let server := (pruneExpiredReminders now server.tick).1
  (server, (listActiveReminders now server.database).map serializeReminder)

def deleteMeetingReminder (calendarId eventId startRaw : Text) (server : Server) :
    Server × Except ReminderError Unit :=
  match parseIsoDatetime startRaw "start" with
  | .error e => (server, .error e)
  | .ok start =>
      match deleteReminderByKey calendarId eventId start.normalizeTimestamp server with
      | (server, none) => (server, .ok ())
      | (server, some reminder) => (unscheduleReminder reminder.id server, .ok ())

def reminderDetail (reminder : MeetingReminder) : Text :=
  let summary := strip reminder.summary
  "Reminder: ".toList ++ (if summary = [] then "Meeting".toList else summary) ++
    " starts in ".toList ++ (toString reminder.leadMinutes).toList ++ " minutes.".toList

def announceReminder (reminder : MeetingReminder) (server : Server) : Server :=
  (server.addActivity (.log "Meeting reminder".toList (reminderDetail reminder)
    "scheduler.meeting_reminders".toList)).addActivity (.announceVoice (reminderDetail reminder))

def fireReminder (reminderId : String) (server : Server) : Server :=
  match getReminder reminderId server.database with
  | none => unscheduleReminder reminderId server
  | some reminder =>
      if reminder.firedAt.isSome then unscheduleReminder reminderId server
      else
        let now := server.clock.now
        let remindAt := (Datetime.stored reminder.remindAt).normalizeTimestamp
        if now < remindAt.instant then scheduleReminder reminderId (some remindAt) server.tick
        else
          unscheduleReminder reminderId
            (markReminderFired reminderId (some (.utc now))
              (announceReminder reminder server.tick)).1

def completeReminder (reminderId : String) (server : Server) : Server :=
  fireReminder reminderId server

def checkDueReminders (server : Server) : Server :=
  (listDueReminders server.clock.now server.database).foldl
    (fun server reminder => completeReminder reminder.id server) server.tick

/-- The scheduler taking up the job of a reminder: the job leaves the table, and
its function is to run unless the executor finds the job too late. -/
def takeUpReminderJob (reminderId : String) (server : Server) : Server × Bool :=
  match server.jobs.find? (.meetingReminder reminderId) with
  | none => (server, false)
  | some job =>
      if server.clock.now < job.runDate then (server.tick, false)
      else
        let server := unscheduleReminder reminderId server.tick
        (server.tick, !decide (job.runDate + misfireGraceTime * second < server.clock.now))

def runReminderJob (reminderId : String) (server : Server) : Server :=
  let (server, runs) := takeUpReminderJob reminderId server
  if runs then completeReminder reminderId server else server

section Specifications

variable {newId : String} {request : ReminderRequest} {server server' : Server}
variable {reminder : MeetingReminder} {args : ReminderArgs}

theorem computeRemindAt_eq_ok {start remindAt : Datetime} {leadMinutes : Int}
    (h : computeRemindAt start leadMinutes = .ok remindAt) :
    remindAt.wall = start.wall - leadMinutes * minute ∧
      remindAt.instant = start.instant - leadMinutes * minute := by
  unfold computeRemindAt at h
  cases hadd : start.normalizeTimestamp.add (-(leadMinutes * minute)) with
  | error e =>
      rw [hadd] at h
      cases h
  | ok value =>
      rw [hadd] at h
      cases h
      have hwall := (Datetime.add_eq_ok hadd).1
      have hinstant := Datetime.instant_of_add hadd
      rw [Datetime.wall_normalizeTimestamp] at hwall
      rw [Datetime.instant_normalizeTimestamp] at hinstant
      exact ⟨hwall, hinstant⟩

theorem validateUpsert_eq_ok {allDay : Bool} {leadMinutes : Int} {start now : Datetime}
    (h : validateUpsert allDay leadMinutes start now = .ok ()) :
    allDay = false ∧ leadMinutes ∈ allowedLeadMinutes ∧ now.instant < start.instant := by
  unfold validateUpsert at h
  split at h
  · cases h
  · split at h
    · cases h
    · split at h
      · cases h
      · exact ⟨Bool.eq_false_of_not_eq_true ‹_›, not_not.mp ‹_›, Int.not_le.mp ‹_›⟩

/-- What stands in the way of a request that is accepted, and what it stores. -/
structure Accepts (request : ReminderRequest) (now : Int) (args : ReminderArgs)
    (start stop : Datetime) : Prop where
  start_ok : parseIsoDatetime request.startRaw "start" = .ok start
  stop_ok : parseIsoDatetime request.endRaw "end" = .ok stop
  allDay : request.allDay = false
  leadMinutes : request.leadMinutes ∈ allowedLeadMinutes
  future : now < start.instant
  key : (args.calendarId, args.eventId) = (request.calendarId, request.eventId)
  args_start : args.start = start.normalizeTimestamp
  args_stop : args.stop = stop.normalizeTimestamp
  lead : args.leadMinutes = request.leadMinutes
  remindAt_wall : args.remindAt.wall = start.wall - request.leadMinutes * minute
  remindAt_instant : args.remindAt.instant = start.instant - request.leadMinutes * minute

theorem accepts_of_reminderArgs {now : Int} (h : reminderArgs request now = .ok args) :
    ∃ start stop, Accepts request now args start stop := by
  cases hstart : parseIsoDatetime request.startRaw "start" with
  | error e =>
      rw [reminderArgs, hstart] at h
      cases h
  | ok start =>
      cases hstop : parseIsoDatetime request.endRaw "end" with
      | error e =>
          rw [reminderArgs, hstart, hstop] at h
          cases h
      | ok stop =>
          cases hvalid : validateUpsert request.allDay request.leadMinutes
              start.normalizeTimestamp (.utc now) with
          | error e =>
              simp only [reminderArgs, hstart, hstop, bind, Except.bind, hvalid] at h
              cases h
          | ok valid =>
              cases hremind : computeRemindAt start.normalizeTimestamp request.leadMinutes with
              | error e =>
                  simp only [reminderArgs, hstart, hstop, bind, Except.bind, hvalid, hremind] at h
                  cases h
              | ok remindAt =>
                  simp only [reminderArgs, hstart, hstop, bind, Except.bind, hvalid, hremind] at h
                  cases h
                  obtain ⟨hallDay, hlead, hfuture⟩ := validateUpsert_eq_ok hvalid
                  obtain ⟨hwall, hinstant⟩ := computeRemindAt_eq_ok hremind
                  rw [Datetime.instant_utc, Datetime.instant_normalizeTimestamp] at hfuture
                  rw [Datetime.wall_normalizeTimestamp] at hwall
                  rw [Datetime.instant_normalizeTimestamp] at hinstant
                  exact ⟨start, stop, hstart, hstop, hallDay, hlead, hfuture, rfl, rfl, rfl, rfl,
                    hwall, hinstant⟩

theorem upserts_of_storeReminder {remindAt : Datetime}
    (h : storeReminder newId request server = (server', .ok (reminder, remindAt))) :
    ∃ args, reminderArgs request server.clock.now = .ok args ∧ remindAt = args.remindAt ∧
      Upserts args server.tick reminder server' := by
  cases hargs : reminderArgs request server.clock.now with
  | error e =>
      rw [storeReminder, hargs] at h
      cases h
  | ok args =>
      rcases hupsert : upsertReminder newId args server.tick with ⟨stored, e | row⟩
      · simp only [storeReminder, hargs, hupsert] at h
        cases h
      · simp only [storeReminder, hargs, hupsert] at h
        cases h
        exact ⟨args, rfl, rfl, upserts_of_upsertReminder hupsert⟩

theorem storeReminder_database_of_error {e : ReminderError}
    (h : storeReminder newId request server = (server', .error e)) :
    server'.database = server.database := by
  cases hargs : reminderArgs request server.clock.now with
  | error e' =>
      rw [storeReminder, hargs] at h
      cases h
      rfl
  | ok args =>
      rcases hupsert : upsertReminder newId args server.tick with ⟨stored, e' | row⟩
      · simp only [storeReminder, hargs, hupsert] at h
        cases h
        have hkept := upsertReminder_database_of_error hupsert
        exact hkept
      · simp only [storeReminder, hargs, hupsert] at h
        cases h

structure OnlyStores (server server' : Server) : Prop where
  clock : server.clock.latest ≤ server'.clock.latest
  jobs : server'.jobs = server.jobs
  activity : server'.activity = server.activity

theorem onlyStores_upsertReminder (newId : String) (args : ReminderArgs) (server : Server) :
    OnlyStores server (upsertReminder newId args server).1 := by
  unfold upsertReminder
  dsimp only
  split
  · exact ⟨server.clock.latest_le_now, rfl, rfl⟩
  · split <;> exact ⟨server.clock.latest_le_now, rfl, rfl⟩

theorem onlyStores_storeReminder (newId : String) (request : ReminderRequest) (server : Server) :
    OnlyStores server (storeReminder newId request server).1 := by
  unfold storeReminder
  split
  · exact ⟨server.clock.latest_le_now, rfl, rfl⟩
  · rename_i args _
    have hstores := onlyStores_upsertReminder newId args server.tick
    have hclock := server.clock.latest_le_now.trans hstores.clock
    rcases hupsert : upsertReminder newId args server.tick with ⟨stored, e | reminder⟩
    · rw [hupsert] at hstores hclock
      exact ⟨hclock, hstores.jobs, hstores.activity⟩
    · rw [hupsert] at hstores hclock
      exact ⟨hclock, hstores.jobs, hstores.activity⟩

theorem exists_of_upsertMeetingReminder {response : SerializedReminder}
    (h : upsertMeetingReminder newId request server = (server', .ok response)) :
    ∃ stored reminder remindAt,
      storeReminder newId request server = (stored, .ok (reminder, remindAt)) ∧
      server' = scheduleReminder reminder.id (some remindAt) stored ∧
      response = serializeReminder reminder := by
  rcases hstore : storeReminder newId request server with ⟨stored, e | ⟨reminder, remindAt⟩⟩
  · rw [upsertMeetingReminder, hstore] at h
    cases h
  · rw [upsertMeetingReminder, hstore] at h
    cases h
    exact ⟨stored, reminder, remindAt, rfl, rfl, rfl⟩

theorem fireReminder_activity (hstored : getReminder reminder.id server.database = some reminder)
    (hfired : reminder.firedAt = none) :
    (fireReminder reminder.id server).activity =
      if server.clock.now < reminder.remindAt then server.activity
      else (announceReminder reminder server).activity := by
  simp only [fireReminder, hstored, hfired, Datetime.instant_normalizeTimestamp,
    Datetime.instant_stored, Option.isSome_none, Bool.false_eq_true, if_false]
  split
  · rfl
  · exact markReminderFired_activity ..

end Specifications

end NanoCore.MeetingReminders.Service
