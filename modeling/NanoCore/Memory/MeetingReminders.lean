import NanoCore.Runtime.State
import Mathlib.Data.List.Sort

namespace NanoCore.Memory.MeetingReminders

open NanoCore.Foundation.KeyedTable
open NanoCore.Foundation.PythonDatetime
open NanoCore.Foundation.PythonText
open NanoCore.Memory.Models
open NanoCore.Runtime.State

def getReminder (reminderId : String) (db : Database) : Option MeetingReminder :=
  db.meetingReminders.find? reminderId

/-- A bound datetime loses its offset, so its wall clock is looked up. -/
def getReminderByKey (calendarId eventId : Text) (start : Datetime) (db : Database) :
    Option MeetingReminder :=
  db.meetingReminders.byAlt.find? (calendarId, eventId, start.wall)

structure ReminderArgs where
  calendarId : Text
  eventId : Text
  start : Datetime
  stop : Datetime
  summary : Text
  allDay : Bool
  leadMinutes : Int
  remindAt : Datetime
  deriving DecidableEq, Repr

def rearm (args : ReminderArgs) (now : Int) (reminder : MeetingReminder) : MeetingReminder :=
  { reminder with
    stop := args.stop.wall, summary := args.summary, allDay := args.allDay
    leadMinutes := args.leadMinutes, remindAt := args.remindAt.wall, firedAt := none
    updatedAt := now }

def newReminder (id : String) (args : ReminderArgs) (now : Int) : MeetingReminder where
  id := id
  calendarId := args.calendarId
  eventId := args.eventId
  start := args.start.wall
  stop := args.stop.wall
  summary := args.summary
  allDay := args.allDay
  leadMinutes := args.leadMinutes
  remindAt := args.remindAt.wall
  createdAt := now
  updatedAt := now

/-- `newId` is what `_new_reminder_id` draws. -/
def upsertReminder (newId : String) (args : ReminderArgs) (server : Server) :
    Server × Except PyError MeetingReminder :=
  let now := server.clock.now
  let server := server.tick
  let reminders := server.database.meetingReminders
  match getReminderByKey args.calendarId args.eventId args.start server.database with
  | some existing =>
      (server.onReminders (reminders.modify existing.id (rearm args now) fun _ => ⟨rfl, rfl⟩),
        .ok (rearm args now existing))
  | none =>
      match reminders.insert? (newReminder newId args now) with
      | none => (server, .error .integrityError)
      | some reminders => (server.onReminders reminders, .ok (newReminder newId args now))

/-- `fired_at IS NULL AND start > now`. -/
def isActive (now : Int) (reminder : MeetingReminder) : Bool :=
  reminder.firedAt.isNone && decide (now < reminder.start)

/-- `fired_at IS NULL AND remind_at > now`. -/
def isSchedulable (now : Int) (reminder : MeetingReminder) : Bool :=
  reminder.firedAt.isNone && decide (now < reminder.remindAt)

/-- `fired_at IS NULL AND remind_at <= now`. -/
def isDueReminder (now : Int) (reminder : MeetingReminder) : Bool :=
  reminder.firedAt.isNone && decide (reminder.remindAt ≤ now)

def listActiveReminders (now : Int) (db : Database) : List MeetingReminder :=
  (db.meetingReminders.filter (isActive now)).rows.insertionSort fun a b => a.start ≤ b.start

def listSchedulableReminders (now : Int) (db : Database) : List MeetingReminder :=
  (db.meetingReminders.filter (isSchedulable now)).rows.insertionSort
    fun a b => a.remindAt ≤ b.remindAt

def listDueReminders (now : Int) (db : Database) : List MeetingReminder :=
  (db.meetingReminders.filter (isDueReminder now)).rows.insertionSort
    fun a b => a.remindAt ≤ b.remindAt

/-- The row that was deleted, if there was one. -/
def deleteReminderByKey (calendarId eventId : Text) (start : Datetime) (server : Server) :
    Server × Option MeetingReminder :=
  match getReminderByKey calendarId eventId start server.database with
  | none => (server, none)
  | some reminder =>
      (server.onReminders (server.database.meetingReminders.erase reminder.id), some reminder)

def setFired (current : Int) (reminder : MeetingReminder) : MeetingReminder :=
  { reminder with firedAt := some current, updatedAt := current }

def markReminderFired (reminderId : String) (firedAt : Option Datetime) (server : Server) :
    Server × Option MeetingReminder :=
  let (server, current) := match firedAt with
    | some value => (server, value.wall)
    | none => (server.tick, server.clock.now)
  match getReminder reminderId server.database with
  | none => (server, none)
  | some reminder =>
      (server.onReminders (server.database.meetingReminders.modify reminderId (setFired current)
        fun _ => ⟨rfl, rfl⟩), some (setFired current reminder))

def pruneExpiredReminders (now : Int) (server : Server) : Server × Nat :=
  let reminders := server.database.meetingReminders
  (server.onReminders (reminders.filter fun reminder => !decide (reminder.start ≤ now)),
    (reminders.filter fun reminder => decide (reminder.start ≤ now)).rows.length)

theorem mem_listDueReminders {now : Int} {db : Database} {reminder : MeetingReminder} :
    reminder ∈ listDueReminders now db ↔
      reminder ∈ db.meetingReminders ∧ reminder.firedAt = none ∧ reminder.remindAt ≤ now := by
  rw [listDueReminders, List.mem_insertionSort, Table.mem_rows, UniqueTable.mem_toTable,
    UniqueTable.mem_filter, isDueReminder, Bool.and_eq_true, Option.isNone_iff_eq_none,
    decide_eq_true_eq]

theorem mem_listSchedulableReminders {now : Int} {db : Database} {reminder : MeetingReminder} :
    reminder ∈ listSchedulableReminders now db ↔
      reminder ∈ db.meetingReminders ∧ reminder.firedAt = none ∧ now < reminder.remindAt := by
  rw [listSchedulableReminders, List.mem_insertionSort, Table.mem_rows, UniqueTable.mem_toTable,
    UniqueTable.mem_filter, isSchedulable, Bool.and_eq_true, Option.isNone_iff_eq_none,
    decide_eq_true_eq]

theorem getReminder_eq_some_iff {reminderId : String} {db : Database}
    {reminder : MeetingReminder} : getReminder reminderId db = some reminder ↔
      reminder ∈ db.meetingReminders ∧ reminder.id = reminderId :=
  Table.find?_eq_some_iff

theorem getReminderByKey_eq_some_iff {calendarId eventId : Text} {start : Datetime}
    {db : Database} {reminder : MeetingReminder} :
    getReminderByKey calendarId eventId start db = some reminder ↔
      reminder ∈ db.meetingReminders ∧ reminder.occurrence = (calendarId, eventId, start.wall) :=
  Table.find?_eq_some_iff

theorem markReminderFired_of_some {reminderId : String} {server : Server}
    {reminder : MeetingReminder} (hfound : getReminder reminderId server.database = some reminder)
    (firedAt : Datetime) :
    markReminderFired reminderId (some firedAt) server =
      (server.onReminders (server.database.meetingReminders.modify reminderId
        (setFired firedAt.wall) fun _ => ⟨rfl, rfl⟩), some (setFired firedAt.wall reminder)) := by
  simp only [markReminderFired, hfound]

theorem markReminderFired_of_none {reminderId : String} {server : Server}
    (hfound : getReminder reminderId server.database = none) (firedAt : Datetime) :
    markReminderFired reminderId (some firedAt) server = (server, none) := by
  simp only [markReminderFired, hfound]

theorem getReminder_markReminderFired {reminderId reminderId' : String} {server : Server}
    {firedAt : Datetime} :
    getReminder reminderId' (markReminderFired reminderId (some firedAt) server).1.database =
      (getReminder reminderId' server.database).map fun row =>
        if row.id = reminderId then setFired firedAt.wall row else row := by
  cases hfound : getReminder reminderId server.database with
  | some reminder =>
      rw [markReminderFired_of_some hfound]
      have hkeeps (row : MeetingReminder) : (setFired firedAt.wall row).id = row.id := rfl
      have hmodify : (server.database.meetingReminders.toTable.modify reminderId
          (setFired firedAt.wall) hkeeps).find? reminderId' = _ := Table.find?_modify ..
      exact hmodify
  | none =>
      rw [markReminderFired_of_none hfound]
      cases hother : getReminder reminderId' server.database with
      | none => rfl
      | some other =>
          obtain ⟨hmem, hid⟩ := getReminder_eq_some_iff.mp hother
          rw [Option.map_some, if_neg (Table.find?_eq_none_iff.mp hfound other hmem)]

@[simp] theorem markReminderFired_activity (reminderId : String) (firedAt : Datetime)
    (server : Server) :
    (markReminderFired reminderId (some firedAt) server).1.activity = server.activity := by
  cases hfound : getReminder reminderId server.database with
  | none => rw [markReminderFired_of_none hfound]
  | some reminder =>
      rw [markReminderFired_of_some hfound]
      rfl

structure Carries (args : ReminderArgs) (reminder : MeetingReminder) : Prop where
  occurrence : reminder.occurrence = (args.calendarId, args.eventId, args.start.wall)
  stop : reminder.stop = args.stop.wall
  leadMinutes : reminder.leadMinutes = args.leadMinutes
  remindAt : reminder.remindAt = args.remindAt.wall
  firedAt : reminder.firedAt = none

/-- One row is stored for the arguments, in the place of the row with their key. -/
structure Upserts (args : ReminderArgs) (server : Server) (reminder : MeetingReminder)
    (server' : Server) : Prop where
  clock : server'.clock = server.clock.tick
  jobs : server'.jobs = server.jobs
  activity : server'.activity = server.activity
  carries : Carries args reminder
  stored : reminder ∈ server'.database.meetingReminders
  others : ∀ other, other.id ≠ reminder.id →
    (other ∈ server'.database.meetingReminders ↔ other ∈ server.database.meetingReminders)
  existing : ∀ existing,
    getReminderByKey args.calendarId args.eventId args.start server.database = some existing →
      reminder.id = existing.id

section Cases

variable {newId : String} {args : ReminderArgs} {server server' : Server}
  {existing reminder : MeetingReminder} {table : ReminderTable}

theorem upsertReminder_of_some
    (hfound : getReminderByKey args.calendarId args.eventId args.start server.database =
      some existing) (newId : String) :
    upsertReminder newId args server =
      (server.tick.onReminders (server.database.meetingReminders.modify existing.id
        (rearm args server.clock.now) fun _ => ⟨rfl, rfl⟩),
        .ok (rearm args server.clock.now existing)) := by
  simp only [upsertReminder, Server.tick_database, hfound]

theorem upsertReminder_of_taken
    (hfound : getReminderByKey args.calendarId args.eventId args.start server.database = none)
    (hinsert : server.database.meetingReminders.insert?
      (newReminder newId args server.clock.now) = none) :
    upsertReminder newId args server = (server.tick, .error .integrityError) := by
  simp only [upsertReminder, Server.tick_database, hfound, hinsert]

theorem upsertReminder_of_new
    (hfound : getReminderByKey args.calendarId args.eventId args.start server.database = none)
    (hinsert : server.database.meetingReminders.insert?
      (newReminder newId args server.clock.now) = some table) :
    upsertReminder newId args server =
      (server.tick.onReminders table, .ok (newReminder newId args server.clock.now)) := by
  simp only [upsertReminder, Server.tick_database, hfound, hinsert]

theorem upserts_rearm
    (hfound : getReminderByKey args.calendarId args.eventId args.start server.database =
      some existing) :
    Upserts args server (rearm args server.clock.now existing)
      (server.tick.onReminders (server.database.meetingReminders.modify existing.id
        (rearm args server.clock.now) fun _ => ⟨rfl, rfl⟩)) := by
  obtain ⟨hmem, hkey⟩ := getReminderByKey_eq_some_iff.mp hfound
  refine ⟨rfl, rfl, rfl, ⟨hkey, rfl, rfl, rfl, rfl⟩, ?_, ?_, ?_⟩
  · rw [Server.onReminders_meetingReminders, UniqueTable.mem_modify]
    exact ⟨existing, hmem, (if_pos rfl).symm⟩
  · intro other hne
    rw [Server.onReminders_meetingReminders, UniqueTable.mem_modify]
    constructor
    · rintro ⟨old, hold, rfl⟩
      split at hne
      · rename_i hid
        exact absurd hid hne
      · rename_i hid
        rwa [if_neg hid]
    · intro hother
      exact ⟨other, hother, (if_neg hne).symm⟩
  · intro other hother
    rw [hfound] at hother
    obtain rfl := Option.some.inj hother
    rfl

theorem upserts_newReminder
    (hfound : getReminderByKey args.calendarId args.eventId args.start server.database = none)
    (hinsert : server.database.meetingReminders.insert?
      (newReminder newId args server.clock.now) = some table) :
    Upserts args server (newReminder newId args server.clock.now)
      (server.tick.onReminders table) := by
  refine ⟨rfl, rfl, rfl, ⟨rfl, rfl, rfl, rfl, rfl⟩, ?_, ?_, ?_⟩
  · exact (UniqueTable.mem_of_insert? hinsert _).mpr (Or.inl rfl)
  · intro other hne
    refine (UniqueTable.mem_of_insert? hinsert other).trans (or_iff_right ?_)
    rintro rfl
    exact hne rfl
  · intro other hother
    rw [hfound] at hother
    cases hother

theorem upserts_of_upsertReminder (h : upsertReminder newId args server = (server', .ok reminder)) :
    Upserts args server reminder server' := by
  cases hfound : getReminderByKey args.calendarId args.eventId args.start server.database with
  | some existing =>
      rw [upsertReminder_of_some hfound] at h
      cases h
      exact upserts_rearm hfound
  | none =>
      cases hinsert : server.database.meetingReminders.insert?
          (newReminder newId args server.clock.now) with
      | none =>
          rw [upsertReminder_of_taken hfound hinsert] at h
          cases h
      | some table =>
          rw [upsertReminder_of_new hfound hinsert] at h
          cases h
          exact upserts_newReminder hfound hinsert

theorem upsertReminder_database_of_error {e : PyError}
    (h : upsertReminder newId args server = (server', .error e)) :
    server'.database = server.database := by
  cases hfound : getReminderByKey args.calendarId args.eventId args.start server.database with
  | some existing =>
      rw [upsertReminder_of_some hfound] at h
      cases h
  | none =>
      cases hinsert : server.database.meetingReminders.insert?
          (newReminder newId args server.clock.now) with
      | none =>
          rw [upsertReminder_of_taken hfound hinsert] at h
          cases h
          rfl
      | some table =>
          rw [upsertReminder_of_new hfound hinsert] at h
          cases h

end Cases

end NanoCore.Memory.MeetingReminders
