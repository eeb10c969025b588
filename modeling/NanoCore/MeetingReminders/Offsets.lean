import NanoCore.MeetingReminders.Service

namespace NanoCore.MeetingReminders.Offsets

open NanoCore.Foundation.KeyedTable
open NanoCore.Foundation.PythonDatetime
open NanoCore.Foundation.PythonIsoformat
open NanoCore.Foundation.PythonText
open NanoCore.Memory.MeetingReminders
open NanoCore.Memory.Models
open NanoCore.MeetingReminders.Service
open NanoCore.Runtime.State
open NanoCore.Scheduler.Jobs

variable {newId : String} {request : ReminderRequest} {server server' : Server}
variable {response : SerializedReminder} {reminder : MeetingReminder}
variable {start stop later : Datetime} {laterRaw : Text} {remindAt : Int}

/-- A row and its serialization denote the given instants. -/
structure Denotes (reminder : MeetingReminder) (start stop remindAt : Int) : Prop where
  stored_start : (Datetime.stored reminder.start).instant = start
  stored_stop : (Datetime.stored reminder.stop).instant = stop
  stored_remindAt : (Datetime.stored reminder.remindAt).instant = remindAt
  serialized_start : (serializeReminder reminder).start = isoformat (.utc start)
  serialized_stop : (serializeReminder reminder).stop = isoformat (.utc stop)
  serialized_remindAt : (serializeReminder reminder).remindAt = isoformat (.utc remindAt)

/-- The queries and `fire_reminder` take the reminder to be due from the given
instant on. -/
structure FiresFrom (reminder : MeetingReminder) (remindAt : Int) : Prop where
  due : ∀ now db, reminder ∈ db.meetingReminders →
    (reminder ∈ listDueReminders now db ↔ remindAt ≤ now)
  schedulable : ∀ now db, reminder ∈ db.meetingReminders →
    (reminder ∈ listSchedulableReminders now db ↔ now < remindAt)
  fires : ∀ server : Server, reminder ∈ server.database.meetingReminders →
    ((fireReminder reminder.id server).activity ≠ server.activity ↔ remindAt ≤ server.clock.now)

/-- Requests with this start for the event of the reminder are about its row. -/
structure Addresses (reminder : MeetingReminder) (startRaw : Text) : Prop where
  put : ∀ newId request (server server' : Server) response stored,
    stored ∈ server.database.meetingReminders → stored.id = reminder.id →
    stored.occurrence = reminder.occurrence →
    request.calendarId = reminder.calendarId → request.eventId = reminder.eventId →
    request.startRaw = startRaw →
    upsertMeetingReminder newId request server = (server', .ok response) →
    response.id = reminder.id
  delete : ∀ (server : Server) stored,
    stored ∈ server.database.meetingReminders → stored.id = reminder.id →
    stored.occurrence = reminder.occurrence →
    getReminder reminder.id (deleteMeetingReminder reminder.calendarId reminder.eventId startRaw
      server).1.database = none

/-- The promises about an accepted request and a later one for the same event. -/
def RespectsInstants (request : ReminderRequest) (start stop later : Datetime) (laterRaw : Text)
    (server' : Server) (response : SerializedReminder) : Prop :=
  ∃ reminder ∈ server'.database.meetingReminders,
    response = serializeReminder reminder ∧
    Denotes reminder start.instant stop.instant (start.instant - request.leadMinutes * minute) ∧
    FiresFrom reminder (start.instant - request.leadMinutes * minute) ∧
    (later.instant = start.instant → Addresses reminder laterRaw)

theorem serializeDatetime_eq (wall : Int) : serializeDatetime wall = isoformat (.utc wall) :=
  congrArg isoformat (Datetime.normalizeTimestamp_stored wall)

theorem denotes_iff {start stop remindAt : Int} :
    Denotes reminder start stop remindAt ↔
      reminder.start = start ∧ reminder.stop = stop ∧ reminder.remindAt = remindAt := by
  constructor
  · intro h
    have hstart := h.stored_start
    have hstop := h.stored_stop
    have hremindAt := h.stored_remindAt
    rw [Datetime.instant_stored] at hstart hstop hremindAt
    exact ⟨hstart, hstop, hremindAt⟩
  · rintro ⟨rfl, rfl, rfl⟩
    exact ⟨Datetime.instant_stored _, Datetime.instant_stored _, Datetime.instant_stored _,
      serializeDatetime_eq _, serializeDatetime_eq _, serializeDatetime_eq _⟩

theorem firesFrom_remindAt (hfired : reminder.firedAt = none) :
    FiresFrom reminder reminder.remindAt where
  due now db hmem := by
    rw [mem_listDueReminders]
    exact ⟨fun h => h.2.2, fun h => ⟨hmem, hfired, h⟩⟩
  schedulable now db hmem := by
    rw [mem_listSchedulableReminders]
    exact ⟨fun h => h.2.2, fun h => ⟨hmem, hfired, h⟩⟩
  fires server hmem := by
    rw [fireReminder_activity (getReminder_eq_some_iff.mpr ⟨hmem, rfl⟩) hfired]
    split
    · rename_i hearly
      exact ⟨fun h => absurd rfl h, fun h => absurd hearly (Int.not_lt.mpr h)⟩
    · rename_i hreached
      refine ⟨fun _ => Int.not_lt.mp hreached, fun _ heq => ?_⟩
      have hlength := congrArg List.length heq
      simp only [announceReminder, Server.addActivity, List.length_append,
        List.length_singleton] at hlength
      omega

theorem addresses_iff (hlater : parseIsoDatetime laterRaw "start" = .ok later) :
    Addresses reminder laterRaw ↔ later.wall = reminder.start := by
  constructor
  · intro h
    let table : ReminderTable := ⟨Table.empty.put reminder, List.nodup_singleton _⟩
    have hmem : reminder ∈ table := Table.mem_put.mpr (Or.inl rfl)
    have hdelete := h.delete ((Server.initial (.stopped 0)).onReminders table) reminder hmem rfl rfl
    by_contra hne
    have hnone : getReminderByKey reminder.calendarId reminder.eventId later.normalizeTimestamp
        ((Server.initial (.stopped 0)).onReminders table).database = none := by
      refine Table.find?_eq_none_iff.mpr fun row hrow hkey => ?_
      rcases Table.mem_put.mp hrow with rfl | ⟨hempty, -⟩
      · have hstart := congrArg (fun key => key.2.2) hkey
        rw [Datetime.wall_normalizeTimestamp] at hstart
        exact hne hstart.symm
      · exact Table.not_mem_empty row hempty
    simp only [deleteMeetingReminder, hlater, deleteReminderByKey, hnone] at hdelete
    exact Table.find?_eq_none_iff.mp hdelete reminder hmem rfl
  · intro hwall
    have hfound : ∀ (db : Database) (stored : MeetingReminder), stored ∈ db.meetingReminders →
        stored.occurrence = reminder.occurrence →
        getReminderByKey reminder.calendarId reminder.eventId later.normalizeTimestamp db =
          some stored := by
      intro db stored hmem hoccurrence
      refine getReminderByKey_eq_some_iff.mpr ⟨hmem, hoccurrence.trans ?_⟩
      rw [Datetime.wall_normalizeTimestamp, hwall]
      rfl
    constructor
    · rintro newId request server server' response stored hmem hid hoccurrence hcalendar hevent
        rfl hput
      obtain ⟨between, row, remindAt, hstore, rfl, rfl⟩ := exists_of_upsertMeetingReminder hput
      obtain ⟨args, hargs, -, hupserts⟩ := upserts_of_storeReminder hstore
      obtain ⟨start, stop, haccepts⟩ := accepts_of_reminderArgs hargs
      obtain rfl : later = start := Except.ok.inj (hlater.symm.trans haccepts.start_ok)
      have hkey := Prod.mk.inj haccepts.key
      refine (hupserts.existing stored ?_).trans hid
      rw [hkey.1, hkey.2, hcalendar, hevent, haccepts.args_start]
      exact hfound _ stored hmem hoccurrence
    · intro server stored hmem hid hoccurrence
      have hexisting := hfound server.database stored hmem hoccurrence
      simp only [deleteMeetingReminder, hlater, deleteReminderByKey, hexisting]
      refine Table.find?_eq_none_iff.mpr fun row hrow hrowId => ?_
      have hkept := (UniqueTable.mem_filter.mp hrow).2
      rw [decide_eq_true_eq] at hkept
      exact hkept (hrowId.trans hid.symm)

/-- Instants are respected exactly when the offsets are zero. -/
theorem respectsInstants_iff
    (hstart : parseIsoDatetime request.startRaw "start" = .ok start)
    (hstop : parseIsoDatetime request.endRaw "end" = .ok stop)
    (hlater : parseIsoDatetime laterRaw "start" = .ok later)
    (haccepted : upsertMeetingReminder newId request server = (server', .ok response)) :
    RespectsInstants request start stop later laterRaw server' response ↔
      start.IsUtc ∧ stop.IsUtc ∧ (later.instant = start.instant → later.IsUtc) := by
  obtain ⟨between, reminder, remindAt, hstore, rfl, rfl⟩ :=
    exists_of_upsertMeetingReminder haccepted
  obtain ⟨args, hargs, rfl, hupserts⟩ := upserts_of_storeReminder hstore
  obtain ⟨start', stop', haccepts⟩ := accepts_of_reminderArgs hargs
  obtain rfl : start = start' := Except.ok.inj (hstart.symm.trans haccepts.start_ok)
  obtain rfl : stop = stop' := Except.ok.inj (hstop.symm.trans haccepts.stop_ok)
  have hstartWall : reminder.start = start.wall := by
    have hkey := congrArg (fun key => key.2.2) hupserts.carries.occurrence
    rw [haccepts.args_start, Datetime.wall_normalizeTimestamp] at hkey
    exact hkey
  have hstopWall : reminder.stop = stop.wall := by
    rw [hupserts.carries.stop, haccepts.args_stop, Datetime.wall_normalizeTimestamp]
  have hremindAt : reminder.remindAt = start.wall - request.leadMinutes * minute :=
    hupserts.carries.remindAt.trans haccepts.remindAt_wall
  constructor
  · rintro ⟨row, hrow, hresponse, hdenotes, -, haddresses⟩
    obtain rfl : row = reminder := Table.eq_of_key hrow hupserts.stored
      (congrArg SerializedReminder.id hresponse).symm
    obtain ⟨hrowStart, hrowStop, -⟩ := denotes_iff.mp hdenotes
    have hinstant : start.instant = start.wall := hrowStart.symm.trans hstartWall
    refine ⟨Datetime.isUtc_iff.mpr hinstant,
      Datetime.isUtc_iff.mpr (hrowStop.symm.trans hstopWall), fun hsame => ?_⟩
    have hlaterWall := (addresses_iff hlater).mp (haddresses hsame)
    rw [Datetime.isUtc_iff, hsame, hlaterWall, hstartWall, hinstant]
  · rintro ⟨hstartUtc, hstopUtc, hlaterUtc⟩
    rw [Datetime.isUtc_iff] at hstartUtc hstopUtc hlaterUtc
    have hremindInstant : reminder.remindAt =
        start.instant - request.leadMinutes * minute := by
      rw [hremindAt, hstartUtc]
    refine ⟨reminder, hupserts.stored, rfl, ?_, ?_, fun hsame => ?_⟩
    · exact denotes_iff.mpr ⟨hstartWall.trans hstartUtc.symm, hstopWall.trans hstopUtc.symm,
        hremindInstant⟩
    · rw [← hremindInstant]
      exact firesFrom_remindAt hupserts.carries.firedAt
    · rw [addresses_iff hlater, hstartWall, ← hstartUtc, ← hsame, hlaterUtc hsame]

def standup (startRaw : String) : ReminderRequest where
  calendarId := "primary".toList
  eventId := "standup".toList
  startRaw := startRaw.toList
  endRaw := "2026-07-01T10:30:00Z".toList
  summary := "Standup".toList
  leadMinutes := 15

def standupRow (start : Int) : MeetingReminder where
  id := "rem_1"
  calendarId := "primary".toList
  eventId := "standup".toList
  start := start
  stop := 1782901800 * second
  summary := "Standup".toList
  leadMinutes := 15
  remindAt := start - 15 * minute
  createdAt := 0
  updatedAt := 0

theorem respectsInstants_iff_zulu :
    RespectsInstants (standup "2026-07-01T10:00:00Z") (.utc (1782900000 * second))
      (.utc (1782901800 * second)) (.utc (1782900000 * second))
      "2026-07-01T10:00:00+00:00".toList
      (upsertMeetingReminder "rem_1" (standup "2026-07-01T10:00:00Z")
        (.initial (.stopped 0))).1
      (serializeReminder (standupRow (1782900000 * second))) :=
  (respectsInstants_iff (by decide +kernel) (by decide +kernel) (by decide +kernel)
    (Prod.ext rfl (by decide +kernel))).mpr ⟨rfl, rfl, fun _ => rfl⟩

/-- At 12:00 in a zone two hours ahead it is 10:00 UTC. -/
theorem not_respectsInstants_of_offset :
    ¬ ∀ (newId : String) (request : ReminderRequest) (server server' : Server)
      (response : SerializedReminder) (start stop later : Datetime) (laterRaw : Text),
      parseIsoDatetime request.startRaw "start" = .ok start →
      parseIsoDatetime request.endRaw "end" = .ok stop →
      parseIsoDatetime laterRaw "start" = .ok later →
      upsertMeetingReminder newId request server = (server', .ok response) →
      RespectsInstants request start stop later laterRaw server' response := by
  intro h
  obtain ⟨reminder, hmem, -, hdenotes, -⟩ := h "rem_1" (standup "2026-07-01T12:00:00+02:00")
    (.initial (.stopped 0)) _ (serializeReminder (standupRow (1782907200 * second)))
    ⟨1782907200 * second, some (120 * minute)⟩ (.utc (1782901800 * second))
    ⟨1782907200 * second, some (120 * minute)⟩ "2026-07-01T12:00:00+02:00".toList
    (by decide +kernel) (by decide +kernel) (by decide +kernel) (Prod.ext rfl (by decide +kernel))
  have hrows : ∀ row ∈ (upsertMeetingReminder "rem_1" (standup "2026-07-01T12:00:00+02:00")
      (.initial (.stopped 0))).1.database.meetingReminders.rows,
      row.start = 1782907200 * second := by
    decide +kernel
  have hstart := (denotes_iff.mp hdenotes).1
  rw [hrows reminder hmem] at hstart
  exact absurd hstart (by decide +kernel)

end NanoCore.MeetingReminders.Offsets
