import NanoCore.Foundation.Runs
import NanoCore.MeetingReminders.Offsets

namespace NanoCore.MeetingReminders.Lifecycle

open NanoCore.Foundation.KeyedTable
open NanoCore.Foundation.PythonDatetime
open NanoCore.Foundation.PythonText
open NanoCore.Foundation.Runs
open NanoCore.Memory.MeetingReminders
open NanoCore.Memory.Models
open NanoCore.MeetingReminders.Offsets
open NanoCore.MeetingReminders.Service
open NanoCore.Runtime.State
open NanoCore.Scheduler.Jobs

/-- What happens to the rows of reminders, for the statements about runs. -/
inductive ReminderEvent where
  | stored (reminder : MeetingReminder)
  /-- With the reading of the clock at which the row was found due. -/
  | announced (reminder : MeetingReminder) (now : Int)
  /-- A row was deleted or pruned. -/
  | removed (reminder : MeetingReminder)
  deriving DecidableEq, Repr

def ReminderEvent.reminder : ReminderEvent → MeetingReminder
  | .stored reminder => reminder
  | .announced reminder _ => reminder
  | .removed reminder => reminder

/-- The calls of the activity hub that an event stands for. -/
def ReminderEvent.calls : ReminderEvent → List ActivityCall
  | .announced reminder _ =>
      [.log "Meeting reminder".toList (reminderDetail reminder)
        "scheduler.meeting_reminders".toList,
       .announceVoice (reminderDetail reminder)]
  | _ => []

inductive Event where
  | upsert (newId : String) (request : ReminderRequest)
  | delete (calendarId eventId startRaw : Text)
  /-- A call of `fire_reminder` for any id. -/
  | fireReminder (reminderId : String)
  /-- The scheduler takes up the job of an id. -/
  | runReminderJob (reminderId : String)
  | checkDueReminders
  | listMeetingReminders
  /-- The process starts again on the same database. -/
  | restart (downtime : Nat) (advances : Nat → Nat)

def runEvent (server : Server) : Event → Server
  | .upsert newId request => (upsertMeetingReminder newId request server).1
  | .delete calendarId eventId startRaw =>
      (deleteMeetingReminder calendarId eventId startRaw server).1
  | .fireReminder reminderId => fireReminder reminderId server
  | .runReminderJob reminderId => runReminderJob reminderId server
  | .checkDueReminders => checkDueReminders server
  | .listMeetingReminders => (listMeetingReminders server).1
  | .restart downtime advances =>
      registerJobs ⟨server.clock.latest + downtime, advances⟩ server.database

/-- The firings of a list of ids, each with the server that it meets. -/
def firingsOf : List String → Server → List (String × Server)
  | [], _ => []
  | reminderId :: rest, server =>
      (reminderId, server) :: firingsOf rest (fireReminder reminderId server)

def firings (server : Server) : Event → List (String × Server)
  | .fireReminder reminderId => firingsOf [reminderId] server
  | .runReminderJob reminderId =>
      let (server, runs) := takeUpReminderJob reminderId server
      if runs then firingsOf [reminderId] server else []
  | .checkDueReminders =>
      firingsOf ((listDueReminders server.clock.now server.database).map MeetingReminder.id)
        server.tick
  | _ => []

/-- The announcement that a firing makes. -/
def announcement (reminderId : String) (server : Server) : List ReminderEvent :=
  match getReminder reminderId server.database with
  | none => []
  | some reminder =>
      if reminder.firedAt = none ∧ reminder.remindAt ≤ server.clock.now then
        [.announced reminder server.clock.now]
      else []

def announcements (firings : List (String × Server)) : List ReminderEvent :=
  firings.flatMap fun firing => announcement firing.1 firing.2

/-- The server; no step reads the history. -/
structure Traced where
  server : Server
  /-- Latest first. -/
  history : List ReminderEvent

/-- The rows that an event stores and removes. -/
def changes (server : Server) : Event → List ReminderEvent
  | .upsert newId request =>
      match (storeReminder newId request server).2 with
      | .ok (reminder, _) => [.stored reminder]
      | .error _ => []
  | .delete calendarId eventId startRaw =>
      match parseIsoDatetime startRaw "start" with
      | .ok start =>
          (deleteReminderByKey calendarId eventId start.normalizeTimestamp server).2.toList.map
            .removed
      | .error _ => []
  | .listMeetingReminders =>
      (server.database.meetingReminders.filter fun reminder =>
        decide (reminder.start ≤ server.clock.now)).rows.map .removed
  | _ => []

def step (traced : Traced) (event : Event) : Traced where
  server := runEvent traced.server event
  history := (changes traced.server event ++
    announcements (firings traced.server event)).reverse ++ traced.history

def start (clock : Clock) : Traced := ⟨.initial clock, []⟩

variable {server server' : Server} {reminder : MeetingReminder} {reminderId : String}
variable {history : List ReminderEvent}

/-- The server after a firing that announced a row. -/
def afterAnnouncement (reminder : MeetingReminder) (server : Server) : Server :=
  unscheduleReminder reminder.id
    ((announceReminder reminder server.tick).onReminders
      (server.database.meetingReminders.modify reminder.id (setFired server.clock.now)
        fun _ => ⟨rfl, rfl⟩))

/-- The outcomes of a firing, with what it announces. -/
inductive FireCase (reminderId : String) (server : Server) : Server → List ReminderEvent → Prop
  | idle (h : ∀ reminder ∈ server.database.meetingReminders, reminder.id = reminderId →
      reminder.firedAt ≠ none) :
      FireCase reminderId server (unscheduleReminder reminderId server) []
  | early (reminder : MeetingReminder) (hmem : reminder ∈ server.database.meetingReminders)
      (hid : reminder.id = reminderId) (hfired : reminder.firedAt = none)
      (hearly : server.clock.now < reminder.remindAt) :
      FireCase reminderId server
        (scheduleReminder reminderId (some (.utc reminder.remindAt)) server.tick) []
  | announced (reminder : MeetingReminder) (hmem : reminder ∈ server.database.meetingReminders)
      (hid : reminder.id = reminderId) (hfired : reminder.firedAt = none)
      (hreached : reminder.remindAt ≤ server.clock.now) :
      FireCase reminderId server (afterAnnouncement reminder server)
        [.announced reminder server.clock.now]

theorem fireReminder_case (reminderId : String) (server : Server) :
    FireCase reminderId server (fireReminder reminderId server)
      (announcement reminderId server) := by
  cases hfound : getReminder reminderId server.database with
  | none =>
      simp only [fireReminder, announcement, hfound]
      refine .idle fun row hrow hid => absurd hid ?_
      exact Table.find?_eq_none_iff.mp hfound row hrow
  | some reminder =>
      obtain ⟨hmem, rfl⟩ := getReminder_eq_some_iff.mp hfound
      cases hfired : reminder.firedAt with
      | some firedAt =>
          simp only [fireReminder, announcement, hfound, hfired, Option.isSome_some, if_true,
            reduceCtorEq, false_and, if_false]
          refine .idle fun row hrow hid => ?_
          obtain rfl : row = reminder := Table.eq_of_key hrow hmem hid
          rw [hfired]
          exact Option.some_ne_none firedAt
      | none =>
          by_cases hearly : server.clock.now < reminder.remindAt
          · simp only [fireReminder, announcement, hfound, hfired, Option.isSome_none,
              Bool.false_eq_true, if_false, Datetime.normalizeTimestamp_stored,
              Datetime.instant_utc, if_pos hearly, Int.not_le.mpr hearly, and_false]
            exact .early reminder hmem rfl hfired hearly
          · have hstored : getReminder reminder.id
                (announceReminder reminder server.tick).database = some reminder := hfound
            have hmark := markReminderFired_of_some hstored (.utc server.clock.now)
            simp only [fireReminder, announcement, hfound, hfired, Option.isSome_none,
              Bool.false_eq_true, if_false, Datetime.normalizeTimestamp_stored,
              Datetime.instant_utc, if_neg hearly, Int.not_lt.mp hearly, and_self, if_true, hmark]
            exact .announced reminder hmem rfl hfired (Int.not_lt.mp hearly)

theorem mem_afterAnnouncement {row : MeetingReminder} :
    row ∈ (afterAnnouncement reminder server).database.meetingReminders ↔
      ∃ old ∈ server.database.meetingReminders,
        row = if old.id = reminder.id then setFired server.clock.now old else old := by
  change row ∈ server.database.meetingReminders.modify reminder.id (setFired server.clock.now)
    (fun _ => ⟨rfl, rfl⟩) ↔ _
  exact UniqueTable.mem_modify

theorem activity_fireReminder (reminderId : String) (server : Server) :
    (fireReminder reminderId server).activity =
      server.activity ++ (announcement reminderId server).flatMap ReminderEvent.calls := by
  have hcase := fireReminder_case reminderId server
  generalize fireReminder reminderId server = after, announcement reminderId server = logged
    at hcase
  cases hcase with
  | idle h => exact (List.append_nil _).symm
  | early reminder hmem hid hfired hearly => exact (List.append_nil _).symm
  | announced reminder hmem hid hfired hreached => exact List.append_assoc ..

def lastAbout (occurrence : Text × Text × Int) (history : List ReminderEvent) :
    Option ReminderEvent :=
  history.find? fun event => event.reminder.occurrence = occurrence

/-- An announcement is not early, and the event before it of the same occurrence
is the upsert that stored the row. -/
def Timed (history : List ReminderEvent) : Prop :=
  ∀ reminder now earlier, (.announced reminder now :: earlier) <:+ history →
    reminder.remindAt ≤ now ∧ lastAbout reminder.occurrence earlier = some (.stored reminder)

/-- The rows that may still be announced are as their last upserts left them. -/
structure Recorded (server : Server) (history : List ReminderEvent) : Prop where
  timed : Timed history
  unfired : ∀ reminder ∈ server.database.meetingReminders, reminder.firedAt = none →
    lastAbout reminder.occurrence history = some (.stored reminder)

section History

variable {event : ReminderEvent} {occurrence : Text × Text × Int}

theorem timed_nil : Timed [] := by
  intro reminder now earlier hsuffix
  rw [List.suffix_nil] at hsuffix
  cases hsuffix

theorem Timed.cons (h : Timed history)
    (hfirst : ∀ reminder now, event = .announced reminder now →
      reminder.remindAt ≤ now ∧ lastAbout reminder.occurrence history = some (.stored reminder)) :
    Timed (event :: history) := by
  intro reminder now earlier hsuffix
  rcases List.suffix_cons_iff.mp hsuffix with heq | hsuffix
  · injection heq with hevent hearlier
    subst hearlier
    exact hfirst reminder now hevent.symm
  · exact h reminder now earlier hsuffix

theorem lastAbout_cons_of_ne (h : event.reminder.occurrence ≠ occurrence) :
    lastAbout occurrence (event :: history) = lastAbout occurrence history :=
  List.find?_cons_of_neg (by simpa using h)

theorem lastAbout_append_of_ne {events : List ReminderEvent}
    (h : ∀ event ∈ events, event.reminder.occurrence ≠ occurrence) :
    lastAbout occurrence (events ++ history) = lastAbout occurrence history := by
  induction events with
  | nil => rfl
  | cons event events ih =>
      rw [List.forall_mem_cons] at h
      rw [List.cons_append, lastAbout_cons_of_ne h.1, ih h.2]

/-- Since an event of an occurrence that is no upsert of it, an upsert has to
come before the occurrence can be announced. -/
theorem exists_stored_of_timed {between earlier : List ReminderEvent} {now : Int}
    (h : Timed history) (hsuffix : (.announced reminder now :: (between ++ event :: earlier)) <:+
      history) (hsame : event.reminder.occurrence = reminder.occurrence)
    (hevent : ∀ stored, event ≠ .stored stored) :
    ∃ stored, .stored stored ∈ between ∧ stored.occurrence = reminder.occurrence := by
  obtain ⟨-, hlast⟩ := h reminder now _ hsuffix
  rw [lastAbout, List.find?_append] at hlast
  cases hfound : between.find? fun event => event.reminder.occurrence = reminder.occurrence with
  | none =>
      rw [hfound, Option.none_or, List.find?_cons_of_pos (by simpa using hsame)] at hlast
      exact absurd (Option.some.inj hlast) (hevent reminder)
  | some found =>
      rw [hfound, Option.some_or] at hlast
      obtain rfl := Option.some.inj hlast
      exact ⟨reminder, List.mem_of_find?_eq_some hfound, rfl⟩

end History

theorem occurrence_ne {table : ReminderTable} {row other : MeetingReminder} (hrow : row ∈ table)
    (hother : other ∈ table) (hne : row.id ≠ other.id) : row.occurrence ≠ other.occurrence := by
  intro hsame
  have hbyAlt : row = other := Table.eq_of_key (UniqueTable.mem_byAlt.mpr hrow)
    (UniqueTable.mem_byAlt.mpr hother) hsame
  exact hne (congrArg MeetingReminder.id hbyAlt)

namespace Recorded

/-- The history stays, and no row becomes unfired. -/
theorem of_rows (h : Recorded server history)
    (hrows : ∀ row ∈ server'.database.meetingReminders, row.firedAt = none →
      row ∈ server.database.meetingReminders) : Recorded server' history where
  timed := h.timed
  unfired row hrow hfired := h.unfired row (hrows row hrow hfired) hfired

theorem store (h : Recorded server history)
    (hmem : reminder ∈ server'.database.meetingReminders)
    (hrows : ∀ row ∈ server'.database.meetingReminders, row.id ≠ reminder.id →
      row ∈ server.database.meetingReminders) :
    Recorded server' (.stored reminder :: history) where
  timed := h.timed.cons fun _ _ hevent => by cases hevent
  unfired row hrow hfired := by
    by_cases hid : row.id = reminder.id
    · obtain rfl : row = reminder := Table.eq_of_key hrow hmem hid
      exact List.find?_cons_of_pos (decide_eq_true rfl)
    · have hne : reminder.occurrence ≠ row.occurrence := occurrence_ne hmem hrow (Ne.symm hid)
      rw [lastAbout_cons_of_ne]
      · exact h.unfired row (hrows row hrow hid) hfired
      · exact hne

theorem announce {now : Int} (h : Recorded server history)
    (hmem : reminder ∈ server.database.meetingReminders) (hfired : reminder.firedAt = none)
    (hreached : reminder.remindAt ≤ now)
    (hrows : ∀ row ∈ server'.database.meetingReminders, row.firedAt = none →
      row ∈ server.database.meetingReminders ∧ row.id ≠ reminder.id) :
    Recorded server' (.announced reminder now :: history) where
  timed := by
    refine h.timed.cons fun row now' hevent => ?_
    cases hevent
    exact ⟨hreached, h.unfired reminder hmem hfired⟩
  unfired row hrow hunfired := by
    obtain ⟨hbefore, hid⟩ := hrows row hrow hunfired
    have hne : reminder.occurrence ≠ row.occurrence := occurrence_ne hmem hbefore (Ne.symm hid)
    rw [lastAbout_cons_of_ne]
    · exact h.unfired row hbefore hunfired
    · exact hne

theorem remove (h : Recorded server history) (removed : List MeetingReminder)
    (hremoved : ∀ row ∈ removed, row ∈ server.database.meetingReminders)
    (hrows : ∀ row ∈ server'.database.meetingReminders,
      row ∈ server.database.meetingReminders ∧ row ∉ removed) :
    Recorded server' (removed.map .removed ++ history) where
  timed := by
    induction removed with
    | nil => exact h.timed
    | cons row removed ih =>
        refine (ih (fun row hrow => hremoved row (List.mem_cons_of_mem _ hrow)) ?_).cons ?_
        · exact fun other hother => ⟨(hrows other hother).1,
            fun hmem => (hrows other hother).2 (List.mem_cons_of_mem _ hmem)⟩
        · intro _ _ hevent
          cases hevent
  unfired row hrow hfired := by
    obtain ⟨hbefore, hkept⟩ := hrows row hrow
    rw [lastAbout_append_of_ne, h.unfired row hbefore hfired]
    rw [List.forall_mem_map]
    intro gone hgone
    refine occurrence_ne (hremoved gone hgone) hbefore fun hid => hkept ?_
    exact Table.eq_of_key (hremoved gone hgone) hbefore hid ▸ hgone

end Recorded

def HasJob (server : Server) (reminder : MeetingReminder) : Prop :=
  reminder.firedAt = none → server.clock.latest < reminder.remindAt →
    ⟨.meetingReminder reminder.id, reminder.remindAt⟩ ∈ server.jobs

def Scheduled (server : Server) : Prop :=
  ∀ reminder ∈ server.database.meetingReminders, HasJob server reminder

theorem HasJob.mono (h : HasJob server reminder)
    (hclock : server.clock.latest ≤ server'.clock.latest)
    (hjobs : ∀ job ∈ server.jobs, job.id = .meetingReminder reminder.id → job ∈ server'.jobs) :
    HasJob server' reminder := by
  intro hfired hlater
  exact hjobs _ (h hfired (Int.lt_of_le_of_lt hclock hlater)) rfl

theorem HasJob.scheduleReminder (h : HasJob server reminder) (hne : reminder.id ≠ reminderId)
    (remindAt : Option Datetime) :
    HasJob (scheduleReminder reminderId remindAt server) reminder := by
  have hjob : JobId.meetingReminder reminder.id ≠ .meetingReminder reminderId :=
    fun heq => hne (JobId.meetingReminder.inj heq)
  cases remindAt with
  | none =>
      refine h.mono (Int.le_refl _) fun job hmem hid => ?_
      exact Table.mem_erase.mpr ⟨hmem, hid ▸ hjob⟩
  | some due =>
      refine h.mono server.clock.latest_le_now fun job hmem hid => ?_
      exact Table.mem_put.mpr (Or.inr ⟨hmem, hid ▸ hjob⟩)

theorem hasJob_scheduleReminder_self {due : Datetime} (hdue : reminder.remindAt = due.instant) :
    HasJob (scheduleReminder reminder.id (some due) server) reminder := by
  intro _ hlater
  have hmax : max due.normalizeTimestamp.instant server.clock.now = due.instant := by
    rw [Datetime.instant_normalizeTimestamp]
    apply Int.max_eq_left
    rw [← hdue]
    exact Int.le_of_lt hlater
  apply Table.mem_put.mpr
  left
  rw [hmax, hdue]

theorem scheduled_of_clock (h : Scheduled server)
    (hclock : server.clock.latest ≤ server'.clock.latest)
    (hrows : ∀ row ∈ server'.database.meetingReminders, row ∈ server.database.meetingReminders)
    (hjobs : server'.jobs = server.jobs) : Scheduled server' := by
  intro row hrow
  refine (h row (hrows row hrow)).mono hclock fun job hmem _ => ?_
  rwa [hjobs]

theorem scheduled_fireReminder (h : Scheduled server) (reminderId : String) :
    Scheduled (fireReminder reminderId server) := by
  have hcase := fireReminder_case reminderId server
  generalize fireReminder reminderId server = after, announcement reminderId server = logged
    at hcase
  cases hcase with
  | idle hidle =>
      intro row hrow hfired hlater
      refine Table.mem_erase.mpr ⟨h row hrow hfired hlater, fun hid => ?_⟩
      exact hidle row hrow (JobId.meetingReminder.inj hid) hfired
  | early reminder hmem hid hfired hearly =>
      subst hid
      intro row hrow
      by_cases hid : row.id = reminder.id
      · obtain rfl : row = reminder := Table.eq_of_key hrow hmem hid
        exact hasJob_scheduleReminder_self (Datetime.instant_utc _).symm
      · apply HasJob.scheduleReminder _ hid
        exact (h row hrow).mono server.clock.latest_le_now fun _ hmem _ => hmem
  | announced reminder hmem hid hfired hreached =>
      intro row hrow hunfired hlater
      obtain ⟨old, hold, rfl⟩ := mem_afterAnnouncement.mp hrow
      by_cases hsame : old.id = reminder.id
      · rw [if_pos hsame] at hunfired
        cases hunfired
      · rw [if_neg hsame] at hunfired hlater ⊢
        refine Table.mem_erase.mpr ⟨?_, fun heq => hsame (JobId.meetingReminder.inj heq)⟩
        exact h old hold hunfired (Int.lt_of_le_of_lt server.clock.latest_le_now hlater)

def fireAll (reminderIds : List String) (server : Server) : Server :=
  reminderIds.foldl (fun server reminderId => fireReminder reminderId server) server

theorem checkDueReminders_eq (server : Server) :
    checkDueReminders server =
      fireAll ((listDueReminders server.clock.now server.database).map MeetingReminder.id)
        server.tick := by
  rw [fireAll, List.foldl_map]
  rfl

theorem activity_fireAll (reminderIds : List String) (server : Server) :
    (fireAll reminderIds server).activity = server.activity ++
      (announcements (firingsOf reminderIds server)).flatMap ReminderEvent.calls := by
  induction reminderIds generalizing server with
  | nil => exact (List.append_nil _).symm
  | cons reminderId rest ih =>
      rw [fireAll, List.foldl_cons, ← fireAll, ih, activity_fireReminder, firingsOf,
        announcements, announcements, List.flatMap_cons, List.flatMap_append, List.append_assoc]

theorem recorded_fireReminder (h : Recorded server history) (reminderId : String) :
    Recorded (fireReminder reminderId server)
      ((announcement reminderId server).reverse ++ history) := by
  have hcase := fireReminder_case reminderId server
  generalize fireReminder reminderId server = after, announcement reminderId server = logged
    at hcase
  cases hcase with
  | idle hidle => exact h.of_rows fun row hrow _ => hrow
  | early reminder hmem hid hfired hearly => exact h.of_rows fun row hrow _ => hrow
  | announced reminder hmem hid hfired hreached =>
      refine h.announce hmem hfired hreached fun row hrow hunfired => ?_
      obtain ⟨old, hold, rfl⟩ := mem_afterAnnouncement.mp hrow
      by_cases hsame : old.id = reminder.id
      · rw [if_pos hsame] at hunfired
        cases hunfired
      · rw [if_neg hsame]
        exact ⟨hold, hsame⟩

theorem recorded_fireAll (h : Recorded server history) (reminderIds : List String) :
    Recorded (fireAll reminderIds server)
      ((announcements (firingsOf reminderIds server)).reverse ++ history) := by
  induction reminderIds generalizing server history with
  | nil => exact h
  | cons reminderId rest ih =>
      have hrest := ih (recorded_fireReminder h reminderId)
      rw [← List.append_assoc, ← List.reverse_append] at hrest
      exact hrest

theorem scheduled_fireAll (h : Scheduled server) (reminderIds : List String) :
    Scheduled (fireAll reminderIds server) :=
  List.foldlRecOn _ _ h fun _ h reminderId _ => scheduled_fireReminder h reminderId

/-- Firings mark rows, and change them in no other way. -/
structure OnlyFires (server server' : Server) : Prop where
  clock : server.clock.latest ≤ server'.clock.latest
  rows : ∀ row ∈ server'.database.meetingReminders, ∃ old ∈ server.database.meetingReminders,
    row = old ∨ ∃ now, row = setFired now old

theorem OnlyFires.trans {a b c : Server} (h : OnlyFires a b) (h' : OnlyFires b c) :
    OnlyFires a c where
  clock := h.clock.trans h'.clock
  rows row hrow := by
    obtain ⟨between, hbetween, hrow⟩ := h'.rows row hrow
    obtain ⟨old, hold, hmarked⟩ := h.rows between hbetween
    refine ⟨old, hold, ?_⟩
    rcases hrow with rfl | ⟨now, rfl⟩
    · exact hmarked
    · rcases hmarked with rfl | ⟨now', rfl⟩
      · exact Or.inr ⟨now, rfl⟩
      · exact Or.inr ⟨now, rfl⟩

theorem onlyFires_fireReminder (reminderId : String) (server : Server) :
    OnlyFires server (fireReminder reminderId server) := by
  have hcase := fireReminder_case reminderId server
  generalize fireReminder reminderId server = after, announcement reminderId server = logged
    at hcase
  cases hcase with
  | idle hidle => exact ⟨Int.le_refl _, fun row hrow => ⟨row, hrow, Or.inl rfl⟩⟩
  | early reminder hmem hid hfired hearly =>
      exact ⟨server.clock.latest_le_now.trans server.clock.tick.latest_le_now,
        fun row hrow => ⟨row, hrow, Or.inl rfl⟩⟩
  | announced reminder hmem hid hfired hreached =>
      refine ⟨server.clock.latest_le_now, fun row hrow => ?_⟩
      obtain ⟨old, hold, rfl⟩ := mem_afterAnnouncement.mp hrow
      refine ⟨old, hold, ?_⟩
      split
      · exact Or.inr ⟨server.clock.now, rfl⟩
      · exact Or.inl rfl

theorem onlyFires_fireAll (reminderIds : List String) (server : Server) :
    OnlyFires server (fireAll reminderIds server) := by
  induction reminderIds generalizing server with
  | nil => exact ⟨Int.le_refl _, fun row hrow => ⟨row, hrow, Or.inl rfl⟩⟩
  | cons reminderId rest ih => exact (onlyFires_fireReminder reminderId server).trans (ih _)

/-- A firing leaves no due row of its id unfired. -/
theorem firedAt_ne_none_of_fireReminder {row : MeetingReminder}
    (hrow : row ∈ (fireReminder reminderId server).database.meetingReminders)
    (hid : row.id = reminderId) (hdue : row.remindAt ≤ server.clock.latest) :
    row.firedAt ≠ none := by
  have hcase := fireReminder_case reminderId server
  generalize fireReminder reminderId server = after, announcement reminderId server = logged
    at hcase hrow
  cases hcase with
  | idle hidle => exact hidle row hrow hid
  | early reminder hmem hid' hfired hearly =>
      obtain rfl : row = reminder := Table.eq_of_key hrow hmem (hid.trans hid'.symm)
      exact absurd hearly (Int.not_lt.mpr (hdue.trans server.clock.latest_le_now))
  | announced reminder hmem hid' hfired hreached =>
      obtain ⟨old, hold, rfl⟩ := mem_afterAnnouncement.mp hrow
      by_cases hsame : old.id = reminder.id
      · rw [if_pos hsame]
        exact Option.some_ne_none _
      · rw [if_neg hsame] at hid
        exact absurd (hid.trans hid'.symm) hsame

theorem firedAt_ne_none_of_fireAll {reminderIds : List String} {row : MeetingReminder}
    (hrow : row ∈ (fireAll reminderIds server).database.meetingReminders)
    (hid : row.id ∈ reminderIds) (hdue : row.remindAt ≤ server.clock.latest) :
    row.firedAt ≠ none := by
  induction reminderIds generalizing server with
  | nil => exact absurd hid List.not_mem_nil
  | cons reminderId rest ih =>
      rcases List.mem_cons.mp hid with hid | hid
      · obtain ⟨old, hold, rfl | ⟨now, rfl⟩⟩ :=
          (onlyFires_fireAll rest (fireReminder reminderId server)).rows row hrow
        · exact firedAt_ne_none_of_fireReminder hold hid hdue
        · exact Option.some_ne_none now
      · exact ih hrow hid (hdue.trans (onlyFires_fireReminder reminderId server).clock)

/-- After a poll no row that was due at its reading of the clock is unfired. -/
theorem firedAt_ne_none_of_checkDueReminders {row : MeetingReminder}
    (hrow : row ∈ (checkDueReminders server).database.meetingReminders)
    (hdue : row.remindAt ≤ server.clock.now) : row.firedAt ≠ none := by
  rw [checkDueReminders_eq] at hrow
  obtain ⟨old, hold, rfl | ⟨now, rfl⟩⟩ := (onlyFires_fireAll _ server.tick).rows row hrow
  · intro hfired
    have hlisted : row ∈ listDueReminders server.clock.now server.database :=
      mem_listDueReminders.mpr ⟨hold, hfired, hdue⟩
    exact firedAt_ne_none_of_fireAll hrow (List.mem_map_of_mem hlisted) hdue hfired
  · exact Option.some_ne_none now

theorem hasJob_foldl_syncReminderSchedule {reminders : List MeetingReminder}
    (hstored : ∀ row ∈ reminders, row ∈ server.database.meetingReminders)
    (hreminder : reminder ∈ server.database.meetingReminders)
    (h : reminder ∈ reminders ∨ HasJob server reminder) :
    HasJob (reminders.foldl syncReminderSchedule server) reminder := by
  induction reminders generalizing server with
  | nil => exact h.resolve_left List.not_mem_nil
  | cons first rest ih =>
      rw [List.forall_mem_cons] at hstored
      rw [List.foldl_cons]
      apply ih
      · rw [(onlySchedules_syncReminderSchedule server first).database]
        exact hstored.2
      · rw [(onlySchedules_syncReminderSchedule server first).database]
        exact hreminder
      · by_cases hid : reminder.id = first.id
        · obtain rfl : reminder = first := Table.eq_of_key hreminder hstored.1 hid
          exact Or.inr (hasJob_scheduleReminder_self (Datetime.instant_stored _).symm)
        · rcases h with hmem | hjob
          · rcases List.mem_cons.mp hmem with rfl | hrest
            · exact absurd rfl hid
            · exact Or.inl hrest
          · exact Or.inr (hjob.scheduleReminder hid _)

theorem scheduled_registerJobs (clock : Clock) (db : Database) :
    Scheduled (registerJobs clock db) := by
  intro row hrow hfired hlater
  rw [(onlySchedules_registerJobs clock db).database] at hrow
  have htimers := onlySchedules_syncTimerSchedules ⟨clock, db, .empty, [], []⟩
  have hrow' : row ∈
      (syncTimerSchedules ⟨clock, db, .empty, [], []⟩).database.meetingReminders := by
    rwa [htimers.database]
  have hclock := (onlySchedules_syncReminderSchedules
    (syncTimerSchedules ⟨clock, db, .empty, [], []⟩)).clock
  refine hasJob_foldl_syncReminderSchedule ?_ hrow' (Or.inl ?_) hfired hlater
  · exact fun row hrow => (mem_listSchedulableReminders.mp hrow).1
  · exact mem_listSchedulableReminders.mpr ⟨hrow', hfired, Int.lt_of_le_of_lt hclock hlater⟩

theorem scheduled_takeUpReminderJob (h : Scheduled server) (reminderId : String) :
    Scheduled (takeUpReminderJob reminderId server).1 := by
  simp only [takeUpReminderJob]
  split
  · exact h
  · rename_i job hfound
    split
    · exact scheduled_of_clock h server.clock.latest_le_now (fun _ hrow => hrow) rfl
    · rename_i hreached
      obtain ⟨hjob, hid⟩ := Table.find?_eq_some_iff.mp hfound
      have htaken : Scheduled (unscheduleReminder reminderId server.tick) := by
        intro row hrow hfired hlater
        have hmem := h row hrow hfired
          (Int.lt_of_le_of_lt server.clock.latest_le_now hlater)
        refine Table.mem_erase.mpr ⟨hmem, fun heq => hreached ?_⟩
        obtain rfl := Table.eq_of_key hmem hjob (heq.trans hid.symm)
        exact hlater
      exact scheduled_of_clock htaken
        (unscheduleReminder reminderId server.tick).clock.latest_le_now (fun _ hrow => hrow) rfl

theorem takeUpReminderJob_database (reminderId : String) (server : Server) :
    (takeUpReminderJob reminderId server).1.database = server.database := by
  unfold takeUpReminderJob
  split
  · rfl
  · split <;> rfl

theorem takeUpReminderJob_activity (reminderId : String) (server : Server) :
    (takeUpReminderJob reminderId server).1.activity = server.activity := by
  unfold takeUpReminderJob
  split
  · rfl
  · split <;> rfl

/-- The outcomes of an upsert, with the row that it stores. -/
inductive UpsertCase (request : ReminderRequest) (server : Server) :
    Server → List ReminderEvent → Prop
  | refused (server' : Server) (hstores : OnlyStores server server')
      (hdatabase : server'.database = server.database) : UpsertCase request server server' []
  | stored (args : ReminderArgs) (start stop : Datetime) (reminder : MeetingReminder)
      (stored : Server) (haccepts : Accepts request server.clock.now args start stop)
      (hupserts : Upserts args server.tick reminder stored) (hstores : OnlyStores server stored) :
      UpsertCase request server (scheduleReminder reminder.id (some args.remindAt) stored)
        [.stored reminder]

theorem upsertMeetingReminder_case (newId : String) (request : ReminderRequest)
    (server : Server) :
    UpsertCase request server (upsertMeetingReminder newId request server).1
      (changes server (.upsert newId request)) := by
  have hstores := onlyStores_storeReminder newId request server
  rcases hstore : storeReminder newId request server with ⟨stored, e | ⟨reminder, remindAt⟩⟩
  · rw [hstore] at hstores
    simp only [upsertMeetingReminder, changes, hstore]
    exact .refused stored hstores (storeReminder_database_of_error hstore)
  · rw [hstore] at hstores
    simp only [upsertMeetingReminder, changes, hstore]
    obtain ⟨args, hargs, rfl, hupserts⟩ := upserts_of_storeReminder hstore
    obtain ⟨start, stop, haccepts⟩ := accepts_of_reminderArgs hargs
    exact .stored args start stop reminder stored haccepts hupserts hstores

/-- The outcomes of a deletion, with the row that it removes. -/
inductive DeleteCase (server : Server) : Server → List ReminderEvent → Prop
  | kept : DeleteCase server server []
  | removed (reminder : MeetingReminder) (hmem : reminder ∈ server.database.meetingReminders) :
      DeleteCase server (unscheduleReminder reminder.id
        (server.onReminders (server.database.meetingReminders.erase reminder.id)))
        [.removed reminder]

theorem deleteMeetingReminder_case (calendarId eventId startRaw : Text) (server : Server) :
    DeleteCase server (deleteMeetingReminder calendarId eventId startRaw server).1
      (changes server (.delete calendarId eventId startRaw)) := by
  cases hparse : parseIsoDatetime startRaw "start" with
  | error e =>
      simp only [deleteMeetingReminder, changes, hparse]
      exact .kept
  | ok start =>
      cases hfound : getReminderByKey calendarId eventId start.normalizeTimestamp
          server.database with
      | none =>
          simp only [deleteMeetingReminder, changes, hparse, deleteReminderByKey, hfound]
          exact .kept
      | some reminder =>
          simp only [deleteMeetingReminder, changes, hparse, deleteReminderByKey, hfound]
          exact .removed reminder (getReminderByKey_eq_some_iff.mp hfound).1

theorem recorded_upsert (h : Recorded server history) (newId : String)
    (request : ReminderRequest) :
    Recorded (upsertMeetingReminder newId request server).1
      ((changes server (.upsert newId request)).reverse ++ history) := by
  have hcase := upsertMeetingReminder_case newId request server
  generalize (upsertMeetingReminder newId request server).1 = after,
    changes server (.upsert newId request) = logged at hcase
  cases hcase with
  | refused _ hstores hdatabase =>
      refine h.of_rows fun row hrow _ => ?_
      rwa [hdatabase] at hrow
  | stored args start stop reminder stored haccepts hupserts hstores =>
      refine h.store hupserts.stored fun row hrow hid => ?_
      exact (hupserts.others row hid).mp hrow

theorem recorded_delete (h : Recorded server history) (calendarId eventId startRaw : Text) :
    Recorded (deleteMeetingReminder calendarId eventId startRaw server).1
      ((changes server (.delete calendarId eventId startRaw)).reverse ++ history) := by
  have hcase := deleteMeetingReminder_case calendarId eventId startRaw server
  generalize (deleteMeetingReminder calendarId eventId startRaw server).1 = after,
    changes server (.delete calendarId eventId startRaw) = logged at hcase
  cases hcase with
  | kept => exact h
  | removed reminder hmem =>
      refine h.remove [reminder] ?_ fun row hrow => ?_
      · rw [List.forall_mem_singleton]
        exact hmem
      · obtain ⟨hbefore, hid⟩ := Table.mem_erase.mp hrow
        refine ⟨hbefore, fun hsame => hid ?_⟩
        rw [List.mem_singleton.mp hsame]

theorem recorded_list (h : Recorded server history) :
    Recorded (listMeetingReminders server).1
      ((changes server .listMeetingReminders).reverse ++ history) := by
  rw [changes, ← List.map_reverse]
  refine h.remove _ (fun row hrow => ?_) fun row hrow => ?_
  · exact (UniqueTable.mem_filter.mp (List.mem_reverse.mp hrow)).1
  · obtain ⟨hmem, hkept⟩ := UniqueTable.mem_filter.mp hrow
    refine ⟨hmem, fun hgone => ?_⟩
    rw [(UniqueTable.mem_filter.mp (List.mem_reverse.mp hgone)).2] at hkept
    cases hkept

theorem recorded_step (traced : Traced) (event : Event)
    (h : Recorded traced.server traced.history) :
    Recorded (step traced event).server (step traced event).history := by
  cases event with
  | upsert newId request =>
      have hupsert := recorded_upsert h newId request
      rwa [← List.append_nil (changes _ _)] at hupsert
  | delete calendarId eventId startRaw =>
      have hdelete := recorded_delete h calendarId eventId startRaw
      rwa [← List.append_nil (changes _ _)] at hdelete
  | fireReminder reminderId => exact recorded_fireAll h [reminderId]
  | runReminderJob reminderId =>
      have htaken : Recorded (takeUpReminderJob reminderId traced.server).1 traced.history := by
        refine h.of_rows fun row hrow _ => ?_
        rwa [takeUpReminderJob_database] at hrow
      simp only [step, runEvent, runReminderJob, firings, changes, List.nil_append]
      split
      · exact recorded_fireAll htaken [reminderId]
      · exact htaken
  | checkDueReminders =>
      have htick : Recorded traced.server.tick traced.history := h.of_rows fun _ hrow _ => hrow
      simp only [step, runEvent, checkDueReminders_eq, firings, changes, List.nil_append]
      exact recorded_fireAll htick _
  | listMeetingReminders =>
      have hlist := recorded_list h
      rwa [← List.append_nil (changes _ _)] at hlist
  | restart downtime advances =>
      refine h.of_rows fun row hrow _ => ?_
      change row ∈ (registerJobs _ traced.server.database).database.meetingReminders at hrow
      rwa [(onlySchedules_registerJobs _ _).database] at hrow

/-- The requests that an event makes are for starts in UTC. -/
def Event.StartsUtc : Event → Prop
  | .upsert _ request =>
      ∀ start, parseIsoDatetime request.startRaw "start" = .ok start → start.IsUtc
  | _ => True

theorem scheduled_upsert (h : Scheduled server) {newId : String} {request : ReminderRequest}
    (hutc : (Event.upsert newId request).StartsUtc) :
    Scheduled (upsertMeetingReminder newId request server).1 := by
  have hcase := upsertMeetingReminder_case newId request server
  generalize (upsertMeetingReminder newId request server).1 = after,
    changes server (.upsert newId request) = logged at hcase
  cases hcase with
  | refused _ hstores hdatabase =>
      refine scheduled_of_clock h hstores.clock (fun row hrow => ?_) hstores.jobs
      rwa [hdatabase] at hrow
  | stored args start stop reminder stored haccepts hupserts hstores =>
      have hstart := Datetime.isUtc_iff.mp (hutc start haccepts.start_ok)
      intro row hrow
      by_cases hid : row.id = reminder.id
      · obtain rfl : row = reminder := Table.eq_of_key hrow hupserts.stored hid
        apply hasJob_scheduleReminder_self
        rw [hupserts.carries.remindAt, haccepts.remindAt_wall, haccepts.remindAt_instant, hstart]
      · apply HasJob.scheduleReminder _ hid
        refine (h row ((hupserts.others row hid).mp hrow)).mono hstores.clock fun job hmem _ => ?_
        rwa [hstores.jobs]

theorem scheduled_delete (h : Scheduled server) (calendarId eventId startRaw : Text) :
    Scheduled (deleteMeetingReminder calendarId eventId startRaw server).1 := by
  have hcase := deleteMeetingReminder_case calendarId eventId startRaw server
  generalize (deleteMeetingReminder calendarId eventId startRaw server).1 = after,
    changes server (.delete calendarId eventId startRaw) = logged at hcase
  cases hcase with
  | kept => exact h
  | removed reminder hmem =>
      intro row hrow
      obtain ⟨hbefore, hid⟩ := Table.mem_erase.mp hrow
      exact HasJob.scheduleReminder (h row hbefore) hid none

theorem scheduled_step (traced : Traced) (event : Event) (h : Scheduled traced.server)
    (hutc : event.StartsUtc) : Scheduled (step traced event).server := by
  cases event with
  | upsert newId request => exact scheduled_upsert h hutc
  | delete calendarId eventId startRaw => exact scheduled_delete h calendarId eventId startRaw
  | fireReminder reminderId => exact scheduled_fireReminder h reminderId
  | runReminderJob reminderId =>
      have htaken := scheduled_takeUpReminderJob h reminderId
      simp only [step, runEvent, runReminderJob]
      split
      · exact scheduled_fireReminder htaken reminderId
      · exact htaken
  | checkDueReminders =>
      simp only [step, runEvent, checkDueReminders_eq]
      apply scheduled_fireAll
      exact scheduled_of_clock h traced.server.clock.latest_le_now (fun _ hrow => hrow) rfl
  | listMeetingReminders =>
      exact scheduled_of_clock h traced.server.clock.latest_le_now
        (fun _ hrow => (UniqueTable.mem_filter.mp hrow).1) rfl
  | restart downtime advances => exact scheduled_registerJobs _ _

/-- The calls of the activity hub that a step keeps from before. -/
def keptActivity (server : Server) : Event → List ActivityCall
  | .restart _ _ => []
  | _ => server.activity

theorem activity_upsert (newId : String) (request : ReminderRequest) (server : Server) :
    (upsertMeetingReminder newId request server).1.activity = server.activity := by
  have hcase := upsertMeetingReminder_case newId request server
  generalize (upsertMeetingReminder newId request server).1 = after,
    changes server (.upsert newId request) = logged at hcase
  cases hcase with
  | refused _ hstores hdatabase => exact hstores.activity
  | stored args start stop reminder stored haccepts hupserts hstores => exact hstores.activity

theorem activity_delete (calendarId eventId startRaw : Text) (server : Server) :
    (deleteMeetingReminder calendarId eventId startRaw server).1.activity = server.activity := by
  have hcase := deleteMeetingReminder_case calendarId eventId startRaw server
  generalize (deleteMeetingReminder calendarId eventId startRaw server).1 = after,
    changes server (.delete calendarId eventId startRaw) = logged at hcase
  cases hcase with
  | kept => rfl
  | removed reminder hmem => rfl

theorem activity_runEvent (server : Server) (event : Event) :
    (runEvent server event).activity = keptActivity server event ++
      (announcements (firings server event)).flatMap ReminderEvent.calls := by
  cases event with
  | upsert newId request => exact (activity_upsert ..).trans (List.append_nil _).symm
  | delete calendarId eventId startRaw =>
      exact (activity_delete ..).trans (List.append_nil _).symm
  | fireReminder reminderId => exact activity_fireAll [reminderId] server
  | runReminderJob reminderId =>
      have htaken := takeUpReminderJob_activity reminderId server
      simp only [runEvent, runReminderJob, firings, keptActivity]
      rw [← htaken]
      split
      · exact activity_fireAll [reminderId] _
      · exact (List.append_nil _).symm
  | checkDueReminders =>
      simp only [runEvent, checkDueReminders_eq]
      exact activity_fireAll _ server.tick
  | listMeetingReminders => exact (List.append_nil _).symm
  | restart downtime advances => exact (onlySchedules_registerJobs _ _).activity

theorem calls_changes (server : Server) (event : Event) :
    (changes server event).flatMap ReminderEvent.calls = [] := by
  rw [List.flatMap_eq_nil_iff]
  cases event with
  | upsert newId request =>
      have hcase := upsertMeetingReminder_case newId request server
      generalize (upsertMeetingReminder newId request server).1 = after,
        changes server (.upsert newId request) = logged at hcase
      cases hcase <;> simp [ReminderEvent.calls]
  | delete calendarId eventId startRaw =>
      have hcase := deleteMeetingReminder_case calendarId eventId startRaw server
      generalize (deleteMeetingReminder calendarId eventId startRaw server).1 = after,
        changes server (.delete calendarId eventId startRaw) = logged at hcase
      cases hcase <;> simp [ReminderEvent.calls]
  | listMeetingReminders =>
      rw [changes, List.forall_mem_map]
      exact fun _ _ => rfl
  | _ => exact fun _ h => absurd h List.not_mem_nil

variable (clock : Clock) (events : List Event)

/-- The promises about the reminders in a run. -/
structure WellRun : Prop where
  /-- The announcements of the history are the calls that the hub receives. -/
  heard : ∀ k event, events[k]? = some event → ∃ logged : List ReminderEvent,
    (stateAt step (start clock) events (k + 1)).history =
      logged.reverse ++ (stateAt step (start clock) events k).history ∧
    (stateAt step (start clock) events (k + 1)).server.activity =
      keptActivity (stateAt step (start clock) events k).server event ++
        logged.flatMap ReminderEvent.calls
  timed : ∀ k, Timed (stateAt step (start clock) events k).history
  once : ∀ k reminder now between reminder' now' earlier,
    (.announced reminder now :: (between ++ .announced reminder' now' :: earlier)) <:+
      (stateAt step (start clock) events k).history →
    reminder'.occurrence = reminder.occurrence →
    ∃ stored, .stored stored ∈ between ∧ stored.occurrence = reminder.occurrence
  notRemoved : ∀ k reminder now between removed earlier,
    (.announced reminder now :: (between ++ .removed removed :: earlier)) <:+
      (stateAt step (start clock) events k).history →
    removed.occurrence = reminder.occurrence →
    ∃ stored, .stored stored ∈ between ∧ stored.occurrence = reminder.occurrence
  scheduled : ∀ k, Scheduled (stateAt step (start clock) events k).server
  checked : ∀ k reminder, events[k]? = some .checkDueReminders →
    reminder ∈ (stateAt step (start clock) events (k + 1)).server.database.meetingReminders →
    reminder.remindAt ≤ (stateAt step (start clock) events k).server.clock.now →
    reminder.firedAt ≠ none

theorem recorded_stateAt (k : Nat) :
    Recorded (stateAt step (start clock) events k).server
      (stateAt step (start clock) events k).history := by
  have hstart : Recorded (start clock).server (start clock).history :=
    ⟨timed_nil, fun row hrow => absurd hrow (UniqueTable.not_mem_empty row)⟩
  exact invariant_of_kept (P := fun traced : Traced => Recorded traced.server traced.history) hstart
    recorded_step k

theorem scheduled_stateAt (hutc : ∀ event ∈ events, event.StartsUtc) (k : Nat) :
    Scheduled (stateAt step (start clock) events k).server := by
  have hstart : Scheduled (start clock).server :=
    fun row hrow => absurd hrow (UniqueTable.not_mem_empty row)
  exact invariant_of_guarded (P := fun traced : Traced => Scheduled traced.server)
    (C := fun _ event => event.StartsUtc) hstart scheduled_step
    (fun _ event hevent => hutc event (List.mem_of_getElem? hevent)) k

/-- The promises hold in every run with starts in UTC. -/
theorem wellRun_of_startsUtc (hutc : ∀ event ∈ events, event.StartsUtc) :
    WellRun clock events where
  heard k event hevent := by
    rw [stateAt_succ hevent]
    refine ⟨_, rfl, ?_⟩
    rw [List.flatMap_append, calls_changes, List.nil_append]
    exact activity_runEvent _ event
  timed k := (recorded_stateAt clock events k).timed
  once k reminder now between reminder' now' earlier hsuffix hsame :=
    exists_stored_of_timed (recorded_stateAt clock events k).timed hsuffix hsame (by simp)
  notRemoved k reminder now between removed earlier hsuffix hsame :=
    exists_stored_of_timed (recorded_stateAt clock events k).timed hsuffix hsame (by simp)
  scheduled k := scheduled_stateAt clock events hutc k
  checked k reminder hevent hrow hdue := by
    rw [stateAt_succ hevent] at hrow
    exact firedAt_ne_none_of_checkDueReminders hrow hdue

/-- A reminder that is announced by the poll, for a later lead once more by its
job, and deleted. -/
def standupEvents : List Event :=
  [.upsert "rem_1" { standup "2026-07-01T10:00:00Z" with leadMinutes := 60 },
   .restart 1800000000 fun n => if n = 3 then 2700000000 else 0,
   .checkDueReminders,
   .upsert "rem_2" (standup "2026-07-01T10:00:00Z"),
   .runReminderJob "rem_1",
   .delete "primary".toList "standup".toList "2026-07-01T10:00:00Z".toList,
   .fireReminder "rem_1"]

theorem wellRun_of_startsUtc_standup : WellRun (.stopped (1782894600 * second)) standupEvents := by
  apply wellRun_of_startsUtc
  have hzulu : ∀ start, parseIsoDatetime "2026-07-01T10:00:00Z".toList "start" = .ok start →
      start.IsUtc := by
    have hparse : parseIsoDatetime "2026-07-01T10:00:00Z".toList "start" =
        .ok (.utc (1782900000 * second)) := by
      decide +kernel
    intro start hstart
    obtain rfl := Except.ok.inj (hparse.symm.trans hstart)
    rfl
  intro event hevent
  simp only [standupEvents, List.mem_cons, List.not_mem_nil, or_false] at hevent
  rcases hevent with rfl | rfl | rfl | rfl | rfl | rfl | rfl
  · exact hzulu
  · trivial
  · trivial
  · exact hzulu
  · trivial
  · trivial
  · trivial

example : (stateAt step (start (.stopped (1782894600 * second))) standupEvents 7).history.map
    (fun event => match event with
      | .stored _ => "stored"
      | .announced _ _ => "announced"
      | .removed _ => "removed") =
    ["removed", "announced", "stored", "announced", "stored"] := by
  decide +kernel

end NanoCore.MeetingReminders.Lifecycle
