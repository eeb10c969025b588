import NanoCore.MeetingReminders.Lifecycle

namespace NanoCore.MeetingReminders.LateAnnouncements

open NanoCore.Foundation.KeyedTable
open NanoCore.Foundation.PythonDatetime
open NanoCore.Foundation.Runs
open NanoCore.Memory.MeetingReminders
open NanoCore.Memory.Models
open NanoCore.MeetingReminders.Lifecycle
open NanoCore.MeetingReminders.Offsets
open NanoCore.MeetingReminders.Service
open NanoCore.Runtime.State
open NanoCore.Scheduler.Jobs

variable {server server' : Server} {reminder : MeetingReminder} {reminderId : String}

/-- The rows of reminders are for a time before the start. -/
def Leads (server : Server) : Prop :=
  ∀ reminder ∈ server.database.meetingReminders, reminder.remindAt < reminder.start

theorem Leads.of_rows (h : Leads server)
    (hrows : ∀ row ∈ server'.database.meetingReminders, row ∈ server.database.meetingReminders) :
    Leads server' := fun row hrow => h row (hrows row hrow)

theorem Leads.of_onlyFires (h : Leads server) (hfires : OnlyFires server server') :
    Leads server' := by
  intro row hrow
  obtain ⟨old, hold, rfl | ⟨now, rfl⟩⟩ := hfires.rows row hrow
  · exact h row hold
  · exact h old hold

theorem lt_start_of_upserts {args : ReminderArgs} {request : ReminderRequest} {now : Int}
    {start stop : Datetime} (haccepts : Accepts request now args start stop)
    (hcarries : Carries args reminder) : reminder.remindAt < reminder.start := by
  have hstart : reminder.start = start.wall := by
    have hkey := congrArg (fun key => key.2.2) hcarries.occurrence
    rw [haccepts.args_start, Datetime.wall_normalizeTimestamp] at hkey
    exact hkey
  have hpos : 0 < request.leadMinutes := by
    have hlead := haccepts.leadMinutes
    simp only [allowedLeadMinutes, List.mem_cons, List.not_mem_nil, or_false] at hlead
    omega
  rw [hcarries.remindAt, haccepts.remindAt_wall, hstart]
  exact Int.sub_lt_self _ (Int.mul_pos hpos (by decide))

theorem leads_step (traced : Traced) (event : Event) (h : Leads traced.server) :
    Leads (step traced event).server := by
  cases event with
  | upsert newId request =>
      have hcase := upsertMeetingReminder_case newId request traced.server
      simp only [step, runEvent]
      generalize (upsertMeetingReminder newId request traced.server).1 = after,
        changes traced.server (.upsert newId request) = logged at hcase
      cases hcase with
      | refused _ hstores hdatabase =>
          refine h.of_rows fun row hrow => ?_
          rwa [hdatabase] at hrow
      | stored args start stop reminder stored haccepts hupserts hstores =>
          intro row hrow
          by_cases hid : row.id = reminder.id
          · obtain rfl : row = reminder := Table.eq_of_key hrow hupserts.stored hid
            exact lt_start_of_upserts haccepts hupserts.carries
          · exact h row ((hupserts.others row hid).mp hrow)
  | delete calendarId eventId startRaw =>
      have hcase := deleteMeetingReminder_case calendarId eventId startRaw traced.server
      simp only [step, runEvent]
      generalize (deleteMeetingReminder calendarId eventId startRaw traced.server).1 = after,
        changes traced.server (.delete calendarId eventId startRaw) = logged at hcase
      cases hcase with
      | kept => exact h
      | removed reminder hmem => exact h.of_rows fun row hrow => (Table.mem_erase.mp hrow).1
  | fireReminder reminderId => exact h.of_onlyFires (onlyFires_fireReminder ..)
  | runReminderJob reminderId =>
      have htaken : Leads (takeUpReminderJob reminderId traced.server).1 := by
        refine h.of_rows fun row hrow => ?_
        rwa [takeUpReminderJob_database] at hrow
      simp only [step, runEvent, runReminderJob]
      split
      · exact htaken.of_onlyFires (onlyFires_fireReminder ..)
      · exact htaken
  | checkDueReminders =>
      have htick : Leads traced.server.tick := h
      simp only [step, runEvent, checkDueReminders_eq]
      exact htick.of_onlyFires (onlyFires_fireAll ..)
  | listMeetingReminders => exact h.of_rows fun row hrow => (UniqueTable.mem_filter.mp hrow).1
  | restart downtime advances =>
      refine h.of_rows fun row hrow => ?_
      change row ∈ (registerJobs _ traced.server.database).database.meetingReminders at hrow
      rwa [(onlySchedules_registerJobs _ _).database] at hrow

theorem leads_of_mem_firingsOf {reminderIds : List String} {firing : String × Server}
    (h : Leads server) (hmem : firing ∈ firingsOf reminderIds server) : Leads firing.2 := by
  induction reminderIds generalizing server with
  | nil => exact absurd hmem List.not_mem_nil
  | cons reminderId rest ih =>
      rcases List.mem_cons.mp hmem with rfl | hmem
      · exact h
      · exact ih (h.of_onlyFires (onlyFires_fireReminder reminderId server)) hmem

theorem leads_of_mem_firings {event : Event} {firing : String × Server} (h : Leads server)
    (hmem : firing ∈ firings server event) : Leads firing.2 := by
  cases event with
  | fireReminder reminderId => exact leads_of_mem_firingsOf h hmem
  | runReminderJob reminderId =>
      have htaken : Leads (takeUpReminderJob reminderId server).1 := by
        refine h.of_rows fun row hrow => ?_
        rwa [takeUpReminderJob_database] at hrow
      simp only [firings] at hmem
      split at hmem
      · exact leads_of_mem_firingsOf htaken hmem
      · exact absurd hmem List.not_mem_nil
  | checkDueReminders =>
      have htick : Leads server.tick := h
      exact leads_of_mem_firingsOf htick hmem
  | _ => exact absurd hmem List.not_mem_nil

/-- A firing says that the meeting of a row starts in its lead time. -/
def Announces (reminderId : String) (server : Server) (reminder : MeetingReminder) : Prop :=
  getReminder reminderId server.database = some reminder ∧
    (fireReminder reminderId server).activity =
      server.activity ++ (ReminderEvent.announced reminder server.clock.now).calls

theorem announces_iff :
    Announces reminderId server reminder ↔
      getReminder reminderId server.database = some reminder ∧ reminder.firedAt = none ∧
        reminder.remindAt ≤ server.clock.now := by
  rw [Announces, activity_fireReminder, List.append_cancel_left_eq]
  refine and_congr_right fun hfound => ?_
  simp only [announcement, hfound]
  split
  · rename_i hdue
    exact iff_of_true rfl hdue
  · rename_i hdue
    exact iff_of_false (List.cons_ne_nil _ _).symm hdue

variable (clock : Clock) (events : List Event)

/-- No firing of a run says of a meeting that it starts when it has begun. -/
def BeforeStart : Prop :=
  ∀ k event, events[k]? = some event →
    ∀ firing ∈ firings (stateAt step (start clock) events k).server event, ∀ reminder,
      Announces firing.1 firing.2 reminder → firing.2.clock.now < reminder.start

/-- Every firing of a run that finds an unfired row comes before the start. -/
def FiredInTime : Prop :=
  ∀ k event, events[k]? = some event →
    ∀ firing ∈ firings (stateAt step (start clock) events k).server event, ∀ reminder,
      getReminder firing.1 firing.2.database = some reminder → reminder.firedAt = none →
      firing.2.clock.now < reminder.start

theorem beforeStart_iff : BeforeStart clock events ↔ FiredInTime clock events := by
  constructor
  · intro h k event hevent firing hfiring reminder hfound hfired
    by_contra hbegun
    have hleads : Leads (stateAt step (start clock) events k).server :=
      invariant_of_kept (P := fun traced : Traced => Leads traced.server)
        (fun row hrow => absurd hrow (UniqueTable.not_mem_empty row)) leads_step k
    have hlead := leads_of_mem_firings hleads hfiring reminder
      (getReminder_eq_some_iff.mp hfound).1
    have hreached : reminder.remindAt ≤ firing.2.clock.now :=
      Int.le_of_lt (Int.lt_of_lt_of_le hlead (Int.not_lt.mp hbegun))
    exact hbegun (h k event hevent firing hfiring reminder
      (announces_iff.mpr ⟨hfound, hfired, hreached⟩))
  · intro h k event hevent firing hfiring reminder hannounces
    obtain ⟨hfound, hfired, -⟩ := announces_iff.mp hannounces
    exact h k event hevent firing hfiring reminder hfound hfired

/-- The server is down for two hours from half past eight, and the meeting is at
ten. -/
def downAtStart : List Event :=
  [.upsert "rem_1" (standup "2026-07-01T10:00:00Z"), .restart (7200 * 1000000) fun _ => 0,
   .checkDueReminders]

def storedStandup : MeetingReminder :=
  { standupRow (1782900000 * second) with
    createdAt := 1782894600 * second, updatedAt := 1782894600 * second }

theorem not_beforeStart_of_downtime :
    ¬ ∀ (clock : Clock) (events : List Event), BeforeStart clock events := by
  intro h
  obtain ⟨server, hserver⟩ : ∃ server,
      (stateAt step (start (.stopped (1782894600 * second))) downAtStart 2).server = server :=
    ⟨_, rfl⟩
  have hids : (listDueReminders server.clock.now server.database).map MeetingReminder.id =
      ["rem_1"] := by
    rw [← hserver]
    decide +kernel
  have hfound : getReminder "rem_1" server.database = some storedStandup := by
    rw [← hserver]
    decide +kernel
  have hnow : server.tick.clock.now = 1782901800 * second := by
    rw [← hserver]
    decide +kernel
  have hfiring : ("rem_1", server.tick) ∈ firings server .checkDueReminders := by
    rw [firings, hids]
    exact List.mem_cons_self
  have hannounces : Announces "rem_1" server.tick storedStandup := by
    refine announces_iff.mpr ⟨hfound, rfl, ?_⟩
    rw [hnow]
    decide +kernel
  have hlate := h (.stopped (1782894600 * second)) downAtStart 2 .checkDueReminders rfl
  rw [hserver] at hlate
  have hbefore : server.tick.clock.now < storedStandup.start :=
    hlate _ hfiring storedStandup hannounces
  rw [hnow] at hbefore
  exact absurd hbefore (by decide +kernel)

end NanoCore.MeetingReminders.LateAnnouncements
