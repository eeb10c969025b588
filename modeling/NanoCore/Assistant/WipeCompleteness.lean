import NanoCore.Assistant.Confirmations

namespace NanoCore.Assistant.WipeCompleteness

open NanoCore.Foundation.KeyedTable
open NanoCore.Foundation.PythonText
open NanoCore.Assistant.Confirmations
open NanoCore.Assistant.Flows.Confirmation
open NanoCore.Assistant.Orchestrator
open NanoCore.Assistant.Pending
open NanoCore.Assistant.Rules.Messages
open NanoCore.Assistant.Sources
open NanoCore.Assistant.State
open NanoCore.Memory.Models
open NanoCore.Memory.Repository
open NanoCore.Runtime.State

def Refers (db : Database) : JobId → Prop
  | .timer timerId => ∃ timer ∈ db.timers, timer.id = timerId
  | .meetingReminder reminderId => ∃ reminder ∈ db.meetingReminders, reminder.id = reminderId

/-- No row of any table is left of the rows before, and no job without its row. -/
structure Complete (before after : Server) : Prop where
  chatMessages : ∀ row ∈ before.database.chatMessages, row ∉ after.database.chatMessages
  timers : ∀ row ∈ before.database.timers, row ∉ after.database.timers
  internalNotes : ∀ row ∈ before.database.internalNotes, row ∉ after.database.internalNotes
  meetingReminders :
    ∀ row ∈ before.database.meetingReminders, row ∉ after.database.meetingReminders
  jobs : ∀ job ∈ after.jobs, Refers after.database job.id

section WipeDatabase

variable (server : Server)

@[simp] theorem wipeDatabase_chatMessages :
    (wipeDatabase server).database.chatMessages = .empty :=
  Table.eraseAll_keys server.database.chatMessages

@[simp] theorem wipeDatabase_timers : (wipeDatabase server).database.timers = .empty :=
  Table.eraseAll_keys server.database.timers

@[simp] theorem wipeDatabase_internalNotes :
    (wipeDatabase server).database.internalNotes = .empty :=
  Table.eraseAll_keys server.database.internalNotes

@[simp] theorem wipeDatabase_meetingReminders :
    (wipeDatabase server).database.meetingReminders = server.database.meetingReminders := rfl

@[simp] theorem wipeDatabase_jobs : (wipeDatabase server).jobs = server.jobs := rfl

variable {server}

theorem refers_wipeDatabase {id : JobId} :
    Refers (wipeDatabase server).database id ↔
      ∃ reminder ∈ server.database.meetingReminders, .meetingReminder reminder.id = id := by
  cases id with
  | timer timerId =>
      rw [Refers, wipeDatabase_timers]
      constructor
      · rintro ⟨timer, htimer, -⟩
        exact absurd htimer (Table.not_mem_empty timer)
      · rintro ⟨reminder, -, hid⟩
        cases hid
  | meetingReminder reminderId =>
      rw [Refers, wipeDatabase_meetingReminders]
      simp only [JobId.meetingReminder.injEq]

theorem complete_wipeDatabase_iff :
    Complete server (wipeDatabase server) ↔
      (∀ reminder, reminder ∉ server.database.meetingReminders) ∧ ∀ job, job ∉ server.jobs := by
  constructor
  · intro h
    have hreminders : ∀ reminder, reminder ∉ server.database.meetingReminders :=
      fun reminder hmem => h.meetingReminders reminder hmem hmem
    refine ⟨hreminders, fun job hjob => ?_⟩
    obtain ⟨reminder, hmem, -⟩ := refers_wipeDatabase.mp (h.jobs job hjob)
    exact hreminders reminder hmem
  · rintro ⟨hreminders, hjobs⟩
    constructor
    · intro row _
      rw [wipeDatabase_chatMessages]
      exact Table.not_mem_empty row
    · intro row _
      rw [wipeDatabase_timers]
      exact Table.not_mem_empty row
    · intro row _
      rw [wipeDatabase_internalNotes]
      exact Table.not_mem_empty row
    · exact fun row hrow => absurd hrow (hreminders row)
    · exact fun job hjob => absurd hjob (hjobs job)

end WipeDatabase

variable {u : PyData} {environment : Environment} {request : Request} {assistant : AssistantState}

theorem server_reply_confirmed :
    (reply environment (Wipe.confirmed request assistant)).1.server =
      wipeDatabase assistant.server := by
  simp only [Wipe.confirmed, reply, finalizeResponse]
  cases environment.compose (answerSource request "Database wiped.".toList false) with
  | error e => rfl
  | ok content => rfl

theorem server_respond_of_confirmedWipe {pending : PendingInteraction}
    (h : isConfirmationMessage u request.message = true)
    (hasked : assistant.pendingOf request.conversationId = some pending)
    (hkind : pending.kind = .wipeConfirmation) :
    (respond u environment request assistant).1.server =
      wipeDatabase (storeUserMessage request assistant).server := by
  rw [respond_of_isConfirmationMessage h hasked (handlePending_of_wipeConfirmation h hkind),
    server_reply_confirmed]

theorem complete_iff {pending : PendingInteraction}
    (h : isConfirmationMessage u request.message = true)
    (hasked : assistant.pendingOf request.conversationId = some pending)
    (hkind : pending.kind = .wipeConfirmation) :
    Complete (storeUserMessage request assistant).server
        (respond u environment request assistant).1.server ↔
      (∀ reminder, reminder ∉ assistant.server.database.meetingReminders) ∧
        ∀ job, job ∉ assistant.server.jobs := by
  rw [server_respond_of_confirmedWipe h hasked hkind]
  exact complete_wipeDatabase_iff

def wipeAsked (server : Server) : AssistantState :=
  (respond .ascii (.offline {}) ⟨"default", "wipe your memory".toList⟩ (.initial server)).1

def yes : Request := ⟨"default", "yes".toList⟩

def stopwatch : Timer where
  id := 1
  kind := .stopwatch
  label := "Tea".toList
  createdAt := 0

def shoppingNote : InternalNote where
  id := 1
  kind := "note"
  title := "Shopping".toList
  content := "Milk.".toList
  payloadJson := "\x7b\x7d".toList
  nextAttemptAt := 0
  createdAt := 0

/-- A server with a running stopwatch and a note. -/
def withStopwatchAndNote : Server :=
  { Server.initial (.stopped 0) with
    database :=
      { Database.empty with
        timers := Table.empty.put stopwatch
        internalNotes := Table.empty.put shoppingNote } }

theorem complete_of_stopwatch_and_note :
    Complete (storeUserMessage yes (wipeAsked withStopwatchAndNote)).server
      (respond .ascii (.offline {}) yes (wipeAsked withStopwatchAndNote)).1.server := by
  have hasked : (wipeAsked withStopwatchAndNote).pendingOf yes.conversationId =
      some ⟨"default", .wipeConfirmation, [("request", .text "wipe your memory".toList)]⟩ := by
    decide +kernel
  have hreminders : (wipeAsked withStopwatchAndNote).server.database.meetingReminders = .empty := by
    decide +kernel
  have hjobs : (wipeAsked withStopwatchAndNote).server.jobs = .empty := by decide +kernel
  apply (complete_iff (by decide +kernel) hasked rfl).mpr
  rw [hreminders, hjobs]
  exact ⟨fun reminder => UniqueTable.not_mem_empty reminder, fun job => Table.not_mem_empty job⟩

def reminder : MeetingReminder where
  id := "reminder"
  calendarId := "work".toList
  eventId := "standup".toList
  start := 3600
  stop := 7200
  summary := "Standup".toList
  leadMinutes := 10
  remindAt := 3000
  createdAt := 0
  updatedAt := 0

/-- A server with one stored reminder, without its job. -/
def withReminder : Server :=
  { Server.initial (.stopped 0) with
    database :=
      { Database.empty with
        meetingReminders := ⟨Table.empty.put reminder, List.nodup_singleton _⟩ } }

theorem not_complete_of_reminder :
    ¬ ∀ (assistant : AssistantState) (request : Request) (pending : PendingInteraction),
      isConfirmationMessage .ascii request.message = true →
      assistant.pendingOf request.conversationId = some pending →
      pending.kind = .wipeConfirmation →
      Complete (storeUserMessage request assistant).server
        (respond .ascii (.offline {}) request assistant).1.server := by
  intro h
  have hcomplete := h (wipeAsked withReminder) yes
    ⟨"default", .wipeConfirmation, [("request", .text "wipe your memory".toList)]⟩
    (by decide +kernel) (by decide +kernel) rfl
  exact hcomplete.meetingReminders reminder (by decide +kernel) (by decide +kernel)

end NanoCore.Assistant.WipeCompleteness
