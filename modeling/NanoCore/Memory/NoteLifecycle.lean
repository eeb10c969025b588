import NanoCore.Foundation.Runs
import NanoCore.Memory.InternalNoteService

namespace NanoCore.Memory.NoteLifecycle

open NanoCore.Config
open NanoCore.Foundation.KeyedTable
open NanoCore.Foundation.PythonDatetime
open NanoCore.Foundation.PythonText
open NanoCore.Foundation.Runs
open NanoCore.Memory.InternalNotes
open NanoCore.Memory.InternalNoteService
open NanoCore.Memory.Models
open NanoCore.Runtime.State
open NanoCore.Runtime.StatusCopy

variable {settings : InternalNoteSettings} {offer : ProactiveOffer} {reason : Text}
  {server : Server} {event : NoteEvent} {note note' : InternalNote} {id noteId : Int}

/-- The row is the only one that is written. -/
def Writes (before : Server) (row : InternalNote) (after : Server) : Prop :=
  ∀ id, getInternalNote id after.database =
    if id = row.id then some row else getInternalNote id before.database

theorem Writes.self {before after : Server} {row : InternalNote} (h : Writes before row after) :
    getInternalNote row.id after.database = some row :=
  (h row.id).trans (if_pos rfl)

theorem Writes.trans {before m after : Server} {row : InternalNote}
    (h : Writes before row m) (h' : Writes m note after) (hid : note.id = row.id) :
    Writes before note after := by
  intro id
  rw [h', h, hid]
  by_cases hsame : id = row.id
  · rw [if_pos hsame, if_pos hsame]
  · rw [if_neg hsame, if_neg hsame, if_neg hsame]

theorem writes_changeNote (f : InternalNote → InternalNote) (hf : ∀ note, (f note).id = note.id)
    (h : getInternalNote noteId server.database = some note) :
    Writes server (f note) (changeNote noteId f hf server) := by
  have hid : (f note).id = noteId := (hf note).trans (Table.key_of_find? h)
  intro id
  rw [hid]
  by_cases hsame : id = noteId
  · rw [if_pos hsame, hsame, getInternalNote_changeNote_self h]
  · rw [if_neg hsame, getInternalNote_changeNote_of_ne hsame]

theorem writes_addInternalNote (kind : String) (title content payloadJson : Text)
    (nextAttemptAt : Datetime) (server : Server) :
    Writes server (addInternalNote kind title content payloadJson nextAttemptAt server).2
      (addInternalNote kind title content payloadJson nextAttemptAt server).1 := by
  intro id
  show (Table.put server.database.internalNotes _).find? id = _
  by_cases hsame : id = (addInternalNote kind title content payloadJson nextAttemptAt server).2.id
  · rw [if_pos hsame, hsame]
    exact Table.find?_put_self _ _
  · rw [if_neg hsame]
    exact Table.find?_put_of_ne _ hsame

/-- The id of a new note is not in use. -/
theorem getInternalNote_addInternalNote (kind : String) (title content payloadJson : Text)
    (nextAttemptAt : Datetime) (server : Server) :
    getInternalNote
      (addInternalNote kind title content payloadJson nextAttemptAt server).2.id
      server.database = none := by
  rw [getInternalNote, Table.find?_eq_none_iff]
  intro row hrow
  have hlt := lt_nextRowid (List.mem_map_of_mem (f := InternalNote.id)
    (Table.mem_rows.mpr hrow))
  exact ne_of_lt hlt

theorem rescheduleExisting_of_error {e : PyError}
    (hmax : note.attemptCount + 1 < settings.maxAttempts)
    (h : (Datetime.utc server.clock.now).add (retryDelay settings note.attemptCount * second) =
      .error e) :
    rescheduleExisting settings note reason server = (server.tick, .error e) := by
  rw [rescheduleExisting, if_neg (not_le.mpr hmax)]
  simp only [h]

theorem rescheduleExisting_of_ok {nextAttemptAt : Datetime}
    (hmax : note.attemptCount + 1 < settings.maxAttempts)
    (h : (Datetime.utc server.clock.now).add (retryDelay settings note.attemptCount * second) =
      .ok nextAttemptAt) :
    rescheduleExisting settings note reason server =
      let server' := logFollowUp rescheduledFollowUpTitle note reason
        (markInternalNoteAttempted note.id none
          (rescheduleInternalNote note.id nextAttemptAt server.tick))
      (server', .ok ((getInternalNote note.id server'.database).getD note)) := by
  rw [rescheduleExisting, if_neg (not_le.mpr hmax)]
  simp only [h]

/-- The row of a note after a deferral that leaves it another attempt. -/
def deferredRow (settings : InternalNoteSettings) (deferredAt attemptedAt : Int)
    (note : InternalNote) : InternalNote :=
  setAttempted attemptedAt
    (setNextAttempt (deferredAt + retryDelay settings note.attemptCount * second) note)

/-- At the limit a deferral dismisses the note; before it, it raises and writes nothing, or
sets the next attempt and counts one more. -/
theorem rescheduleExisting_cases (settings : InternalNoteSettings) (reason : Text)
    (h : getInternalNote note.id server.database = some note) :
    (settings.maxAttempts ≤ note.attemptCount + 1 ∧
      (rescheduleExisting settings note reason server).2 = .ok note ∧
      Writes server (setDismissed note) (rescheduleExisting settings note reason server).1) ∨
    (note.attemptCount + 1 < settings.maxAttempts ∧
      (∃ e, (rescheduleExisting settings note reason server).2 = .error e) ∧
      (rescheduleExisting settings note reason server).1.database = server.database) ∨
    (note.attemptCount + 1 < settings.maxAttempts ∧ ∃ attemptedAt,
      (rescheduleExisting settings note reason server).2 =
        .ok (deferredRow settings server.clock.now attemptedAt note) ∧
      Writes server (deferredRow settings server.clock.now attemptedAt note)
        (rescheduleExisting settings note reason server).1) := by
  rcases le_or_gt settings.maxAttempts (note.attemptCount + 1) with hmax | hmax
  · left
    rw [rescheduleExisting, if_pos hmax]
    exact ⟨hmax, rfl, writes_changeNote setDismissed id_setDismissed h⟩
  · right
    cases hadd : (Datetime.utc server.clock.now).add
        (retryDelay settings note.attemptCount * second) with
    | error e =>
        left
        rw [rescheduleExisting_of_error hmax hadd]
        exact ⟨hmax, ⟨e, rfl⟩, rfl⟩
    | ok nextAttemptAt =>
        right
        rw [rescheduleExisting_of_ok hmax hadd]
        have hwall : nextAttemptAt.wall =
            server.clock.now + retryDelay settings note.attemptCount * second :=
          (Datetime.add_eq_ok hadd).1
        let middle := rescheduleInternalNote note.id nextAttemptAt server.tick
        have hnext : Writes server.tick (setNextAttempt nextAttemptAt.wall note) middle :=
          writes_changeNote _ (id_setNextAttempt nextAttemptAt.wall) h
        have hattempt : Writes middle.tick
            (setAttempted middle.clock.now (setNextAttempt nextAttemptAt.wall note))
            (changeNote note.id (setAttempted middle.clock.now) (id_setAttempted _) middle.tick) :=
          writes_changeNote _ (id_setAttempted middle.clock.now) hnext.self
        have hwrites := Writes.trans (m := middle) hnext hattempt rfl
        have hrow := congrArg (Option.getD · note) hwrites.self
        rw [hwall] at hwrites hrow
        exact ⟨hmax, middle.clock.now, congrArg Except.ok hrow, hwrites⟩

/-- A new note is written under an id that no row has, or nothing is. -/
theorem recordFromOffer_cases (settings : InternalNoteSettings) (offer : ProactiveOffer)
    (server : Server) :
    ((∃ e, (recordFromOffer settings offer none server).2 = .error e) ∧
      (recordFromOffer settings offer none server).1.database = server.database) ∨
    ∃ note, (recordFromOffer settings offer none server).2 = .ok note ∧
      getInternalNote note.id server.database = none ∧ note.status = "pending" ∧
      note.attemptCount = 0 ∧
      note.nextAttemptAt = server.clock.now + settings.retryIntervalSeconds * second ∧
      Writes server note (recordFromOffer settings offer none server).1 := by
  rw [recordFromOffer]
  cases hadd : (Datetime.utc server.clock.now).add (settings.retryIntervalSeconds * second) with
  | error e => exact .inl ⟨⟨e, rfl⟩, rfl⟩
  | ok scheduledAt =>
      right
      refine ⟨_, rfl, getInternalNote_addInternalNote _ _ _ _ scheduledAt server.tick,
        rfl, rfl, (Datetime.add_eq_ok hadd).1,
        writes_addInternalNote _ _ _ _ scheduledAt server.tick⟩

theorem recordDeferredOffer_of_some (settings : InternalNoteSettings) (offer : ProactiveOffer)
    (reason : Text) (h : getInternalNote noteId server.database = some note) :
    recordDeferredOffer settings offer reason (some noteId) server =
      rescheduleExisting settings note reason server := by
  simp only [recordDeferredOffer, Option.bind_some, h]

theorem recordDeferredOffer_of_none (settings : InternalNoteSettings) (offer : ProactiveOffer)
    (reason : Text) {noteId : Option Int}
    (h : (noteId.bind fun noteId => getInternalNote noteId server.database) = none) :
    recordDeferredOffer settings offer reason noteId server =
      recordFromOffer settings offer none server := by
  simp only [recordDeferredOffer, h]

/-- A deferral goes to a note that is there, or makes a new one. -/
theorem exists_or_none (noteId : Option Int) (server : Server) :
    (∃ note, noteId = some note.id ∧ getInternalNote note.id server.database = some note) ∨
      (noteId.bind fun noteId => getInternalNote noteId server.database) = none := by
  cases noteId with
  | none => exact .inr rfl
  | some noteId =>
      cases h : getInternalNote noteId server.database with
      | none => exact .inr h
      | some note =>
          obtain rfl : note.id = noteId := Table.key_of_find? h
          exact .inl ⟨note, rfl, h⟩

/-- How a call changes a row. -/
inductive NoteChange (event : NoteEvent) (note : InternalNote) : InternalNote → Prop
  | attempted (current : Int) (h : event = .markAttempted note.id) :
      NoteChange event note (setAttempted current note)
  | delivered (current : Int) (h : event = .markDelivered note.id) :
      NoteChange event note (setDelivered current note)
  | dismissed (h : event = .dismissInternalNote note.id) :
      NoteChange event note (setDismissed note)
  | exhausted {settings : InternalNoteSettings} {offer : ProactiveOffer} {reason : Text}
      (h : event = .recordDeferredOffer settings offer reason (some note.id))
      (hmax : settings.maxAttempts ≤ note.attemptCount + 1) :
      NoteChange event note (setDismissed note)
  | deferred {settings : InternalNoteSettings} {offer : ProactiveOffer} {reason : Text}
      (deferredAt attemptedAt : Int)
      (h : event = .recordDeferredOffer settings offer reason (some note.id))
      (hmax : note.attemptCount + 1 < settings.maxAttempts) :
      NoteChange event note (deferredRow settings deferredAt attemptedAt note)

theorem NoteChange.id_eq (h : NoteChange event note note') : note'.id = note.id := by
  cases h with
  | attempted | delivered | dismissed | exhausted | deferred => rfl

/-- A session changes the row that it finds, or nothing. -/
theorem changeNote_cases (noteId : Int) (f : InternalNote → InternalNote)
    (hf : ∀ note, (f note).id = note.id) (server : Server) :
    (changeNote noteId f hf server).database = server.database ∨
      ∃ note, note.id = noteId ∧ getInternalNote note.id server.database = some note ∧
        Writes server (f note) (changeNote noteId f hf server) := by
  cases h : getInternalNote noteId server.database with
  | none => exact .inl (congrArg Server.database (changeNote_of_none h))
  | some note =>
      obtain rfl : note.id = noteId := Table.key_of_find? h
      exact .inr ⟨note, rfl, h, writes_changeNote f hf h⟩

/-- A call changes one row, adds a pending one, or writes nothing. -/
theorem step_cases (server : Server) (event : NoteEvent) :
    (step server event).database = server.database ∨
    (∃ note note', getInternalNote note.id server.database = some note ∧
      NoteChange event note note' ∧ Writes server note' (step server event)) ∨
    ∃ note, getInternalNote note.id server.database = none ∧ note.status = "pending" ∧
      note.attemptCount = 0 ∧ Writes server note (step server event) := by
  cases event with
  | recordDeferredOffer settings offer reason noteId =>
      rw [step]
      rcases exists_or_none noteId server with ⟨note, rfl, h⟩ | h
      · rw [recordDeferredOffer_of_some settings offer reason h]
        rcases rescheduleExisting_cases settings reason h with
          ⟨hmax, -, hwrites⟩ | ⟨-, -, hsame⟩ | ⟨hmax, attemptedAt, -, hwrites⟩
        · exact .inr (.inl ⟨note, _, h, .exhausted rfl hmax, hwrites⟩)
        · exact .inl hsame
        · exact .inr (.inl ⟨note, _, h, .deferred _ attemptedAt rfl hmax, hwrites⟩)
      · rw [recordDeferredOffer_of_none settings offer reason h]
        rcases recordFromOffer_cases settings offer server with
          ⟨-, hsame⟩ | ⟨note, -, hnew, hstatus, hcount, -, hwrites⟩
        · exact .inl hsame
        · exact .inr (.inr ⟨note, hnew, hstatus, hcount, hwrites⟩)
  | markAttempted noteId =>
      rcases changeNote_cases noteId (setAttempted server.clock.now) (id_setAttempted _)
        server.tick with hsame | ⟨note, rfl, h, hwrites⟩
      · exact .inl hsame
      · exact .inr (.inl ⟨note, _, h, .attempted _ rfl, hwrites⟩)
  | markDelivered noteId =>
      rcases changeNote_cases noteId (setDelivered server.clock.now) (id_setDelivered _)
        server.tick with hsame | ⟨note, rfl, h, hwrites⟩
      · exact .inl hsame
      · exact .inr (.inl ⟨note, _, h, .delivered _ rfl, hwrites⟩)
  | dismissInternalNote noteId =>
      rcases changeNote_cases noteId setDismissed id_setDismissed server with
        hsame | ⟨note, rfl, h, hwrites⟩
      · exact .inl hsame
      · exact .inr (.inl ⟨note, _, h, .dismissed rfl, hwrites⟩)

/-- A note stays, as it is or changed by the call. -/
theorem exists_noteChange (event : NoteEvent)
    (h : getInternalNote id server.database = some note) :
    ∃ note', getInternalNote id (step server event).database = some note' ∧
      (note' = note ∨ NoteChange event note note') := by
  have hid : note.id = id := Table.key_of_find? h
  rcases step_cases server event with
    hsame | ⟨row, row', hrow, hchange, hwrites⟩ | ⟨row, hnew, -, -, hwrites⟩
  · refine ⟨note, ?_, .inl rfl⟩
    rwa [hsame]
  · rw [hwrites id, hchange.id_eq]
    by_cases hsame : id = row.id
    · rw [if_pos hsame]
      rw [← hsame, h] at hrow
      obtain rfl := Option.some.inj hrow
      exact ⟨row', rfl, .inr hchange⟩
    · rw [if_neg hsame]
      exact ⟨note, h, .inl rfl⟩
  · have hne : id ≠ row.id := by
      rintro rfl
      rw [h] at hnew
      cases hnew
    rw [hwrites id, if_neg hne]
    exact ⟨note, h, .inl rfl⟩

/-- A row after a call was there before, or is new. -/
theorem row_of_step (h : getInternalNote id (step server event).database = some note) :
    (∃ old, getInternalNote id server.database = some old ∧
      (note = old ∨ NoteChange event old note)) ∨
    getInternalNote id server.database = none ∧ note.status = "pending" ∧
      note.attemptCount = 0 := by
  cases hbefore : getInternalNote id server.database with
  | some old =>
      obtain ⟨note', hnote', hchange⟩ := exists_noteChange event hbefore
      obtain rfl := Option.some.inj (h.symm.trans hnote')
      exact .inl ⟨old, rfl, hchange⟩
  | none =>
      right
      rcases step_cases server event with
        hsame | ⟨row, row', hrow, hchange, hwrites⟩ | ⟨row, -, hstatus, hcount, hwrites⟩
      · rw [hsame, hbefore] at h
        cases h
      · rw [hwrites id, hchange.id_eq, hbefore] at h
        split_ifs at h with hid
        rw [← hid, hbefore] at hrow
        cases hrow
      · rw [hwrites id, hbefore] at h
        split_ifs at h
        cases h
        exact ⟨rfl, hstatus, hcount⟩

def Settled (note : InternalNote) : Prop :=
  note.status = "delivered" ∨ note.status = "dismissed"

/-- What a note keeps from one moment of a run to a later one. -/
structure Later (note note' : InternalNote) : Prop where
  attemptCount : note.attemptCount ≤ note'.attemptCount
  settled : Settled note → Settled note'

theorem Later.refl (note : InternalNote) : Later note note := ⟨le_refl _, id⟩

theorem Later.trans {note'' : InternalNote} (h : Later note note') (h' : Later note' note'') :
    Later note note'' :=
  ⟨h.attemptCount.trans h'.attemptCount, h'.settled ∘ h.settled⟩

theorem NoteChange.later (h : NoteChange event note note') : Later note note' := by
  have hcount : note.attemptCount ≤ note.attemptCount + 1 := by omega
  cases h with
  | attempted current _ => exact ⟨hcount, id⟩
  | delivered => exact ⟨le_refl _, fun _ => .inl rfl⟩
  | dismissed => exact ⟨le_refl _, fun _ => .inr rfl⟩
  | exhausted => exact ⟨le_refl _, fun _ => .inr rfl⟩
  | deferred => exact ⟨hcount, id⟩

theorem exists_later (events : List NoteEvent)
    (h : getInternalNote id server.database = some note) (k : Nat) :
    ∃ note', getInternalNote id (stateAt step server events k).database = some note' ∧
      Later note note' := by
  refine invariant_of_kept (P := fun s : Server =>
    ∃ note', getInternalNote id s.database = some note' ∧ Later note note') ?_ ?_ k
  · exact ⟨note, h, .refl note⟩
  · rintro s event ⟨note', hnote', hlater⟩
    obtain ⟨note'', hnote'', hchange⟩ := exists_noteChange event hnote'
    refine ⟨note'', hnote'', ?_⟩
    rcases hchange with rfl | hchange
    · exact hlater
    · exact hlater.trans hchange.later

/-- Once delivered or dismissed, a note is not due any more. -/
theorem not_mem_listDueInternalNotes (events : List NoteEvent)
    (h : getInternalNote id server.database = some note) (hsettled : Settled note)
    (k : Nat) (now : Int) (limit : Nat) (row : InternalNote) (hrow : row.id = id) :
    row ∉ listDueInternalNotes now limit (stateAt step server events k).database := by
  intro hmem
  obtain ⟨note', hnote', hlater⟩ := exists_later events h k
  have hdue := List.mem_of_mem_take hmem
  rw [List.mem_insertionSort, Table.mem_rows, Table.mem_filter, isDueNote, Bool.and_eq_true,
    beq_iff_eq] at hdue
  obtain ⟨htable, hpending, -⟩ := hdue
  have hfind : getInternalNote id (stateAt step server events k).database = some row :=
    Table.find?_eq_some_iff.mpr ⟨htable, hrow⟩
  obtain rfl := Option.some.inj (hfind.symm.trans hnote')
  rcases hlater.settled hsettled with hstatus | hstatus
  · rw [hpending] at hstatus
    exact absurd hstatus (by decide)
  · rw [hpending] at hstatus
    exact absurd hstatus (by decide)

/-- In a run from an empty database no count is negative. -/
theorem attemptCount_nonneg (clock : Clock) (events : List NoteEvent) (k : Nat) :
    ∀ id note,
      getInternalNote id (stateAt step (Server.initial clock) events k).database = some note →
      0 ≤ note.attemptCount := by
  refine invariant_of_kept (P := fun s : Server => ∀ id note,
    getInternalNote id s.database = some note → 0 ≤ note.attemptCount) ?_ ?_ k
  · intro id note h
    cases h
  · intro s event hkept id note h
    rcases row_of_step h with ⟨old, hold, hchange⟩ | ⟨-, -, hcount⟩
    · have hnonneg := hkept id old hold
      rcases hchange with rfl | hchange
      · exact hnonneg
      · exact hnonneg.trans hchange.later.attemptCount
    · omega

/-- Which calls take a note out of one settled status into the other. -/
structure SettledKept (before : Server) (event : NoteEvent) : Prop where
  dismissed : ∀ id note, getInternalNote id before.database = some note →
    note.status = "dismissed" →
    ∃ note', getInternalNote id (step before event).database = some note' ∧
      (note'.status = "dismissed" ∨
        note'.status = "delivered" ∧ event = .markDelivered id)
  delivered : ∀ id note, getInternalNote id before.database = some note →
    note.status = "delivered" →
    ∃ note', getInternalNote id (step before event).database = some note' ∧
      (note'.status = "delivered" ∨
        note'.status = "dismissed" ∧ (event = .dismissInternalNote id ∨
          ∃ settings offer reason, event = .recordDeferredOffer settings offer reason (some id) ∧
            settings.maxAttempts ≤ note.attemptCount + 1))

theorem settledKept (before : Server) (event : NoteEvent) : SettledKept before event := by
  constructor
  · intro id note h hstatus
    obtain ⟨note', hnote', hchange⟩ := exists_noteChange event h
    have hid : note.id = id := Table.key_of_find? h
    refine ⟨note', hnote', ?_⟩
    rcases hchange with rfl | hchange
    · exact .inl hstatus
    · cases hchange with
      | attempted | deferred => exact .inl hstatus
      | delivered current hevent => exact .inr ⟨rfl, by rw [hevent, hid]⟩
      | dismissed | exhausted => exact .inl rfl
  · intro id note h hstatus
    obtain ⟨note', hnote', hchange⟩ := exists_noteChange event h
    have hid : note.id = id := Table.key_of_find? h
    refine ⟨note', hnote', ?_⟩
    rcases hchange with rfl | hchange
    · exact .inl hstatus
    · cases hchange with
      | attempted | deferred => exact .inl hstatus
      | delivered => exact .inl rfl
      | dismissed hevent => exact .inr ⟨rfl, .inl (by rw [hevent, hid])⟩
      | exhausted hevent hmax => exact .inr ⟨rfl, .inr ⟨_, _, _, by rw [hevent, hid], hmax⟩⟩

/-- The attempts of a note so far; a note that is not there has none. -/
def attemptsOf (id : Int) (server : Server) : Int :=
  ((getInternalNote id server.database).map InternalNote.attemptCount).getD 0

/-- A note that is pending after its deferral has attempts left and waits for the next,
a new one where the interval is within its bound. -/
structure DeferralKept (settings : InternalNoteSettings) (offer : ProactiveOffer) (reason : Text)
    (noteId : Option Int) (before : Server) : Prop where
  existing : ∀ note returned, noteId = some note.id →
    getInternalNote note.id before.database = some note →
    (recordDeferredOffer settings offer reason noteId before).2 = .ok returned →
    returned.id = note.id
  pending : ∀ returned note,
    (recordDeferredOffer settings offer reason noteId before).2 = .ok returned →
    getInternalNote returned.id
      (recordDeferredOffer settings offer reason noteId before).1.database = some note →
    note.status = "pending" →
    note.attemptCount < settings.maxAttempts ∧
      ((getInternalNote returned.id before.database = none →
          settings.retryIntervalSeconds ≤ settings.retryMaxIntervalSeconds) →
        note.nextAttemptAt = before.clock.now +
          min (settings.retryIntervalSeconds * 2 ^ (attemptsOf returned.id before).toNat)
            settings.retryMaxIntervalSeconds * second)

theorem attemptsOf_of_some (h : getInternalNote id server.database = some note) :
    attemptsOf id server = note.attemptCount := by
  rw [attemptsOf, h]
  rfl

theorem attemptsOf_of_none (h : getInternalNote id server.database = none) :
    attemptsOf id server = 0 := by
  rw [attemptsOf, h]
  rfl

/-- A deferral that returns has dismissed the note, or left it another attempt. -/
theorem rescheduleExisting_of_result (h : getInternalNote note.id server.database = some note)
    (hresult : (rescheduleExisting settings note reason server).2 = .ok note') :
    (note' = note ∧
      Writes server (setDismissed note) (rescheduleExisting settings note reason server).1) ∨
    (note.attemptCount + 1 < settings.maxAttempts ∧ ∃ attemptedAt,
      note' = deferredRow settings server.clock.now attemptedAt note ∧
      Writes server note' (rescheduleExisting settings note reason server).1) := by
  rcases rescheduleExisting_cases settings reason h with
    ⟨-, hok, hwrites⟩ | ⟨-, ⟨e, herror⟩, -⟩ | ⟨hmax, attemptedAt, hok, hwrites⟩
  · left
    exact ⟨Except.ok.inj (hresult.symm.trans hok), hwrites⟩
  · rw [hresult] at herror
    cases herror
  · right
    obtain rfl := Except.ok.inj (hresult.symm.trans hok)
    exact ⟨hmax, attemptedAt, rfl, hwrites⟩

theorem deferralKept_of_some (settings : InternalNoteSettings) (offer : ProactiveOffer)
    (reason : Text) (h : getInternalNote note.id server.database = some note) :
    DeferralKept settings offer reason (some note.id) server := by
  constructor
  · intro old returned hid _ hreturned
    rw [recordDeferredOffer_of_some settings offer reason h] at hreturned
    rcases rescheduleExisting_of_result h hreturned with ⟨rfl, -⟩ | ⟨-, attemptedAt, rfl, -⟩
    · exact Option.some.inj hid
    · exact Option.some.inj hid
  · intro returned row hreturned hrow hpending
    rw [recordDeferredOffer_of_some settings offer reason h] at hreturned hrow
    rcases rescheduleExisting_of_result h hreturned with
      ⟨rfl, hwrites⟩ | ⟨hmax, attemptedAt, rfl, hwrites⟩
    · obtain rfl := Option.some.inj (hwrites.self.symm.trans hrow)
      have hstatus : (setDismissed returned).status ≠ "pending" := by
        show "dismissed" ≠ "pending"
        decide
      exact absurd hpending hstatus
    · obtain rfl := Option.some.inj (hwrites.self.symm.trans hrow)
      refine ⟨hmax, fun _ => ?_⟩
      have hattempts : attemptsOf (deferredRow settings server.clock.now attemptedAt note).id
          server = note.attemptCount := attemptsOf_of_some h
      rw [hattempts]
      rfl

theorem deferralKept_of_none (settings : InternalNoteSettings) (offer : ProactiveOffer)
    (reason : Text) {noteId : Option Int}
    (h : (noteId.bind fun noteId => getInternalNote noteId server.database) = none) :
    DeferralKept settings offer reason noteId server := by
  have hcases := recordFromOffer_cases settings offer server
  rw [← recordDeferredOffer_of_none settings offer reason h] at hcases
  constructor
  · rintro old returned rfl hold
    rw [Option.bind_some, hold] at h
    cases h
  · intro returned row hreturned hrow _
    rcases hcases with ⟨⟨e, hresult⟩, -⟩ | ⟨new, hresult, hnew, -, hcount, hnext, hwrites⟩
    · rw [hresult] at hreturned
      cases hreturned
    · obtain rfl := Except.ok.inj (hresult.symm.trans hreturned)
      obtain rfl := Option.some.inj (hwrites.self.symm.trans hrow)
      constructor
      · have hmax := settings.le_maxAttempts
        omega
      · intro hbound
        rw [attemptsOf_of_none hnew, hnext, Int.toNat_zero, pow_zero, mul_one,
          min_eq_left (hbound hnew)]

theorem deferralKept (settings : InternalNoteSettings) (offer : ProactiveOffer) (reason : Text)
    (noteId : Option Int) (before : Server) :
    DeferralKept settings offer reason noteId before := by
  rcases exists_or_none noteId before with ⟨note, rfl, h⟩ | h
  · exact deferralKept_of_some settings offer reason h
  · exact deferralKept_of_none settings offer reason h

/-- In every run a note that is delivered or dismissed never becomes pending again, no
count decreases, and each call keeps what it must of the settled notes and of the note
that it defers. -/
theorem noteLifecycle (server : Server) (events : List NoteEvent) :
    (∀ id note, getInternalNote id server.database = some note → ∀ k,
      ∃ note', getInternalNote id (stateAt step server events k).database = some note' ∧
        Later note note') ∧
    (∀ k event, events[k]? = some event → SettledKept (stateAt step server events k) event) ∧
    ∀ k settings offer reason noteId,
      events[k]? = some (.recordDeferredOffer settings offer reason noteId) →
      DeferralKept settings offer reason noteId (stateAt step server events k) := by
  refine ⟨fun id note h k => exists_later events h k, fun k event _ => settledKept _ event, ?_⟩
  intro k settings offer reason noteId _
  exact deferralKept settings offer reason noteId _

def sampleOffer : ProactiveOffer :=
  ⟨"suggestion", "Timers".toList, "Clearer errors.".toList, [], "2026-01-01T00:00:00+00:00".toList⟩

/-- A note is recorded, dismissed and marked as delivered. -/
def dismissedThenDelivered : List NoteEvent :=
  [.recordDeferredOffer {} sampleOffer [] none, .dismissInternalNote 1, .markDelivered 1]

theorem noteLifecycle_dismissedThenDelivered :
    SettledKept (stateAt step (Server.initial (.stopped 0)) dismissedThenDelivered 2)
      (.markDelivered 1) :=
  (noteLifecycle (Server.initial (.stopped 0)) dismissedThenDelivered).2.1 2 _ rfl

/-- A dismissed note is not kept from becoming delivered. -/
theorem not_settled_absorbing :
    ¬ ∀ (server : Server) (events : List NoteEvent) (id : Int) (j k : Nat)
      (note note' : InternalNote), j ≤ k →
      getInternalNote id (stateAt step server events j).database = some note →
      getInternalNote id (stateAt step server events k).database = some note' →
      (note.status = "delivered" ∨ note.status = "dismissed") → note'.status = note.status := by
  intro h
  have hstatus := h (Server.initial (.stopped 0)) dismissedThenDelivered 1 2 3 _ _ (by decide)
    rfl rfl (.inr rfl)
  revert hstatus
  decide

end NanoCore.Memory.NoteLifecycle
