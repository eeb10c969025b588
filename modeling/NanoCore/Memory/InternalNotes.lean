import NanoCore.Runtime.State
import Mathlib.Data.List.Sort

namespace NanoCore.Memory.InternalNotes

open NanoCore.Foundation.KeyedTable
open NanoCore.Foundation.PythonDatetime
open NanoCore.Foundation.PythonText
open NanoCore.Memory.Models
open NanoCore.Runtime.State

def addInternalNote (kind : String) (title content payloadJson : Text)
    (nextAttemptAt : Datetime) (server : Server) : Server × InternalNote :=
  let notes := server.database.internalNotes
  let note : InternalNote :=
    { id := nextRowid (notes.rows.map InternalNote.id), kind, title, content, payloadJson
      status := "pending", nextAttemptAt := nextAttemptAt.wall, createdAt := server.clock.now }
  (server.tick.onNotes (notes.put note), note)

def getInternalNote (noteId : Int) (db : Database) : Option InternalNote :=
  db.internalNotes.find? noteId

/-- `status = 'pending' AND next_attempt_at <= now`. -/
def isDueNote (now : Int) (note : InternalNote) : Bool :=
  note.status == "pending" && decide (note.nextAttemptAt ≤ now)

/-- `ORDER BY next_attempt_at, created_at`. -/
def dueBefore (a b : InternalNote) : Bool :=
  a.nextAttemptAt < b.nextAttemptAt ||
    (a.nextAttemptAt = b.nextAttemptAt && a.createdAt ≤ b.createdAt)

theorem dueBefore_iff {a b : InternalNote} :
    dueBefore a b = true ↔ a.nextAttemptAt < b.nextAttemptAt ∨
      (a.nextAttemptAt = b.nextAttemptAt ∧ a.createdAt ≤ b.createdAt) := by
  simp only [dueBefore, Bool.or_eq_true, Bool.and_eq_true, decide_eq_true_eq]

instance : Std.Total fun a b => dueBefore a b = true where
  total a b := by
    rw [dueBefore_iff, dueBefore_iff]
    omega

instance : IsTrans InternalNote fun a b => dueBefore a b = true where
  trans a b c := by
    rw [dueBefore_iff, dueBefore_iff, dueBefore_iff]
    omega

def listDueInternalNotes (now : Int) (limit : Nat) (db : Database) : List InternalNote :=
  ((db.internalNotes.filter (isDueNote now)).rows.insertionSort
    fun a b => dueBefore a b = true).take limit

/-- The row that a session gets by its id, changed and committed; nothing happens when
there is no such row. -/
def changeNote (noteId : Int) (f : InternalNote → InternalNote) (hf : ∀ note, (f note).id = note.id)
    (server : Server) : Server :=
  match getInternalNote noteId server.database with
  | none => server
  | some _ => server.onNotes (server.database.internalNotes.modify noteId f hf)

def setAttempted (current : Int) (note : InternalNote) : InternalNote :=
  { note with attemptCount := note.attemptCount + 1, lastAttemptAt := some current }

def setNextAttempt (nextAttemptAt : Int) (note : InternalNote) : InternalNote :=
  { note with nextAttemptAt }

def setDelivered (current : Int) (note : InternalNote) : InternalNote :=
  { note with status := "delivered", deliveredAt := some current }

def setDismissed (note : InternalNote) : InternalNote := { note with status := "dismissed" }

@[simp] theorem id_setAttempted (current : Int) (note : InternalNote) :
    (setAttempted current note).id = note.id := rfl

@[simp] theorem id_setNextAttempt (nextAttemptAt : Int) (note : InternalNote) :
    (setNextAttempt nextAttemptAt note).id = note.id := rfl

@[simp] theorem id_setDelivered (current : Int) (note : InternalNote) :
    (setDelivered current note).id = note.id := rfl

@[simp] theorem id_setDismissed (note : InternalNote) : (setDismissed note).id = note.id := rfl

/-- `value or datetime.now(UTC)`. -/
def givenOrNow (value : Option Datetime) (server : Server) : Server × Int :=
  match value with
  | some value => (server, value.wall)
  | none => (server.tick, server.clock.now)

def markInternalNoteAttempted (noteId : Int) (attemptedAt : Option Datetime) (server : Server) :
    Server :=
  let (server, current) := givenOrNow attemptedAt server
  changeNote noteId (setAttempted current) (id_setAttempted current) server

def rescheduleInternalNote (noteId : Int) (nextAttemptAt : Datetime) (server : Server) : Server :=
  changeNote noteId (setNextAttempt nextAttemptAt.wall) (id_setNextAttempt nextAttemptAt.wall)
    server

def markInternalNoteDelivered (noteId : Int) (deliveredAt : Option Datetime) (server : Server) :
    Server :=
  let (server, current) := givenOrNow deliveredAt server
  changeNote noteId (setDelivered current) (id_setDelivered current) server

def dismissInternalNote (noteId : Int) (server : Server) : Server × Bool :=
  (changeNote noteId setDismissed id_setDismissed server,
    (getInternalNote noteId server.database).isSome)

variable {server : Server} {noteId id : Int} {f : InternalNote → InternalNote}
  {hf : ∀ note, (f note).id = note.id} {note : InternalNote}

theorem getInternalNote_changeNote_self (h : getInternalNote noteId server.database = some note) :
    getInternalNote noteId (changeNote noteId f hf server).database = some (f note) := by
  have hid : note.id = noteId := Table.key_of_find? h
  rw [changeNote, h]
  show (server.database.internalNotes.modify noteId f hf).find? noteId = _
  rw [Table.find?_modify]
  show (getInternalNote noteId server.database).map _ = _
  rw [h, Option.map_some, if_pos hid]

theorem getInternalNote_changeNote_of_ne (hne : id ≠ noteId) :
    getInternalNote id (changeNote noteId f hf server).database =
      getInternalNote id server.database := by
  rw [changeNote]
  split
  · rfl
  · show (server.database.internalNotes.modify noteId f hf).find? id = _
    rw [Table.find?_modify]
    show (getInternalNote id server.database).map _ = _
    cases hget : getInternalNote id server.database with
    | none => rfl
    | some note =>
        have hid : note.id = id := Table.key_of_find? hget
        rw [Option.map_some, if_neg (by rw [hid]; exact hne)]

@[simp] theorem clock_changeNote : (changeNote noteId f hf server).clock = server.clock := by
  rw [changeNote]
  split
  · rfl
  · rfl

theorem changeNote_of_none (h : getInternalNote noteId server.database = none) :
    changeNote noteId f hf server = server := by
  rw [changeNote, h]

end NanoCore.Memory.InternalNotes
