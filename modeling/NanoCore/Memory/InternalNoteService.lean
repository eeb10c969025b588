import NanoCore.Config
import NanoCore.Foundation.JsonText
import NanoCore.Memory.InternalNotes
import NanoCore.Runtime.StatusCopy

namespace NanoCore.Memory.InternalNoteService

open NanoCore.Config
open NanoCore.Foundation.JsonText
open NanoCore.Foundation.PythonDatetime
open NanoCore.Foundation.PythonText
open NanoCore.Memory.InternalNotes
open NanoCore.Memory.Models
open NanoCore.Runtime.State
open NanoCore.Runtime.StatusCopy

structure ProactiveOffer where
  kind : String
  title : Text
  summary : Text
  payload : JsonObject
  /-- `created_at.isoformat()`. -/
  createdAt : Text

def ProactiveOffer.toJson (offer : ProactiveOffer) : Text :=
  write (.obj
    [("kind".toList, .str offer.kind.toList), ("title".toList, .str offer.title),
     ("summary".toList, .str offer.summary), ("payload".toList, .obj offer.payload),
     ("created_at".toList, .str offer.createdAt)])

variable (settings : InternalNoteSettings)

def recordFromOffer (offer : ProactiveOffer) (nextAttemptAt : Option Datetime)
    (server : Server) : Server × Except PyError InternalNote :=
  let scheduled : Server × Except PyError Datetime :=
    match nextAttemptAt with
    | some value => (server, .ok value)
    | none =>
        (server.tick,
          (Datetime.utc server.clock.now).add (settings.retryIntervalSeconds * second))
  match scheduled with
  | (server, .error e) => (server, .error e)
  | (server, .ok scheduledAt) =>
      let (server, note) :=
        addInternalNote offer.kind offer.title offer.summary offer.toJson scheduledAt server
      (server.addActivity (.log notedForLaterTitle offer.title "memory.internal_notes".toList),
        .ok note)

/-- The wait before the next attempt, after `attemptCount` attempts. -/
def retryDelay (attemptCount : Int) : Int :=
  min (settings.retryIntervalSeconds * 2 ^ attemptCount.toNat) settings.retryMaxIntervalSeconds

def logFollowUp (title : Text) (note : InternalNote) (reason : Text) (server : Server) : Server :=
  server.addActivity
    (.log title (note.title ++ " (".toList ++ reason ++ ")".toList) "memory.internal_notes".toList)

def rescheduleExisting (note : InternalNote) (reason : Text) (server : Server) :
    Server × Except PyError InternalNote :=
  let nextCount := note.attemptCount + 1
  if settings.maxAttempts ≤ nextCount then
    let server := (dismissInternalNote note.id server).1
    (logFollowUp dismissedFollowUpTitle note reason server, .ok note)
  else
    let delay := retryDelay settings note.attemptCount
    match (Datetime.utc server.clock.now).add (delay * second) with
    | .error e => (server.tick, .error e)
    | .ok nextAttemptAt =>
        let server := rescheduleInternalNote note.id nextAttemptAt server.tick
        let server := markInternalNoteAttempted note.id none server
        let server := logFollowUp rescheduledFollowUpTitle note reason server
        (server, .ok ((getInternalNote note.id server.database).getD note))

def recordDeferredOffer (offer : ProactiveOffer) (reason : Text) (noteId : Option Int)
    (server : Server) : Server × Except PyError InternalNote :=
  match noteId.bind fun noteId => getInternalNote noteId server.database with
  | some existing => rescheduleExisting settings existing reason server
  | none => recordFromOffer settings offer none server

/-- A call of the service, with the settings at that moment. -/
inductive NoteEvent where
  | recordDeferredOffer (settings : InternalNoteSettings) (offer : ProactiveOffer)
      (reason : Text) (noteId : Option Int)
  | markAttempted (noteId : Int)
  | markDelivered (noteId : Int)
  | dismissInternalNote (noteId : Int)

def step (server : Server) : NoteEvent → Server
  | .recordDeferredOffer settings offer reason noteId =>
      (recordDeferredOffer settings offer reason noteId server).1
  | .markAttempted noteId => markInternalNoteAttempted noteId none server
  | .markDelivered noteId => markInternalNoteDelivered noteId none server
  | .dismissInternalNote noteId => (dismissInternalNote noteId server).1

end NanoCore.Memory.InternalNoteService
