import NanoCore.Assistant.Flows.Confirmation
import NanoCore.Assistant.ToolExecutor
import NanoCore.Timers.Parsing

namespace NanoCore.Assistant.Flows.Timer

open NanoCore.Foundation.PythonText
open NanoCore.Assistant.Flows.Confirmation
open NanoCore.Assistant.Pending
open NanoCore.Assistant.Rules.Messages
open NanoCore.Assistant.Sources
open NanoCore.Assistant.State
open NanoCore.Assistant.ToolExecutor
open NanoCore.Common.Duration
open NanoCore.Timers.Parsing

def timerDurationPrompt : Text := "How long should the timer run?".toList

def timerDurationRetryPrompt : Text :=
  ("I didn't catch a duration. " ++ "Try something like 10 minutes or 1 hour 30 minutes.").toList

def timerStartFailedPrompt : Text :=
  ("I couldn't start the timer. " ++
    "Try again with a duration like 10 minutes or 45 seconds.").toList

def timerCancelledPrompt : Text := "Timer cancelled.".toList

variable (u : PyData) (environment : Environment)

def requestTimerDuration (request : Request) (assistant : AssistantState) : Reply :=
  (ask .timerDuration request assistant, .ok (followUpSource request timerDurationPrompt))

def cancelPendingTimer (request : Request) (assistant : AssistantState) : Reply :=
  (assistant.clearPending request.conversationId,
    .ok (confirmationSource request timerCancelledPrompt))

def runTimerRequest (request : Request) (args : PyDict) (assistant : AssistantState) : Reply :=
  let (server, result) := execute u environment "start_timer" args assistant.server
  ((assistant.onServer server).clearPending request.conversationId,
    match result.outcome with
    | .error _ => .ok (confirmationSource request timerStartFailedPrompt)
    | .ok _ => do
        let facts ← timerConfirmation u args
        return confirmationSource request facts.toList)

def handleDirectRequest (request : Request) (assistant : AssistantState) : Reply :=
  match needsTimerDuration u request.message with
  | .error e => (assistant, .error e)
  | .ok true => requestTimerDuration request assistant
  | .ok false =>
      match extractDurationArgs u request.message with
      | .error e => (assistant, .error e)
      | .ok (some args) => runTimerRequest u environment request args assistant
      | .ok none => requestTimerDuration request assistant

def replyDurationArgs (message : Text) : Except PyError (Option PyDict) := do
  if let some args ← extractDurationArgs u message then return some args
  let seconds ← extractDurationSeconds u message (some .minutes)
  return seconds.map fun n => [("duration_seconds", .int n)]

def handlePending (pending : PendingInteraction) (request : Request)
    (assistant : AssistantState) : Option Reply :=
  if pending.kind ≠ .timerDuration then none
  else if isRejectionMessage u request.message then some (cancelPendingTimer request assistant)
  else
    match replyDurationArgs u request.message with
    | .error e => some (assistant, .error e)
    | .ok none => some (assistant, .ok (followUpSource request timerDurationRetryPrompt))
    | .ok (some args) =>
        some (runTimerRequest u environment request args
          (assistant.clearPending request.conversationId))

end NanoCore.Assistant.Flows.Timer
