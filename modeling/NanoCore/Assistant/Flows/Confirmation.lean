import NanoCore.Assistant.Rules.Messages
import NanoCore.Assistant.State
import NanoCore.Memory.Repository

namespace NanoCore.Assistant.Flows.Confirmation

open NanoCore.Foundation.PythonText
open NanoCore.Assistant.Pending
open NanoCore.Assistant.Rules.Messages
open NanoCore.Assistant.Sources
open NanoCore.Assistant.State
open NanoCore.Config
open NanoCore.Memory.Repository

abbrev Reply := AssistantState × Except PyError ResponseSource

variable (u : PyData)

def ask (kind : PendingKind) (request : Request) (assistant : AssistantState) : AssistantState :=
  assistant.setPending ⟨request.conversationId, kind, [("request", .text request.message)]⟩

/-- `f'User requested: "{text}"'`. -/
def requestedFacts (text : Text) : Text := "User requested: \"".toList ++ text ++ ['"']

/-- `handle_pending` of a flow that waits for a yes or a no.  The flow gives what
follows a rejection and what follows a confirmation. -/
def handleConfirmation (kind : PendingKind) (reminder : String)
    (rejected confirmed : AssistantState → Reply) (pending : PendingInteraction)
    (request : Request) (assistant : AssistantState) : Option Reply :=
  if pending.kind ≠ kind then none
  else if isRejectionMessage u request.message then some (rejected assistant)
  else if !isConfirmationMessage u request.message then
    some (assistant, .ok (followUpSource request reminder.toList))
  else some (confirmed assistant)

def cancelled (request : Request) (facts : String) (assistant : AssistantState) : Reply :=
  (assistant.clearPending request.conversationId, .ok (answerSource request facts.toList))

namespace Wipe

def start (request : Request) (assistant : AssistantState) : Reply :=
  (ask .wipeConfirmation request assistant,
    .ok (confirmationSource request (requestedFacts (normalizeWipeRequest request.message))
      (some .wipe)))

def confirmed (request : Request) (assistant : AssistantState) : Reply :=
  let wiped := (assistant.onServer (wipeDatabase assistant.server)).perform .wipeDatabase
  (wiped.resetPending, .ok (answerSource request "Database wiped.".toList false))

def handlePending : PendingInteraction → Request → AssistantState → Option Reply :=
  fun pending request =>
    handleConfirmation u .wipeConfirmation
      "Reply yes to confirm the database wipe, or no to cancel."
      (cancelled request "Database wipe cancelled.") (confirmed request) pending request

end Wipe

def startIfEnabled (enabled : Bool) (disabledFacts : String) (kind : PendingKind)
    (action : ConfirmationAction) (request : Request) (assistant : AssistantState) : Reply :=
  if !enabled then (assistant, .ok (answerSource request disabledFacts.toList))
  else
    (ask kind request assistant,
      .ok (confirmationSource request (requestedFacts (strip request.message)) (some action)))

/-- The confirmation of these flows: the action is called and says whether it is
enabled. -/
def schedule (action : Action) (enabled : Bool) (disabledFacts facts : String)
    (request : Request) (assistant : AssistantState) : Reply :=
  let scheduled := (assistant.clearPending request.conversationId).perform action
  (scheduled,
    .ok (if !enabled then answerSource request disabledFacts.toList
      else answerSource request facts.toList false))

namespace Reboot

def start (settings : Settings) : Request → AssistantState → Reply :=
  startIfEnabled settings.rebootEnabled
    "Reboot is disabled on this server. Set REBOOT_ENABLED=true to allow it."
    .rebootConfirmation .reboot

def confirmed (settings : Settings) : Request → AssistantState → Reply :=
  schedule .scheduleReboot settings.rebootEnabled "Reboot is disabled on this server."
    "Rebooting the Raspberry Pi now."

def handlePending (settings : Settings) :
    PendingInteraction → Request → AssistantState → Option Reply :=
  fun pending request =>
    handleConfirmation u .rebootConfirmation
      "Reply yes to reboot the Raspberry Pi, or no to cancel."
      (cancelled request "Reboot cancelled.") (confirmed settings request) pending request

end Reboot

namespace ServiceRestart

def start (settings : Settings) : Request → AssistantState → Reply :=
  startIfEnabled settings.serviceRestartEnabled
    ("Service restart is disabled on this server. " ++
      "Set SERVICE_RESTART_ENABLED=true to allow it.")
    .serviceRestartConfirmation .serviceRestart

def confirmed (settings : Settings) : Request → AssistantState → Reply :=
  schedule .scheduleServiceRestart settings.serviceRestartEnabled
    "Service restart is disabled on this server." "Restarting my service now."

def handlePending (settings : Settings) :
    PendingInteraction → Request → AssistantState → Option Reply :=
  fun pending request =>
    handleConfirmation u .serviceRestartConfirmation
      "Reply yes to restart my service, or no to cancel."
      (cancelled request "Service restart cancelled.") (confirmed settings request) pending request

end ServiceRestart

end NanoCore.Assistant.Flows.Confirmation
