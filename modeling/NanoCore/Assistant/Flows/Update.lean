import NanoCore.Assistant.Flows.Confirmation

namespace NanoCore.Assistant.Flows.Update

open NanoCore.Foundation.PythonText
open NanoCore.Assistant.Flows.Confirmation
open NanoCore.Assistant.Pending
open NanoCore.Assistant.Rules.Messages
open NanoCore.Assistant.Sources
open NanoCore.Assistant.State
open NanoCore.Config
open NanoCore.Deploy.Update
open NanoCore.Memory.Repository

def defaultUpdateConversationId : String := "default"

def updateUpToDateMessage : Text := "I am already on the latest version.".toList

def updateVoicePrompt : Text :=
  "A new version is available. Reply yes to update and restart, or no to dismiss.".toList

def formatUpdateConfirmationPrompt (commitsBehind : Int) : Text :=
  ("A new version is available on GitHub (" ++ toString commitsBehind ++ " " ++
    (if commitsBehind = 1 then "commit" else "commits") ++ " behind). " ++
    "Reply yes to update and restart, or no to dismiss.").toList

def updateInteraction (result : UpdateCheckResult) (conversationId : String) :
    PendingInteraction where
  conversationId := conversationId
  kind := .updateConfirmation
  payload :=
    [("commits_behind", .int result.commitsBehind), ("remote_sha", .text result.remoteSha),
      ("branch", .text result.branch)]

def offerUpdate (result : UpdateCheckResult) (conversationId : String)
    (assistant : AssistantState) : AssistantState :=
  if !result.behind || result.remoteSha = [] then assistant
  else if (assistant.pendingOf conversationId).isSome then assistant
  else
    let offered := (assistant.onUpdates
      (assistant.updates.markPromptOffered result.remoteSha)).setPending
        (updateInteraction result conversationId)
    offered.onServer
      ((addChatMessage conversationId "assistant"
        (formatUpdateConfirmationPrompt result.commitsBehind) offered.server).addActivity
          (.announceVoice updateVoicePrompt))

/-- The source of a request when the remote branch is ahead: the prompt is asked
only for a version not offered, dismissed or known before. -/
def startBehind (result : UpdateCheckResult) (request : Request) (assistant : AssistantState) :
    Reply :=
  let prompt := formatUpdateConfirmationPrompt result.commitsBehind
  if !assistant.updates.shouldPrompt result.remoteSha then
    (assistant, .ok (answerSource request prompt))
  else
    (offerUpdate result request.conversationId assistant, .ok (confirmationSource request prompt))

variable (u : PyData) (settings : Settings) (git : Git)

def start (request : Request) (assistant : AssistantState) : Reply :=
  let result := checkForUpdates u settings git
  let assistant := assistant.onUpdates (assistant.updates.recordCheck result)
  if !result.behind then (assistant, .ok (answerSource request updateUpToDateMessage))
  else startBehind result request assistant

section Start

variable {u settings git} {request : Request} {assistant : AssistantState}

theorem start_of_not_behind (h : (checkForUpdates u settings git).behind = false) :
    start u settings git request assistant =
      (assistant.onUpdates (assistant.updates.recordCheck (checkForUpdates u settings git)),
        .ok (answerSource request updateUpToDateMessage)) := by
  simp only [start, h, Bool.not_false, if_true]

/-- A version that is not to be prompted for: the prompt comes as a plain answer. -/
theorem start_of_known (h : (checkForUpdates u settings git).behind = true)
    (hknown : assistant.updates.shouldPrompt (checkForUpdates u settings git).remoteSha = false) :
    start u settings git request assistant =
      (assistant.onUpdates (assistant.updates.recordCheck (checkForUpdates u settings git)),
        .ok (answerSource request
          (formatUpdateConfirmationPrompt (checkForUpdates u settings git).commitsBehind))) := by
  have hrecorded : (assistant.updates.recordCheck (checkForUpdates u settings git)).shouldPrompt
      (checkForUpdates u settings git).remoteSha = false := hknown
  simp only [start, startBehind, h, AssistantState.onUpdates_updates, hrecorded, Bool.not_true,
    Bool.not_false, Bool.false_eq_true, if_true, if_false]

theorem start_of_new (h : (checkForUpdates u settings git).behind = true)
    (hnew : assistant.updates.shouldPrompt (checkForUpdates u settings git).remoteSha = true) :
    start u settings git request assistant =
      (offerUpdate (checkForUpdates u settings git) request.conversationId
          (assistant.onUpdates (assistant.updates.recordCheck (checkForUpdates u settings git))),
        .ok (confirmationSource request
          (formatUpdateConfirmationPrompt (checkForUpdates u settings git).commitsBehind))) := by
  have hrecorded : (assistant.updates.recordCheck (checkForUpdates u settings git)).shouldPrompt
      (checkForUpdates u settings git).remoteSha = true := hnew
  simp only [start, startBehind, h, AssistantState.onUpdates_updates, hrecorded, Bool.not_true,
    Bool.false_eq_true, if_false]

end Start

def pendingRemoteSha (pending : PendingInteraction) : Text :=
  match pending.payload.lookup "remote_sha" with
  | none => []
  | some value => value.toText

def rejected (pending : PendingInteraction) (request : Request) (assistant : AssistantState) :
    Reply :=
  let remoteSha := pendingRemoteSha pending
  let (assistant, source) := cancelled request "Update dismissed." assistant
  (if remoteSha = [] then assistant
    else assistant.onUpdates (assistant.updates.dismiss remoteSha),
    source)

def restartAfterPull (request : Request) (assistant : AssistantState) : Reply :=
  let installed :=
    if settings.autoUpdateInstall then assistant.perform .installDependencies else assistant
  (installed.perform .scheduleServiceRestart,
    .ok (if !settings.serviceRestartEnabled then
        answerSource request
          ("The update was pulled, but service restart is disabled. " ++
            "Set SERVICE_RESTART_ENABLED=true and restart manually.").toList
      else answerSource request "Updating now. I will restart shortly.".toList false))

def confirmed (request : Request) (assistant : AssistantState) : Reply :=
  let pulled := (assistant.clearPending request.conversationId).perform .pullLatest
  let pullResult := pullLatest settings git
  if !pullResult.updated && pullResult.message ≠ "Already up to date.".toList then
    (pulled, .ok (answerSource request ("I could not update: ".toList ++ pullResult.message)))
  else restartAfterPull settings request pulled

def handlePending (pending : PendingInteraction) (request : Request) :
    AssistantState → Option Reply :=
  handleConfirmation u .updateConfirmation
    "Reply yes to update and restart, or no to dismiss."
    (rejected pending request) (confirmed settings git request) pending request

/-- `check_for_available_updates`, the scheduler's job. -/
def checkForAvailableUpdates (assistant : AssistantState) : AssistantState :=
  if !settings.updateCheckEnabled then assistant
  else
    let result := checkForUpdates u settings git
    let assistant := assistant.onUpdates (assistant.updates.recordCheck result)
    if !result.behind then assistant
    else if !assistant.updates.shouldPrompt result.remoteSha then assistant
    else offerUpdate result defaultUpdateConversationId assistant

end NanoCore.Assistant.Flows.Update
