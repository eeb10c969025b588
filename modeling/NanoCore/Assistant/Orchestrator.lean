import NanoCore.Assistant.AgentRouter
import NanoCore.Assistant.Flows.Timer
import NanoCore.Assistant.Flows.Update

namespace NanoCore.Assistant.Orchestrator

open NanoCore.Foundation.PythonText
open NanoCore.Assistant.AgentRouter
open NanoCore.Assistant.Flows
open NanoCore.Assistant.Flows.Confirmation
open NanoCore.Assistant.Pending
open NanoCore.Assistant.Rules.Intents
open NanoCore.Assistant.Sources
open NanoCore.Assistant.State
open NanoCore.Memory.Models
open NanoCore.Memory.Repository
open NanoCore.Runtime.State
open NanoCore.Timers.Parsing

variable (u : PyData) (environment : Environment)

/-- `InteractionDispatcher.dispatch`. -/
def dispatchInteraction (name : Interaction) : Request → AssistantState → Reply :=
  match name with
  | .timer => Timer.handleDirectRequest u environment
  | .wipe => Wipe.start
  | .serviceRestart => ServiceRestart.start environment.settings
  | .update => Update.start u environment.settings environment.git
  | .reboot => Reboot.start environment.settings

/-- `InteractionDispatcher.handle_pending`: the first flow that takes the pending
interaction, or none of them. -/
def handlePending (pending : PendingInteraction) (request : Request)
    (assistant : AssistantState) : Option Reply :=
  (Timer.handlePending u environment pending request assistant).orElse fun _ =>
  (Wipe.handlePending u pending request assistant).orElse fun _ =>
  (ServiceRestart.handlePending u environment.settings pending request assistant).orElse fun _ =>
  (Reboot.handlePending u environment.settings pending request assistant).orElse fun _ =>
  Update.handlePending u environment.settings environment.git pending request assistant

def route (request : Request) (assistant : AssistantState) :
    AssistantState × Except PyError RouteDecision :=
  let (decision, pending) := decide u request.message request.conversationId
    assistant.server.database assistant.pending
  ({ assistant with pending := pending }, decision)

def onServerOnly (assistant : AssistantState)
    (result : Server × Except PyError ResponseSource) : Reply :=
  (assistant.onServer result.1, result.2)

/-- `RouteDispatcher.dispatch`, and the interactions that `_dispatch` starts. -/
def dispatchRoute (request : Request) (history : List ChatMessage) (assistant : AssistantState) :
    RouteDecision → Reply
  | .interaction name => dispatchInteraction u environment name request assistant
  | .tool name args =>
      let (server, source) := ToolExecutor.run u environment request name args assistant.server
      onServerOnly assistant (server, .ok source)
  | .direct facts => (assistant, .ok (answerSource request facts))
  | .capabilities =>
      (assistant, (environment.draftCapabilities request).map (answerSource request))
  | .identity =>
      (assistant, (environment.draftIdentity request history).map (answerSource request))
  | .answer | .confused =>
      (assistant, .ok (confusedAnswerSource request environment.confusedResponse))
  | .planner | .pending =>
      onServerOnly assistant (environment.plan request history assistant.server)

def routeAndDispatch (request : Request) (history : List ChatMessage)
    (assistant : AssistantState) : Reply :=
  match route u request assistant with
  | (assistant, .error e) => (assistant, .error e)
  | (assistant, .ok decision) => dispatchRoute u environment request history assistant decision

def resolveSource (request : Request) (history : List ChatMessage)
    (assistant : AssistantState) : Reply :=
  match route u request assistant with
  | (assistant, .error e) => (assistant, .error e)
  | (assistant, .ok .pending) =>
      let handled := (assistant.pendingOf request.conversationId).bind fun pending =>
        handlePending u environment pending request assistant
      handled.getD (routeAndDispatch u environment request history
        (assistant.clearPending request.conversationId))
  | (assistant, .ok decision) => dispatchRoute u environment request history assistant decision

/-- `finalize_response`: the text is composed and stored when it is to persist. -/
def finalizeResponse (source : ResponseSource) (server : Server) :
    Server × Except PyError (Text × Bool) :=
  match environment.compose source with
  | .error e => (server, .error e)
  | .ok content =>
      (if source.persist then addChatMessage source.conversationId "assistant" content server
        else server,
        .ok (content, source.speak))

def reply (resolved : Reply) : AssistantState × Except PyError (Text × Bool) :=
  match resolved with
  | (assistant, .error e) => (assistant, .error e)
  | (assistant, .ok source) =>
      let (server, result) := finalizeResponse environment source assistant.server
      (assistant.onServer server, result)

def storeUserMessage (request : Request) (assistant : AssistantState) : AssistantState :=
  assistant.onServer
    (addChatMessage request.conversationId "user" request.message assistant.server)

def history (request : Request) (assistant : AssistantState) : List ChatMessage :=
  listChatMessages request.conversationId environment.settings.chatHistoryLimit
    assistant.server.database

/-- `respond` in mode `agent`. -/
def respond (request : Request) (assistant : AssistantState) :
    AssistantState × Except PyError (Text × Bool) :=
  match isSilentUiCommand u request.message with
  | .error e => (assistant, .error e)
  | .ok silent =>
      let assistant := if silent then assistant else storeUserMessage request assistant
      reply environment
        (resolveSource u environment request (history environment request assistant) assistant)

/-- `respond` in mode `chat`. -/
def respondChat (request : Request) (assistant : AssistantState) :
    AssistantState × Except PyError (Text × Bool) :=
  let assistant := storeUserMessage request assistant
  let drafted :=
    if isCapabilityQuestion u request.message then environment.draftCapabilities request
    else if isIdentityQuestion u request.message then
      environment.draftIdentity request (history environment request assistant)
    else environment.draft request (history environment request assistant)
  reply environment (assistant, drafted.map (answerSource request))

end NanoCore.Assistant.Orchestrator
