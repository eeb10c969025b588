import NanoCore.Assistant.Orchestrator
import NanoCore.Foundation.Effects
import NanoCore.Runtime.Activity
import NanoCore.Runtime.StatusCopy

/-!
The activity hub around one message: `app/assistant/orchestrator.py` and
`app/assistant/response_pipeline.py` with their `try` statements.  The flows, the
tools, the store and the language model do anything, to the hub as well.
-/

namespace NanoCore.Assistant.Standby

open NanoCore.Foundation.Effects
open NanoCore.Foundation.PythonText
open NanoCore.Assistant.AgentRouter
open NanoCore.Assistant.Pending
open NanoCore.Assistant.Rules.Intents
open NanoCore.Assistant.Sources
open NanoCore.Assistant.State
open NanoCore.Config
open NanoCore.Memory.Models
open NanoCore.Runtime.Activity
open NanoCore.Runtime.StatusCopy
open NanoCore.Timers.Parsing

/-- What the orchestrator calls.  The first group comes before the `try` of the
agent mode and does not reach the hub; `ω` is everything outside of the hub. -/
structure Parts (ω ε : Type) where
  raised : PyError → ε
  getSettings : Effect ω ε Settings
  touch : Effect ω ε Unit
  addChatMessage : String → String → Text → Effect ω ε Unit
  listChatMessages : String → Nat → Effect ω ε (List ChatMessage)
  getLlmClient : Effect ω ε Unit
  /-- The greeting is drawn at random. -/
  chooseStandbyGreeting : ω → ω × Text
  decide : Request → Effect (ω × ActivityHub) ε RouteDecision
  handlePending : Request → Effect (ω × ActivityHub) ε (Option ResponseSource)
  clearPending : String → Effect ω ε Unit
  dispatchInteraction : Request → RouteDecision → Effect (ω × ActivityHub) ε ResponseSource
  dispatchRoute :
    Request → List ChatMessage → RouteDecision → Effect (ω × ActivityHub) ε ResponseSource
  draft : Request → List ChatMessage → Effect (ω × ActivityHub) ε ResponseSource
  draftCapabilities : Request → Effect (ω × ActivityHub) ε ResponseSource
  draftIdentity : Request → List ChatMessage → Effect (ω × ActivityHub) ε ResponseSource
  compose : ResponseSource → Effect (ω × ActivityHub) ε Text
  enforceUserFacingAnswer : ResponseSource → Text → Effect (ω × ActivityHub) ε Text
  polishUserFacingAnswer : ResponseSource → Text → Effect (ω × ActivityHub) ε Text

inductive Mode where
  | chat
  | agent
  deriving DecidableEq, Repr

def routeAcknowledgment : RouteDecision → StatusLine
  | .tool name _ => runningTool name
  | .planner => planningAction
  | .answer => answering
  | .capabilities => reviewingCapabilities
  | .identity => introducing
  | .interaction .wipe => preparingWipe
  | .interaction .reboot => preparingReboot
  | .interaction .serviceRestart => preparingServiceRestart
  | .interaction .timer => settingTimer
  | .interaction .update => preparingUpdate
  | .direct _ | .pending | .confused => received

def RouteDecision.isPlannerOrTool : RouteDecision → Bool
  | .planner | .tool _ _ => true
  | _ => false

variable {ω ε : Type} (u : PyData) (parts : Parts ω ε)

def onHub (f : ActivityHub → ActivityHub) : Effect (ω × ActivityHub) ε Unit :=
  .change fun s => (s.1, f s.2)

def working (status : StatusLine) (source : Text) : Effect (ω × ActivityHub) ε Unit :=
  onHub fun hub => (hub.working status.title (some status.detail) source).1

def announceMessage (mode : VoicePlaybackMode) (message : Text) :
    Effect (ω × ActivityHub) ε Unit :=
  onHub fun hub => (hub.announceVoice u mode (spokenText message)).1

def standbyGreeting (detail : Option Text) (source : Text) (s : ω × ActivityHub) :
    ω × ActivityHub :=
  let (world, greeting) := parts.chooseStandbyGreeting s.1
  (world, (s.2.standby greeting detail source).1)

def releaseToIdle (source : Text) : ω × ActivityHub → ω × ActivityHub :=
  standbyGreeting parts (some standbyDetailDefault) source

/-- The text of a reply, from its source. -/
def composeResponse (standbySource : Text) (source : ResponseSource) :
    Effect (ω × ActivityHub) ε Text := do
  .onlyIf (!source.skipEnrichment && source.kind ≠ .followUp && source.kind ≠ .confirmation)
    (working composing standbySource)
  let content ← parts.compose source
  let content ← parts.enforceUserFacingAnswer source content
  parts.polishUserFacingAnswer source content

def storeResponse (source : ResponseSource) (content : Text) :
    Effect (ω × ActivityHub) ε (Text × Bool) := do
  .onlyIf source.persist
    (.onFirst (parts.addChatMessage source.conversationId "assistant" content))
  return (content, source.speak)

def finalizeResponse (standbySource : Text) (source : ResponseSource) :
    Effect (ω × ActivityHub) ε (Text × Bool) :=
  .andFinally (composeResponse parts standbySource source >>= storeResponse parts source)
    (standbyGreeting parts none standbySource)

def dispatchFresh (request : Request) (history : List ChatMessage) (decision : RouteDecision) :
    Effect (ω × ActivityHub) ε ResponseSource :=
  match decision with
  | .interaction name => parts.dispatchInteraction request (.interaction name)
  | decision => parts.dispatchRoute request history decision

/-- `_dispatch`: a pending interaction that no flow takes is cleared, and the
message is routed once more. -/
def dispatch (request : Request) (history : List ChatMessage) (decision : RouteDecision) :
    Effect (ω × ActivityHub) ε ResponseSource :=
  match decision with
  | .pending => do
      match ← parts.handlePending request with
      | some source => return source
      | none =>
          .onFirst (parts.clearPending request.conversationId)
          dispatchFresh parts request history (← parts.decide request)
  | decision => dispatchFresh parts request history decision

def resolveSource (mode : VoicePlaybackMode) (request : Request) (history : List ChatMessage) :
    Effect (ω × ActivityHub) ε ResponseSource := do
  let decision ← parts.decide request
  let acknowledgment := routeAcknowledgment decision
  working acknowledgment "assistant.orchestrator.route".toList
  .onlyIf (!RouteDecision.isPlannerOrTool decision && acknowledgment.title ≠ received.title)
    (announceMessage u mode acknowledgment.title)
  dispatch parts request history decision

def orchestratorSource : Text := "assistant.orchestrator".toList

def chatSource : Text := "assistant.chat".toList

/-- `respond` in the agent mode up to the step that stores the user's message. -/
def agentOpening (request : Request) : Effect (ω × ActivityHub) ε Settings := do
  let settings ← .onFirst parts.getSettings
  .onFirst parts.touch
  let silent ← .ofExcept ((isSilentUiCommand u request.message).mapError parts.raised)
  .onlyIf (!silent)
    (.onFirst (parts.addChatMessage request.conversationId "user" request.message))
  return settings

def agentAnswer (request : Request) (settings : Settings) :
    Effect (ω × ActivityHub) ε (Text × Bool) :=
  .onException
    (do
      let history ← .onFirst
        (parts.listChatMessages request.conversationId settings.chatHistoryLimit)
      .onFirst parts.getLlmClient
      let source ← resolveSource u parts settings.voicePlaybackMode request history
      finalizeResponse parts orchestratorSource source)
    (releaseToIdle parts orchestratorSource)

def chatOpening (request : Request) : Effect (ω × ActivityHub) ε Settings := do
  let settings ← .onFirst parts.getSettings
  .onFirst parts.touch
  working received chatSource
  .onFirst (parts.addChatMessage request.conversationId "user" request.message)
  return settings

def chatDraft (request : Request) (history : List ChatMessage) :
    Effect (ω × ActivityHub) ε ResponseSource :=
  if isCapabilityQuestion u request.message then parts.draftCapabilities request
  else if isIdentityQuestion u request.message then parts.draftIdentity request history
  else parts.draft request history

def chatAnswer (request : Request) (settings : Settings) :
    Effect (ω × ActivityHub) ε (Text × Bool) := do
  let history ← .onFirst (parts.listChatMessages request.conversationId settings.chatHistoryLimit)
  .onFirst parts.getLlmClient
  working thinking chatSource
  let source ← chatDraft u parts request history
  finalizeResponse parts chatSource source

def opening (mode : Mode) (request : Request) : Effect (ω × ActivityHub) ε Settings :=
  match mode with
  | .chat => chatOpening parts request
  | .agent => agentOpening u parts request

def respond (mode : Mode) (request : Request) : Effect (ω × ActivityHub) ε (Text × Bool) :=
  match mode with
  | .chat =>
      .onException (chatOpening parts request >>= chatAnswer u parts request)
        (releaseToIdle parts orchestratorSource)
  | .agent => agentOpening u parts request >>= agentAnswer u parts request

def Idle (s : ω × ActivityHub) : Prop := s.2.state = .standby ∧ s.2.taskTimer = none

theorem idle_standbyGreeting (detail : Option Text) (source : Text) (s : ω × ActivityHub) :
    Idle (standbyGreeting parts detail source s) := ⟨rfl, rfl⟩

theorem endsIn_finalizeResponse (standbySource : Text) (source : ResponseSource) :
    (finalizeResponse parts standbySource source).EndsIn Idle :=
  Effect.endsIn_andFinally (idle_standbyGreeting parts none standbySource)

theorem endsIn_agentAnswer (request : Request) (settings : Settings) :
    (agentAnswer u parts request settings).EndsIn Idle := by
  apply Effect.endsIn_onException
  · refine .bind fun history => .bind fun _ => .bind fun source => ?_
    exact (endsIn_finalizeResponse parts orchestratorSource source).returnsIn
  · exact idle_standbyGreeting parts _ orchestratorSource

theorem returnsIn_chatAnswer (request : Request) (settings : Settings) :
    (chatAnswer u parts request settings).ReturnsIn Idle := by
  refine .bind fun history => .bind fun _ => .bind fun _ => .bind fun source => ?_
  exact (endsIn_finalizeResponse parts chatSource source).returnsIn

theorem endsIn_respond_chat (request : Request) : (respond u parts .chat request).EndsIn Idle :=
  Effect.endsIn_onException (.bind fun settings => returnsIn_chatAnswer u parts request settings)
    (idle_standbyGreeting parts _ orchestratorSource)

theorem keeps_agentOpening (request : Request) :
    (agentOpening u parts request).Keeps Prod.snd :=
  .bind (Effect.keeps_onFirst _) fun _ => .bind (Effect.keeps_onFirst _) fun _ =>
  .bind (Effect.keeps_ofExcept _) fun _ =>
  .bind (Effect.keeps_onlyIf (Effect.keeps_onFirst _) _) fun _ => Effect.keeps_pure _

/-- A message never leaves the hub working, and once the user's message is past
being stored it leaves the hub in standby. -/
theorem respond_leaves_idle (mode : Mode) (request : Request) (s : ω × ActivityHub)
    (hidle : s.2.state ≠ .working) :
    (respond u parts mode request s).1.2.state ≠ .working ∧
      (((∃ answer, (respond u parts mode request s).2 = .ok answer) ∨
          ∃ settings, (opening u parts mode request s).2 = .ok settings) →
        Idle (respond u parts mode request s).1) := by
  have not_working {s : ω × ActivityHub} (h : Idle s) : s.2.state ≠ .working := by
    rw [h.1]
    decide
  cases mode with
  | chat =>
      have hends := endsIn_respond_chat u parts request s
      exact ⟨not_working hends, fun _ => hends⟩
  | agent =>
      rcases hopening : agentOpening u parts request s with ⟨s', e | settings⟩
      · have hrun : respond u parts .agent request s = (s', .error e) :=
          Effect.bind_of_error hopening
        have hkept : s'.2 = s.2 := by
          have hkeeps := keeps_agentOpening u parts request s
          rwa [hopening] at hkeeps
        rw [hrun, opening, hopening]
        refine ⟨hkept ▸ hidle, ?_⟩
        rintro (⟨answer, h⟩ | ⟨settings, h⟩) <;> cases h
      · have hrun : respond u parts .agent request s = agentAnswer u parts request settings s' :=
          Effect.bind_of_ok hopening
        have hends := endsIn_agentAnswer u parts request settings s'
        rw [hrun]
        exact ⟨not_working hends, fun _ => hends⟩

section Assistant

variable (environment : Environment) (hubAfter : AssistantState → ActivityHub → ActivityHub)

def withHub {α : Type} (body : AssistantState → AssistantState × Except PyError α) :
    Effect (AssistantState × ActivityHub) PyError α := fun s =>
  (((body s.1).1, hubAfter s.1 s.2), (body s.1).2)

def handlePendingOn (environment : Environment) (request : Request) :
    Effect AssistantState PyError (Option ResponseSource) := fun assistant =>
  match (assistant.pendingOf request.conversationId).bind fun pending =>
      Orchestrator.handlePending u environment pending request assistant with
  | none => (assistant, .ok none)
  | some (assistant, source) => (assistant, source.map some)

def ofEnvironment (greeting : Text) : Parts AssistantState PyError where
  raised := id
  getSettings := pure environment.settings
  touch := pure ()
  addChatMessage conversationId role content := .change fun assistant =>
    assistant.onServer (Memory.Repository.addChatMessage conversationId role content
      assistant.server)
  listChatMessages conversationId limit := fun assistant =>
    (assistant, .ok (Memory.Repository.listChatMessages conversationId limit
      assistant.server.database))
  getLlmClient := pure ()
  chooseStandbyGreeting assistant := (assistant, greeting)
  decide request := withHub hubAfter (Orchestrator.route u request)
  handlePending request := withHub hubAfter (handlePendingOn u environment request)
  clearPending conversationId := .change fun assistant => assistant.clearPending conversationId
  dispatchInteraction request decision := withHub hubAfter fun assistant =>
    Orchestrator.dispatchRoute u environment request [] assistant decision
  dispatchRoute request history decision := withHub hubAfter fun assistant =>
    Orchestrator.dispatchRoute u environment request history assistant decision
  draft request history := withHub hubAfter fun assistant =>
    (assistant, (environment.draft request history).map (answerSource request))
  draftCapabilities request := withHub hubAfter fun assistant =>
    (assistant, (environment.draftCapabilities request).map (answerSource request))
  draftIdentity request history := withHub hubAfter fun assistant =>
    (assistant, (environment.draftIdentity request history).map (answerSource request))
  compose source := withHub hubAfter fun assistant => (assistant, environment.compose source)
  enforceUserFacingAnswer _ content := withHub hubAfter fun assistant => (assistant, .ok content)
  polishUserFacingAnswer _ content := withHub hubAfter fun assistant => (assistant, .ok content)

variable {environment hubAfter} {greeting : Text}

theorem refines_withHub {α : Type} (body : AssistantState → AssistantState × Except PyError α) :
    (withHub hubAfter body).Refines body := fun _ _ => rfl

theorem refines_onHub {ω ε : Type} (f : ActivityHub → ActivityHub) :
    (onHub f : Effect (ω × ActivityHub) ε Unit).Refines (pure ()) := fun _ _ => rfl

/-- `finalize_response` on the assistant alone. -/
def finalizeOnAssistant (environment : Environment) (source : ResponseSource) :
    Effect AssistantState PyError (Text × Bool) := do
  let content ← .ofExcept (environment.compose source)
  .onlyIf source.persist (.change fun assistant => assistant.onServer
    (Memory.Repository.addChatMessage source.conversationId "assistant" content assistant.server))
  return (content, source.speak)

theorem finalizeOnAssistant_eq (source : ResponseSource) (assistant : AssistantState) :
    finalizeOnAssistant environment source assistant =
      Orchestrator.reply environment (assistant, .ok source) := by
  rw [finalizeOnAssistant, Orchestrator.reply, Orchestrator.finalizeResponse]
  dsimp only
  rcases environment.compose source with e | content
  · rfl
  · cases source.persist <;> rfl

theorem finalizeResponse_refines (standbySource : Text) (source : ResponseSource) :
    (finalizeResponse (ofEnvironment u environment hubAfter greeting) standbySource source).Refines
      (finalizeOnAssistant environment source) := by
  apply Effect.Refines.andFinally
  · apply Effect.Refines.bind
    · apply Effect.Refines.bind_left (Effect.refines_onlyIf_pure (refines_onHub _) _)
      rw [← Effect.bind_pure_right (.ofExcept (environment.compose source))]
      exact .bind (fun _ _ => rfl) fun _ _ _ => rfl
    · intro content
      apply Effect.Refines.bind (Effect.refines_onlyIf (Effect.refines_onFirst _) _)
      exact fun _ => Effect.refines_pure _
  · exact fun _ => rfl

theorem dispatchFresh_refines (request : Request) (history : List ChatMessage)
    (decision : RouteDecision) :
    (dispatchFresh (ofEnvironment u environment hubAfter greeting) request history
      decision).Refines fun assistant =>
        Orchestrator.dispatchRoute u environment request history assistant decision := by
  cases decision <;> exact refines_withHub _

def dispatchOn (environment : Environment) (request : Request) (history : List ChatMessage) :
    RouteDecision → Effect AssistantState PyError ResponseSource
  | .pending => do
      match ← handlePendingOn u environment request with
      | some source => return source
      | none =>
          .change fun assistant => assistant.clearPending request.conversationId
          fun assistant => Orchestrator.routeAndDispatch u environment request history assistant
  | decision => fun assistant =>
      Orchestrator.dispatchRoute u environment request history assistant decision

theorem routeAndDispatch_eq (request : Request) (history : List ChatMessage) :
    Orchestrator.routeAndDispatch u environment request history =
      Effect.andThen (Orchestrator.route u request) fun decision assistant =>
        Orchestrator.dispatchRoute u environment request history assistant decision := by
  funext assistant
  simp only [Orchestrator.routeAndDispatch, Effect.andThen]
  rcases Orchestrator.route u request assistant with ⟨routed, e | decision⟩ <;> rfl

theorem dispatch_refines (request : Request) (history : List ChatMessage)
    (decision : RouteDecision) :
    (dispatch (ofEnvironment u environment hubAfter greeting) request history decision).Refines
      (dispatchOn u environment request history decision) := by
  cases decision with
  | pending =>
      apply Effect.Refines.bind (refines_withHub _)
      intro handled
      cases handled with
      | some source => exact Effect.refines_pure source
      | none =>
          apply Effect.Refines.bind (Effect.refines_onFirst _)
          intro _
          rw [routeAndDispatch_eq]
          exact .bind (refines_withHub _) fun decision => dispatchFresh_refines u request history _
  | _ => exact dispatchFresh_refines u request history _

theorem resolveSource_eq (request : Request) (history : List ChatMessage) :
    Orchestrator.resolveSource u environment request history =
      Effect.andThen (Orchestrator.route u request) (dispatchOn u environment request history) := by
  funext assistant
  simp only [Orchestrator.resolveSource, Effect.andThen]
  rcases Orchestrator.route u request assistant with ⟨routed, e | decision⟩
  · rfl
  · cases decision with
    | pending =>
        change Option.getD _ _ = Effect.andThen (handlePendingOn u environment request) _ routed
        rw [Effect.andThen, handlePendingOn]
        rcases (routed.pendingOf request.conversationId).bind fun pending =>
          Orchestrator.handlePending u environment pending request routed
          with _ | ⟨_, e | source⟩ <;> rfl
    | _ => rfl

theorem resolveSource_refines (mode : VoicePlaybackMode) (request : Request)
    (history : List ChatMessage) :
    (resolveSource u (ofEnvironment u environment hubAfter greeting) mode request
      history).Refines (Orchestrator.resolveSource u environment request history) := by
  rw [resolveSource_eq]
  apply Effect.Refines.bind (refines_withHub _)
  intro decision
  apply Effect.Refines.bind_left (refines_onHub _)
  apply Effect.Refines.bind_left (Effect.refines_onlyIf_pure (refines_onHub _) _)
  exact dispatch_refines u request history decision

theorem agentAnswer_refines (request : Request) :
    (agentAnswer u (ofEnvironment u environment hubAfter greeting) request
      environment.settings).Refines fun assistant =>
        Orchestrator.reply environment (Orchestrator.resolveSource u environment request
          (Orchestrator.history environment request assistant) assistant) := by
  have hanswer : (fun assistant => Orchestrator.reply environment
      (Orchestrator.resolveSource u environment request
        (Orchestrator.history environment request assistant) assistant)) =
      Effect.andThen (fun assistant =>
        (assistant, .ok (Orchestrator.history environment request assistant))) fun history =>
      Effect.andThen (Orchestrator.resolveSource u environment request history)
        (finalizeOnAssistant environment) := by
    funext assistant
    simp only [Effect.andThen]
    rcases Orchestrator.resolveSource u environment request _ assistant with ⟨after, e | source⟩
    · rfl
    · exact (finalizeOnAssistant_eq source after).symm
  rw [hanswer]
  apply Effect.Refines.onException
  · apply Effect.Refines.bind (Effect.refines_onFirst _)
    intro history
    apply Effect.Refines.bind_left fun _ _ => rfl
    exact .bind (resolveSource_refines u _ request history)
      fun source => finalizeResponse_refines u _ source
  · exact fun _ => rfl

theorem agentOpening_of_error {request : Request} {e : PyError}
    (h : isSilentUiCommand u request.message = .error e) (assistant : AssistantState)
    (hub : ActivityHub) :
    agentOpening u (ofEnvironment u environment hubAfter greeting) request (assistant, hub) =
      ((assistant, hub), .error e) := by
  change Effect.andThen (.ofExcept ((isSilentUiCommand u request.message).mapError id)) _
    (assistant, hub) = _
  rw [h]
  rfl

theorem agentOpening_of_ok {request : Request} {silent : Bool}
    (h : isSilentUiCommand u request.message = .ok silent) (assistant : AssistantState)
    (hub : ActivityHub) :
    agentOpening u (ofEnvironment u environment hubAfter greeting) request (assistant, hub) =
      ((if silent then assistant else Orchestrator.storeUserMessage request assistant, hub),
        .ok environment.settings) := by
  change Effect.andThen (.ofExcept ((isSilentUiCommand u request.message).mapError id)) _
    (assistant, hub) = _
  rw [h]
  cases silent with
  | true => rfl
  | false => rfl

/-- On the assistant the parts do what its model says, whatever the hub is told. -/
theorem respond_agent_refines (request : Request) :
    (respond u (ofEnvironment u environment hubAfter greeting) .agent request).Refines
      (Orchestrator.respond u environment request) := by
  intro assistant hub
  change ((Effect.andThen (agentOpening u _ request) _ (assistant, hub)).1.1,
    (Effect.andThen (agentOpening u _ request) _ (assistant, hub)).2) = _
  cases hsilent : isSilentUiCommand u request.message with
  | error e =>
      simp only [Effect.andThen, agentOpening_of_error u hsilent, Orchestrator.respond, hsilent]
  | ok silent =>
      simp only [Effect.andThen, agentOpening_of_ok u hsilent, Orchestrator.respond, hsilent]
      exact agentAnswer_refines u request _ hub

def chatDraftOn (environment : Environment) (request : Request) (history : List ChatMessage) :
    Except PyError ResponseSource :=
  (if isCapabilityQuestion u request.message then environment.draftCapabilities request
    else if isIdentityQuestion u request.message then environment.draftIdentity request history
    else environment.draft request history).map (answerSource request)

theorem chatDraft_refines (request : Request) (history : List ChatMessage) :
    (chatDraft u (ofEnvironment u environment hubAfter greeting) request history).Refines
      (.ofExcept (chatDraftOn u environment request history)) := by
  rw [chatDraft, chatDraftOn]
  split
  · exact refines_withHub _
  · split <;> exact refines_withHub _

theorem chatAnswer_refines (request : Request) :
    (chatAnswer u (ofEnvironment u environment hubAfter greeting) request
      environment.settings).Refines fun assistant =>
        Orchestrator.reply environment (assistant, chatDraftOn u environment request
          (Orchestrator.history environment request assistant)) := by
  have hanswer : (fun assistant => Orchestrator.reply environment (assistant,
      chatDraftOn u environment request (Orchestrator.history environment request assistant))) =
      Effect.andThen (fun assistant =>
        (assistant, .ok (Orchestrator.history environment request assistant))) fun history =>
      Effect.andThen (.ofExcept (chatDraftOn u environment request history))
        (finalizeOnAssistant environment) := by
    funext assistant
    simp only [Effect.andThen, Effect.ofExcept]
    rcases chatDraftOn u environment request _ with e | source
    · rfl
    · exact (finalizeOnAssistant_eq source assistant).symm
  rw [hanswer]
  apply Effect.Refines.bind (Effect.refines_onFirst _)
  intro history
  apply Effect.Refines.bind_left fun _ _ => rfl
  apply Effect.Refines.bind_left (refines_onHub _)
  exact .bind (chatDraft_refines u request history) fun source =>
    finalizeResponse_refines u _ source

theorem respond_chat_refines (request : Request) :
    (respond u (ofEnvironment u environment hubAfter greeting) .chat request).Refines
      (Orchestrator.respondChat u environment request) := by
  apply Effect.Refines.onException
  · intro assistant hub
    exact chatAnswer_refines u request (Orchestrator.storeUserMessage request assistant) _
  · exact fun _ => rfl

/-- A message that the language model, being offline, does not answer. -/
theorem respond_leaves_idle_offline :
    let parts := ofEnvironment .ascii (.offline {}) (fun _ hub => hub) "Hi.".toList
    let before := (AssistantState.initial (.initial (.stopped 0)), (ActivityHub.initial 100).1)
    let after := respond .ascii parts .chat ⟨"default", "good evening".toList⟩ before
    before.2.state ≠ .working ∧ after.1.2.state ≠ .working ∧ Idle after.1 := by
  have hidle : (ActivityHub.initial 100).1.state ≠ .working := by decide
  have h := respond_leaves_idle .ascii
    (ofEnvironment .ascii (.offline {}) (fun _ hub => hub) "Hi.".toList) .chat
    ⟨"default", "good evening".toList⟩
    (AssistantState.initial (.initial (.stopped 0)), (ActivityHub.initial 100).1) hidle
  exact ⟨hidle, h.1, h.2 (.inr ⟨{}, rfl⟩)⟩

end Assistant

end NanoCore.Assistant.Standby
