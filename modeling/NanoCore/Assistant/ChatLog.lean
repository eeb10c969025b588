import NanoCore.Assistant.PlannerRuns
import NanoCore.Assistant.UpdatePrompts
import NanoCore.Timers.Frames

namespace NanoCore.Assistant.ChatLog

open NanoCore.Foundation.JsonLoads
open NanoCore.Foundation.JsonText
open NanoCore.Foundation.KeyedTable
open NanoCore.Foundation.PythonText
open NanoCore.Assistant.AgentRouter
open NanoCore.Assistant.Confirmations
open NanoCore.Assistant.Flows
open NanoCore.Assistant.Flows.Confirmation
open NanoCore.Assistant.Orchestrator
open NanoCore.Assistant.Pending
open NanoCore.Assistant.PlannerRuns
open NanoCore.Assistant.Prompts
open NanoCore.Assistant.Rules.Intents
open NanoCore.Assistant.Rules.Messages
open NanoCore.Assistant.Sources
open NanoCore.Assistant.State
open NanoCore.Assistant.UpdatePrompts
open NanoCore.Config
open NanoCore.Deploy.Update
open NanoCore.Memory.Models
open NanoCore.Memory.Repository
open NanoCore.Runtime.State
open NanoCore.Timers.Frames
open NanoCore.Timers.Parsing
open NanoCore.Tools.Registry

/-- The stored messages, oldest first. -/
def chatLog (server : Server) : List ChatMessage := server.database.chatMessages.rows

theorem exists_chatLog_addChatMessage (c role : String) (content : Text) (server : Server) :
    ∃ message : ChatMessage, message.conversationId = c ∧ message.role = role ∧
      message.content = content ∧
      chatLog (addChatMessage c role content server) = chatLog server ++ [message] := by
  refine ⟨_, rfl, rfl, rfl, congrArg (· ++ [_]) ?_⟩
  refine List.filter_eq_self.mpr fun message hmem => ?_
  have hlt := lt_nextRowid (List.mem_map_of_mem (f := ChatMessage.id) hmem)
  exact decide_eq_true (ne_of_lt hlt)

theorem chatLog_of_onlyTimers {before after : Server} (h : OnlyTimers before after) :
    chatLog after = chatLog before :=
  congrArg Table.rows h.chatMessages

structure KeepsChat (environment : Environment) : Prop where
  runOtherTool : ∀ toolName args server,
    chatLog (environment.runOtherTool toolName args server).1 = chatLog server
  plan : ∀ request history server,
    chatLog (environment.plan request history server).1 = chatLog server

def SameChat (before after : AssistantState) : Prop :=
  chatLog after.server = chatLog before.server

section Flows

variable {u : PyData} {environment : Environment} {request : Request} {assistant : AssistantState}

theorem chatLog_execute (henvironment : KeepsChat environment) (toolName : String) (args : PyDict)
    (server : Server) :
    chatLog (ToolExecutor.execute u environment toolName args server).1 = chatLog server := by
  have hhandler : chatLog (ToolExecutor.runTool u environment toolName args server).1 =
      chatLog server := by
    rw [ToolExecutor.runTool]
    cases hresult : Timers.Operations.runTimerTool u toolName args server with
    | none => exact henvironment.runOtherTool toolName args server
    | some result => exact chatLog_of_onlyTimers (onlyTimers_runTimerTool server u args hresult)
  rw [ToolExecutor.execute, ToolRunner.execute]
  split
  · rfl
  · split
    · rename_i heq
      rwa [heq] at hhandler
    · rename_i heq
      rwa [heq] at hhandler

theorem sameChat_runTimerRequest (henvironment : KeepsChat environment) (args : PyDict) :
    SameChat assistant (Timer.runTimerRequest u environment request args assistant).1 :=
  chatLog_execute henvironment "start_timer" args assistant.server

theorem sameChat_handleDirectRequest (henvironment : KeepsChat environment) :
    SameChat assistant (Timer.handleDirectRequest u environment request assistant).1 := by
  unfold Timer.handleDirectRequest
  split
  · rfl
  · rfl
  · split
    · rfl
    · exact sameChat_runTimerRequest henvironment _
    · rfl

theorem sameChat_startIfEnabled {enabled : Bool} {disabledFacts : String} {kind : PendingKind}
    {action : ConfirmationAction} :
    SameChat assistant (startIfEnabled enabled disabledFacts kind action request assistant).1 := by
  unfold startIfEnabled
  split
  · rfl
  · rfl

def FindsNewVersion (u : PyData) (environment : Environment) (assistant : AssistantState) : Prop :=
  (checkForUpdates u environment.settings environment.git).behind = true ∧
    assistant.updates.shouldPrompt
      (checkForUpdates u environment.settings environment.git).remoteSha = true

theorem sameChat_updateStart (h : ¬FindsNewVersion u environment assistant) :
    SameChat assistant
      (Update.start u environment.settings environment.git request assistant).1 := by
  cases hbehind : (checkForUpdates u environment.settings environment.git).behind with
  | false =>
      rw [Update.start_of_not_behind hbehind]
      rfl
  | true =>
      have hknown : assistant.updates.shouldPrompt
          (checkForUpdates u environment.settings environment.git).remoteSha = false := by
        by_contra hnew
        exact h ⟨hbehind, Bool.not_eq_false _ ▸ hnew⟩
      rw [Update.start_of_known hbehind hknown]
      rfl

theorem sameChat_dispatchInteraction (henvironment : KeepsChat environment) {name : Interaction}
    (h : name = .update → ¬FindsNewVersion u environment assistant) :
    SameChat assistant (dispatchInteraction u environment name request assistant).1 := by
  cases name with
  | timer => exact sameChat_handleDirectRequest henvironment
  | wipe => rfl
  | serviceRestart => exact sameChat_startIfEnabled
  | update => exact sameChat_updateStart (h rfl)
  | reboot => exact sameChat_startIfEnabled

theorem sameChat_dispatchRoute (henvironment : KeepsChat environment) (history : List ChatMessage)
    {decision : RouteDecision}
    (h : decision = .interaction .update → ¬FindsNewVersion u environment assistant) :
    SameChat assistant (dispatchRoute u environment request history assistant decision).1 := by
  cases decision with
  | interaction name =>
      exact sameChat_dispatchInteraction henvironment fun hname => h (congrArg _ hname)
  | tool name args => exact chatLog_execute henvironment name args assistant.server
  | planner => exact henvironment.plan request history assistant.server
  | pending => exact henvironment.plan request history assistant.server
  | direct facts => rfl
  | capabilities => rfl
  | identity => rfl
  | answer => rfl
  | confused => rfl

end Flows

section Pending

variable {u : PyData} {environment : Environment} {request : Request} {assistant : AssistantState}
variable {pending : PendingInteraction} {answer : Reply}

theorem cases_of_handleConfirmation {kind : PendingKind} {reminder : String}
    {rejected confirmed : AssistantState → Reply}
    (h : handleConfirmation u kind reminder rejected confirmed pending request assistant =
      some answer) :
    answer = rejected assistant ∨
      answer = (assistant, .ok (followUpSource request reminder.toList)) ∨
      (pending.kind = kind ∧ isConfirmationMessage u request.message = true ∧
        answer = confirmed assistant) := by
  rw [handleConfirmation] at h
  split at h
  · cases h
  · rename_i hkind
    split at h
    · cases h
      exact .inl rfl
    · split at h
      · cases h
        exact .inr (.inl rfl)
      · rename_i hyes
        cases h
        rw [Bool.not_eq_true', Bool.not_eq_false] at hyes
        exact .inr (.inr ⟨not_not.mp hkind, hyes, rfl⟩)

theorem handleConfirmation_eq_none_iff {kind : PendingKind} {reminder : String}
    {rejected confirmed : AssistantState → Reply} :
    handleConfirmation u kind reminder rejected confirmed pending request assistant = none ↔
      pending.kind ≠ kind := by
  rw [handleConfirmation]
  constructor
  · intro h hkind
    rw [if_neg (not_not.mpr hkind)] at h
    split at h
    · cases h
    · split at h <;> cases h
  · exact fun hkind => if_pos hkind

theorem timer_handlePending_eq_none_iff :
    Timer.handlePending u environment pending request assistant = none ↔
      pending.kind ≠ .timerDuration := by
  rw [Timer.handlePending]
  constructor
  · intro h hkind
    rw [if_neg (not_not.mpr hkind)] at h
    split at h
    · cases h
    · split at h <;> cases h
  · exact fun hkind => if_pos hkind

/-- Every pending interaction that a flow sets is taken by a flow. -/
theorem handlePending_eq_none_iff :
    Orchestrator.handlePending u environment pending request assistant = none ↔
      pending.kind = .presenceCheck := by
  simp only [Orchestrator.handlePending, Option.orElse_eq_or, Option.or_eq_none_iff,
    timer_handlePending_eq_none_iff, Wipe.handlePending, ServiceRestart.handlePending,
    Reboot.handlePending, Update.handlePending, handleConfirmation_eq_none_iff]
  cases pending.kind <;> decide

structure ConfirmsWipe (u : PyData) (request : Request) (assistant : AssistantState) : Prop where
  yes : isConfirmationMessage u request.message = true
  asked : ∃ pending, assistant.pendingOf request.conversationId = some pending ∧
    pending.kind = .wipeConfirmation

theorem sameChat_of_handleConfirmation {kind : PendingKind} {reminder : String}
    {rejected confirmed : AssistantState → Reply}
    (hrejected : SameChat assistant (rejected assistant).1)
    (hconfirmed : SameChat assistant (confirmed assistant).1)
    (h : handleConfirmation u kind reminder rejected confirmed pending request assistant =
      some answer) : SameChat assistant answer.1 := by
  rcases cases_of_handleConfirmation h with rfl | rfl | ⟨-, -, rfl⟩
  · exact hrejected
  · rfl
  · exact hconfirmed

theorem sameChat_timer (henvironment : KeepsChat environment)
    (h : Timer.handlePending u environment pending request assistant = some answer) :
    SameChat assistant answer.1 := by
  rw [Timer.handlePending] at h
  split at h
  · cases h
  · split at h
    · cases h
      rfl
    · split at h
      · cases h
        rfl
      · cases h
        rfl
      · rename_i args _
        cases h
        have hcleared : SameChat (assistant.clearPending request.conversationId)
            (Timer.runTimerRequest u environment request args
              (assistant.clearPending request.conversationId)).1 :=
          sameChat_runTimerRequest henvironment args
        exact hcleared

theorem sameChat_cancelled {facts : String} :
    SameChat assistant (cancelled request facts assistant).1 := rfl

theorem sameChat_schedule {action : Action} {enabled : Bool} {disabledFacts facts : String} :
    SameChat assistant (schedule action enabled disabledFacts facts request assistant).1 := rfl

theorem sameChat_updateRejected :
    SameChat assistant (Update.rejected pending request assistant).1 := by
  simp only [Update.rejected]
  split
  · rfl
  · rfl

theorem sameChat_updateConfirmed {settings : Settings} {git : Git} :
    SameChat assistant (Update.confirmed settings git request assistant).1 := by
  simp only [Update.confirmed]
  split
  · rfl
  · simp only [Update.restartAfterPull]
    split
    · rfl
    · rfl

/-- Only a confirmed wipe changes the stored messages, and its reply is not stored. -/
theorem sameChat_or_wiped (henvironment : KeepsChat environment)
    (hasked : assistant.pendingOf request.conversationId = some pending)
    (h : Orchestrator.handlePending u environment pending request assistant = some answer) :
    SameChat assistant answer.1 ∨
      (ConfirmsWipe u request assistant ∧ answer = Wipe.confirmed request assistant) := by
  simp only [Orchestrator.handlePending, Option.orElse_eq_or, Option.or_eq_some_iff] at h
  rcases h with h | ⟨-, h | ⟨-, h | ⟨-, h | ⟨-, h⟩⟩⟩⟩
  · exact .inl (sameChat_timer henvironment h)
  · rcases cases_of_handleConfirmation h with rfl | rfl | ⟨hkind, hyes, rfl⟩
    · exact .inl rfl
    · exact .inl rfl
    · exact .inr ⟨⟨hyes, pending, hasked, hkind⟩, rfl⟩
  · exact .inl (sameChat_of_handleConfirmation sameChat_cancelled sameChat_schedule h)
  · exact .inl (sameChat_of_handleConfirmation sameChat_cancelled sameChat_schedule h)
  · exact .inl (sameChat_of_handleConfirmation sameChat_updateRejected sameChat_updateConfirmed h)

end Pending

section Routes

variable {u : PyData} {environment : Environment} {request : Request} {assistant : AssistantState}

/-- A request for an update that reaches its flow, where a new version is offered:
nothing is pending that a flow takes. -/
structure OffersUpdate (u : PyData) (environment : Environment) (request : Request)
    (assistant : AssistantState) : Prop where
  fresh : NoTimerRequest u request.message
  route : freshRoute u request.message = .ok (.interaction .update)
  untaken : ∀ pending, assistant.pendingOf request.conversationId = some pending →
    pending.kind = .presenceCheck
  found : FindsNewVersion u environment assistant

theorem of_route {after : AssistantState} {decision : RouteDecision}
    (h : route u request assistant = (after, .ok decision))
    (htool : ∀ name args, decision ≠ .tool name args)
    (hdirect : ∀ facts, decision ≠ .direct facts) :
    after = assistant ∧ NoTimerRequest u request.message ∧
      (assistant.pendingOf request.conversationId = none ∧
          freshRoute u request.message = .ok decision ∨
        (assistant.pendingOf request.conversationId).isSome = true ∧ decision = .pending) := by
  have hdecision : (AgentRouter.decide u request.message request.conversationId
      assistant.server.database assistant.pending).1 = .ok decision := congrArg Prod.snd h
  have hafter : after = { assistant with pending := (AgentRouter.decide u request.message
      request.conversationId assistant.server.database assistant.pending).2 } :=
    congrArg Prod.fst h.symm
  obtain ⟨hfresh, hkept, hcases⟩ := of_decide hdecision htool hdirect
  refine ⟨?_, hfresh, hcases⟩
  rw [hafter, hkept]

theorem of_route_update {after : AssistantState}
    (h : route u request assistant = (after, .ok (.interaction .update))) :
    after = assistant ∧ assistant.pendingOf request.conversationId = none ∧
      NoTimerRequest u request.message ∧
      freshRoute u request.message = .ok (.interaction .update) := by
  obtain ⟨hafter, hfresh, ⟨hnone, hroute⟩ | ⟨-, hpending⟩⟩ := of_route h (by simp) (by simp)
  · exact ⟨hafter, hnone, hfresh, hroute⟩
  · cases hpending

/-- How a message is answered that offers no update. -/
inductive Resolved (u : PyData) (environment : Environment) (request : Request)
    (history : List ChatMessage) (assistant : AssistantState) : Reply → Prop where
  | raised {start : AssistantState} (e : PyError)
      (hstart : Routine request.conversationId assistant start)
      (hserver : start.server = assistant.server) :
      Resolved u environment request history assistant (start, .error e)
  | taken {pending : PendingInteraction} {answer : Reply}
      (hasked : assistant.pendingOf request.conversationId = some pending)
      (hanswer : Orchestrator.handlePending u environment pending request assistant = some answer) :
      Resolved u environment request history assistant answer
  | routed {start : AssistantState} {decision : RouteDecision}
      (hstart : Routine request.conversationId assistant start)
      (hserver : start.server = assistant.server)
      (hnew : decision = .interaction .update → ¬FindsNewVersion u environment start) :
      Resolved u environment request history assistant
        (dispatchRoute u environment request history start decision)

theorem server_route (u : PyData) (request : Request) (assistant : AssistantState) :
    (route u request assistant).1.server = assistant.server := by
  rcases route_fst (u := u) request assistant with h | h
  · rw [h]
  · rw [h, AssistantState.clearPending_server]

theorem resolved_routeAndDispatch (history : List ChatMessage) {start : AssistantState}
    (hstart : Routine request.conversationId assistant start)
    (hserver : start.server = assistant.server) (h : ¬OffersUpdate u environment request start) :
    Resolved u environment request history assistant
      (routeAndDispatch u environment request history start) := by
  have hrouted := hstart.trans (routine_route u request start)
  have hsame := (server_route u request start).trans hserver
  rw [routeAndDispatch]
  split
  · rename_i after e hroute
    rw [hroute] at hrouted hsame
    exact .raised e hrouted hsame
  · rename_i after decision hroute
    rw [hroute] at hrouted hsame
    refine .routed hrouted hsame ?_
    rintro rfl hfound
    obtain ⟨rfl, hpending, hnone, hfresh⟩ := of_route_update hroute
    refine h ⟨hnone, hfresh, fun pending hp => ?_, hfound⟩
    rw [hpending] at hp
    cases hp

theorem resolved_resolveSource (h : ¬OffersUpdate u environment request assistant)
    (history : List ChatMessage) :
    Resolved u environment request history assistant
      (resolveSource u environment request history assistant) := by
  have hdirect : Resolved u environment request history assistant
      (routeAndDispatch u environment request history assistant) :=
    resolved_routeAndDispatch history .refl rfl h
  have hreroute (huntaken : ∀ pending, assistant.pendingOf request.conversationId = some pending →
      pending.kind = .presenceCheck) : Resolved u environment request history assistant
        (routeAndDispatch u environment request history
          (assistant.clearPending request.conversationId)) :=
    resolved_routeAndDispatch history Routine.refl.clearPending rfl
      fun hoffers => h ⟨hoffers.fresh, hoffers.route, huntaken, hoffers.found⟩
  rw [routeAndDispatch] at hdirect
  rw [resolveSource]
  rcases hroute : route u request assistant with ⟨after, e | decision⟩
  · rwa [hroute] at hdirect
  rw [hroute] at hdirect
  by_cases hdecision : decision = .pending
  · subst hdecision
    obtain ⟨rfl, -⟩ := of_route hroute (by simp) (by simp)
    dsimp only
    cases hpending : after.pendingOf request.conversationId with
    | none => exact hreroute (by simp [hpending])
    | some pending =>
        rw [Option.bind_some]
        cases hanswer : Orchestrator.handlePending u environment pending request after with
        | none =>
            refine hreroute fun other hother => ?_
            obtain rfl := Option.some.inj (hpending.symm.trans hother)
            exact handlePending_eq_none_iff.mp hanswer
        | some answer => exact .taken hpending hanswer
  · split
    · rename_i heq
      cases heq
    · rename_i heq
      cases heq
      exact absurd rfl hdecision
    · rename_i heq
      cases heq
      exact hdirect

theorem route_untaken {pending : PendingInteraction}
    (hroute : timerRoute u request.message assistant.server.database = .ok none)
    (hpending : assistant.pendingOf request.conversationId = some pending) :
    route u request assistant = (assistant, .ok .pending) := by
  rw [route, decide_of_pending hroute hpending]

theorem resolveSource_of_offersUpdate (h : OffersUpdate u environment request assistant)
    (history : List ChatMessage) :
    ∃ start : AssistantState, SameChat assistant start ∧ start.updates = assistant.updates ∧
      start.pendingOf request.conversationId = none ∧
      resolveSource u environment request history assistant =
        Update.start u environment.settings environment.git request start := by
  have hroute {state : AssistantState} (hnone : state.pendingOf request.conversationId = none) :
      route u request state = (state, .ok (.interaction .update)) := by
    rw [route, decide_of_fresh (timerRoute_of_noTimerRequest h.fresh _) hnone, h.route]
  cases hpending : assistant.pendingOf request.conversationId with
  | none =>
      refine ⟨assistant, rfl, rfl, hpending, ?_⟩
      rw [resolveSource, hroute hpending]
      rfl
  | some pending =>
      have htimer := timerRoute_of_noTimerRequest h.fresh assistant.server.database
      have huntaken :
          Orchestrator.handlePending u environment pending request assistant = none :=
        handlePending_eq_none_iff.mpr (h.untaken pending hpending)
      have hcleared := AssistantState.pendingOf_clearPending assistant request.conversationId
      refine ⟨assistant.clearPending request.conversationId, rfl, rfl, hcleared, ?_⟩
      rw [resolveSource, route_untaken htimer hpending]
      simp only [hpending, Option.bind_some, huntaken, Option.getD_none]
      rw [routeAndDispatch, hroute hcleared]
      rfl

theorem exists_prompt_of_offersUpdate (h : OffersUpdate u environment request assistant)
    (history : List ChatMessage) :
    ∃ (prompt : ChatMessage) (source : ResponseSource), source.persist = true ∧
      prompt.conversationId = request.conversationId ∧ prompt.role = "assistant" ∧
      prompt.content = Update.formatUpdateConfirmationPrompt
        (checkForUpdates u environment.settings environment.git).commitsBehind ∧
      (resolveSource u environment request history assistant).2 = .ok source ∧
      chatLog (resolveSource u environment request history assistant).1.server =
        chatLog assistant.server ++ [prompt] := by
  obtain ⟨start, hsame, hupdates, hnone, hresolve⟩ := resolveSource_of_offersUpdate h history
  obtain ⟨hbehind, hnew⟩ := h.found
  rw [← hupdates] at hnew
  rw [hresolve, Update.start_of_new hbehind hnew]
  obtain ⟨prompt, hconversation, hrole, hcontent, hprompt⟩ := exists_chatLog_addChatMessage
    request.conversationId "assistant" (Update.formatUpdateConfirmationPrompt
      (checkForUpdates u environment.settings environment.git).commitsBehind) start.server
  refine ⟨prompt, _, rfl, hconversation, hrole, hcontent, rfl, ?_⟩
  rw [← hsame, ← hprompt, Update.offerUpdate]
  have hsha := ne_nil_of_shouldPrompt hnew
  rw [if_neg (by simp [hbehind, hsha]), if_neg (by simp [hnone])]
  rfl

/-- Every other message leaves the stored ones alone or confirms a wipe. -/
theorem sameChat_resolveSource (henvironment : KeepsChat environment)
    (h : ¬OffersUpdate u environment request assistant) (history : List ChatMessage) :
    SameChat assistant (resolveSource u environment request history assistant).1 ∨
      (ConfirmsWipe u request assistant ∧
        resolveSource u environment request history assistant =
          Wipe.confirmed request assistant) := by
  have hresolved := resolved_resolveSource h history
  generalize resolveSource u environment request history assistant = answer at hresolved
  cases hresolved with
  | raised e hstart hserver => exact .inl (congrArg chatLog hserver)
  | taken hasked hanswer => exact sameChat_or_wiped henvironment hasked hanswer
  | routed hstart hserver hnew =>
      exact .inl ((sameChat_dispatchRoute henvironment history hnew).trans
        (congrArg chatLog hserver))

end Routes

def Appends (u : PyData) (request : Request) (before after : List ChatMessage)
    (result : Except PyError (Text × Bool)) : Prop :=
  ∃ asked answered : Option ChatMessage, after = before ++ asked.toList ++ answered.toList ∧
    (∀ message ∈ asked, message.conversationId = request.conversationId ∧
      message.role = "user" ∧ message.content = request.message ∧
      isSilentUiCommand u request.message = .ok false) ∧
    ∀ message ∈ answered, message.role = "assistant" ∧
      ∃ speak, result = .ok (message.content, speak)

/-- The stored messages stay, unless a wipe is confirmed, and at most the user's
message and the reply are new. -/
def ChatFrame (u : PyData) (environment : Environment) (request : Request)
    (assistant : AssistantState) : Prop :=
  let (after, result) := respond u environment request assistant
  Appends u request (chatLog assistant.server) (chatLog after.server) result ∨
    ConfirmsWipe u request assistant ∧ Appends u request [] (chatLog after.server) result

section Respond

variable {u : PyData} {environment : Environment} {request : Request} {assistant : AssistantState}

theorem exists_answered (environment : Environment) (resolved : Reply) :
    ∃ answered : Option ChatMessage,
      chatLog (reply environment resolved).1.server =
        chatLog resolved.1.server ++ answered.toList ∧
      (∀ message ∈ answered, message.role = "assistant" ∧
        ∃ speak, (reply environment resolved).2 = .ok (message.content, speak)) ∧
      ∀ source, resolved.2 = .ok source → source.persist = false → answered = none := by
  obtain ⟨after, e | source⟩ := resolved
  · exact ⟨none, (List.append_nil _).symm, nofun, fun _ _ _ => rfl⟩
  · rw [reply, finalizeResponse]
    cases environment.compose source with
    | error e => exact ⟨none, (List.append_nil _).symm, nofun, fun _ _ _ => rfl⟩
    | ok content =>
        cases hpersist : source.persist with
        | false => exact ⟨none, (List.append_nil _).symm, nofun, fun _ _ _ => rfl⟩
        | true =>
            obtain ⟨message, -, hrole, hcontent, hlog⟩ := exists_chatLog_addChatMessage
              source.conversationId "assistant" content after.server
            refine ⟨some message, hlog, ?_, ?_⟩
            · rintro _ ⟨⟩
              exact ⟨hrole, source.speak, by rw [hcontent]⟩
            · rintro other hother hsilent
              obtain rfl := Except.ok.inj hother
              rw [hpersist] at hsilent
              cases hsilent

theorem exists_asked (assistant : AssistantState) {silent : Bool}
    (hsilent : isSilentUiCommand u request.message = .ok silent) :
    ∃ asked : Option ChatMessage,
      chatLog (if silent then assistant else storeUserMessage request assistant).server =
        chatLog assistant.server ++ asked.toList ∧
      ∀ message ∈ asked, message.conversationId = request.conversationId ∧
        message.role = "user" ∧ message.content = request.message ∧
        isSilentUiCommand u request.message = .ok false := by
  cases silent with
  | true => exact ⟨none, (List.append_nil _).symm, nofun⟩
  | false =>
      obtain ⟨message, hconversation, hrole, hcontent, hlog⟩ := exists_chatLog_addChatMessage
        request.conversationId "user" request.message assistant.server
      refine ⟨some message, hlog, ?_⟩
      rintro _ ⟨⟩
      exact ⟨hconversation, hrole, hcontent, hsilent⟩

theorem offersUpdate_ite (silent : Bool) :
    OffersUpdate u environment request
        (if silent then assistant else storeUserMessage request assistant) ↔
      OffersUpdate u environment request assistant := by
  cases silent with
  | true => exact Iff.rfl
  | false => exact ⟨fun ⟨a, b, c, d⟩ => ⟨a, b, c, d⟩, fun ⟨a, b, c, d⟩ => ⟨a, b, c, d⟩⟩

/-- Every message keeps to the frame that does not offer an update. -/
theorem chatFrame_of_not_offersUpdate (henvironment : KeepsChat environment)
    (h : ¬OffersUpdate u environment request assistant) :
    ChatFrame u environment request assistant := by
  rw [ChatFrame, respond]
  rcases hsilent : isSilentUiCommand u request.message with e | silent
  · exact .inl ⟨none, none, by simp, by simp, by simp⟩
  · obtain ⟨asked, hasked, hmessage⟩ := exists_asked assistant hsilent
    rw [← offersUpdate_ite silent] at h
    dsimp only
    generalize hstored : (if silent then assistant else storeUserMessage request assistant) = stored
      at hasked h
    have hresolved := sameChat_resolveSource henvironment h (history environment request stored)
    generalize resolveSource u environment request (history environment request stored) stored =
      resolved at hresolved ⊢
    obtain ⟨answered, hlog, hreply, hpersist⟩ := exists_answered environment resolved
    rcases hresolved with hsame | ⟨hwipe, rfl⟩
    · refine .inl ⟨asked, answered, ?_, hmessage, hreply⟩
      rw [hlog, hsame, hasked]
    · obtain rfl := hpersist _ rfl rfl
      refine .inr ⟨⟨hwipe.yes, ?_⟩, none, none, ?_, by simp, by simp⟩
      · obtain ⟨pending, hpending, hkind⟩ := hwipe.asked
        refine ⟨pending, ?_, hkind⟩
        rw [← hpending, ← hstored]
        cases silent <;> rfl
      · rw [hlog]
        exact congrArg (Table.rows · ++ [])
          (Table.eraseAll_keys stored.server.database.chatMessages)

theorem not_chatFrame_of_offersUpdate (h : OffersUpdate u environment request assistant) :
    ¬ChatFrame u environment request assistant := by
  have hsilent := isSilentUiCommand_of_noTimerRequest h.fresh
  obtain ⟨asked, -, -, -, hasked⟩ := exists_chatLog_addChatMessage request.conversationId "user"
    request.message assistant.server
  have hstored : OffersUpdate u environment request (storeUserMessage request assistant) :=
    (offersUpdate_ite false).mpr h
  obtain ⟨prompt, source, hpersist, -, -, -, hsource, hprompt⟩ :=
    exists_prompt_of_offersUpdate hstored
      (history environment request (storeUserMessage request assistant))
  have hrespond : respond u environment request assistant = reply environment
      (resolveSource u environment request (history environment request
        (storeUserMessage request assistant)) (storeUserMessage request assistant)) := by
    rw [respond, hsilent]
    rfl
  rw [ChatFrame, hrespond]
  generalize resolveSource u environment request (history environment request
    (storeUserMessage request assistant)) (storeUserMessage request assistant) = resolved
    at hsource hprompt
  have hlog : chatLog resolved.1.server = chatLog assistant.server ++ [asked] ++ [prompt] :=
    hprompt.trans (congrArg (· ++ [prompt]) hasked)
  rintro (⟨asked', answered', hframe, -, hanswered⟩ | ⟨hwipe, -⟩)
  · rw [List.append_assoc] at hframe
    obtain ⟨after, result⟩ := resolved
    obtain rfl : result = .ok source := hsource
    cases hcompose : environment.compose source with
    | error e =>
        simp only [finalizeResponse, hcompose] at hframe hanswered
        have hnone : answered' = none := by
          refine Option.eq_none_iff_forall_not_mem.mpr fun message hmem => ?_
          obtain ⟨-, speak, hresult⟩ := hanswered message hmem
          cases hresult
        have hlength := congrArg List.length (hlog.symm.trans hframe)
        rw [hnone] at hlength
        cases asked' <;> simp at hlength
    | ok content =>
        simp only [finalizeResponse, hcompose, hpersist, if_true] at hframe
        obtain ⟨message, -, -, -, hmessage⟩ := exists_chatLog_addChatMessage
          source.conversationId "assistant" content after.server
        have hlength := congrArg List.length (hmessage.symm.trans hframe)
        rw [hlog] at hlength
        cases asked' <;> cases answered' <;> simp at hlength
  · obtain ⟨pending, hpending, hkind⟩ := hwipe.asked
    rw [h.untaken pending hpending] at hkind
    cases hkind

/-- A message keeps to the frame unless it offers an update. -/
theorem chatFrame_iff (henvironment : KeepsChat environment) :
    ChatFrame u environment request assistant ↔ ¬OffersUpdate u environment request assistant := by
  constructor
  · exact fun hframe hoffers => not_chatFrame_of_offersUpdate hoffers hframe
  · exact chatFrame_of_not_offersUpdate henvironment

end Respond

def planWith (u : PyData) (environment : Environment) (readFloat : ReadFloat)
    (complete : List PromptMessage → Text)
    (handler : String → JsonObject → Server → Server × Except PyError Text)
    (buildMessages : List ChatMessage → Text → List PromptMessage) (request : Request)
    (history : List ChatMessage) (server : Server) : Server × Except PyError ResponseSource :=
  let parts : Planner.Parts Server :=
    { readFloat, complete := fun prompt server => (server, complete prompt), handler
      describe := environment.describe }
  (Planner.run u listTools parts request.message (buildMessages history request.message)
    server).result request environment.confusedResponse

theorem chatLog_planWith {u : PyData} {environment : Environment} {readFloat : ReadFloat}
    {complete : List PromptMessage → Text}
    {handler : String → JsonObject → Server → Server × Except PyError Text}
    {buildMessages : List ChatMessage → Text → List PromptMessage}
    (hhandler : ∀ name args server, chatLog (handler name args server).1 = chatLog server)
    (request : Request) (history : List ChatMessage) (server : Server) :
    chatLog (planWith u environment readFloat complete handler buildMessages request history
      server).1 = chatLog server := by
  have hworld := world_run u listTools
    { readFloat, complete := fun prompt server => (server, complete prompt), handler
      describe := environment.describe }
    request.message (buildMessages history request.message) server
    (P := fun w => chatLog w = chatLog server)
    (fun _ _ h => h) (fun name args w h => (hhandler name args w).trans h) rfl
  rw [planWith]
  generalize Planner.run u listTools _ request.message _ server = outcome at hworld
  cases outcome with
  | goesOn s => exact hworld
  | ends s ending => exact hworld
  | raises s e => exact hworld

/-- A planner whose model says nothing and whose tools all fail. -/
def planning : Environment :=
  { Environment.offline {} with
    plan := planWith .ascii (.offline {}) (fun _ => .zero) (fun _ => [])
      (fun _ _ server => (server, .error (.toolError "offline".toList))) (fun _ _ => []) }

theorem keepsChat_planning : KeepsChat planning where
  runOtherTool _ _ _ := rfl
  plan := chatLog_planWith fun _ _ _ => rfl

theorem chatFrame_weather : ChatFrame .ascii planning
    ⟨"default", "what is the weather in paris".toList⟩ (sessionStart {} (oneBehind "bbb")) := by
  -- there is no git, so no version is found
  have hnothing : (checkForUpdates .ascii planning.settings planning.git).behind = false := by
    decide +kernel
  rw [chatFrame_iff keepsChat_planning]
  intro hoffers
  exact Bool.false_ne_true (hnothing.symm.trans hoffers.found.1)

/-- A version that is new since the start of the service. -/
theorem not_chatFrame_new_version :
    ¬ChatFrame .ascii (withGit (oneBehind "ccc")) updateRequest
      (sessionStart {} (oneBehind "bbb")) := by
  have hroute : timerRoute .ascii updateRequest.message .empty = .ok none := by decide +kernel
  have hfresh : freshRoute .ascii updateRequest.message = .ok (.interaction .update) := by
    decide +kernel
  have hfound : FindsNewVersion .ascii (withGit (oneBehind "ccc"))
      (sessionStart {} (oneBehind "bbb")) := ⟨by decide +kernel, by decide +kernel⟩
  have hnone (pending : PendingInteraction)
      (h : (sessionStart {} (oneBehind "bbb")).pendingOf "default" = some pending) :
      pending.kind = .presenceCheck := by
    cases h
  exact not_chatFrame_of_offersUpdate
    ⟨noTimerRequest_of_timerRoute hroute, hfresh, hnone, hfound⟩

end NanoCore.Assistant.ChatLog
