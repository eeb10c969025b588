import NanoCore.Assistant.Confirmations

namespace NanoCore.Assistant.UpdatePrompts

open NanoCore.Foundation.PythonDatetime
open NanoCore.Foundation.PythonText
open NanoCore.Foundation.Runs
open NanoCore.Assistant.AgentRouter
open NanoCore.Assistant.Confirmations
open NanoCore.Assistant.Flows
open NanoCore.Assistant.Flows.Confirmation
open NanoCore.Assistant.Orchestrator
open NanoCore.Assistant.Pending
open NanoCore.Assistant.Rules.Messages
open NanoCore.Assistant.Sources
open NanoCore.Assistant.State
open NanoCore.Config
open NanoCore.Deploy.Update
open NanoCore.Deploy.UpdateState
open NanoCore.Runtime.State
open NanoCore.Timers.Parsing

structure ReachesStart (u : PyData) (request : Request) (assistant : AssistantState) : Prop where
  pending : assistant.pendingOf request.conversationId = none
  decision : (AgentRouter.decide u request.message request.conversationId
    assistant.server.database assistant.pending).1 = .ok (.interaction .update)

/-- The conversation waits for the answer to the update of a remote version, and
the next confirmation there is handled as that answer. -/
structure AwaitsUpdate (u : PyData) (c : String) (remoteSha : Text)
    (assistant : AssistantState) : Prop where
  pending : ∃ p, assistant.pendingOf c = some p ∧ p.kind = .updateConfirmation ∧
    Update.pendingRemoteSha p = remoteSha
  next : ∀ request environment, request.conversationId = c →
    isConfirmationMessage u request.message = true →
    respond u environment request assistant = reply environment
      (Update.confirmed environment.settings environment.git request
        (storeUserMessage request assistant))

/-- If the flow answers `request` with the prompt for an available version, the
conversation awaits the answer to that prompt afterwards. -/
def Answerable (u : PyData) (environment : Environment) (request : Request)
    (before after : AssistantState) : Prop :=
  let result := checkForUpdates u environment.settings environment.git
  ∀ source, (Update.start u environment.settings environment.git request
      (storeUserMessage request before)).2 = .ok source →
    source.facts = Update.formatUpdateConfirmationPrompt result.commitsBehind →
    AwaitsUpdate u request.conversationId result.remoteSha after

def NothingOrNew (u : PyData) (environment : Environment) (assistant : AssistantState) : Prop :=
  let result := checkForUpdates u environment.settings environment.git
  result.behind = false ∨ assistant.updates.shouldPrompt result.remoteSha = true

variable {u : PyData} {environment : Environment} {request : Request} {assistant : AssistantState}

theorem fresh_of_reachesStart (h : ReachesStart u request assistant) :
    NoTimerRequest u request.message ∧
      freshRoute u request.message = .ok (.interaction .update) := by
  obtain ⟨hfresh, -, ⟨-, hroute⟩ | ⟨-, hpending⟩⟩ := of_decide h.decision (by simp) (by simp)
  · exact ⟨hfresh, hroute⟩
  · cases hpending

theorem isSilentUiCommand_of_noTimerRequest {message : Text} (h : NoTimerRequest u message) :
    isSilentUiCommand u message = .ok false := by
  unfold isSilentUiCommand isSilentRenameCommand isTimerRenameRequest isStopwatchRenameRequest
    isSilentTimerCancelCommand isSilentStopwatchStopCommand
  rw [h.renameTimer, h.renameStopwatch, h.cancelById, h.stopById]
  rfl

theorem respond_of_reachesStart (h : ReachesStart u request assistant) :
    respond u environment request assistant =
      reply environment (Update.start u environment.settings environment.git request
        (storeUserMessage request assistant)) := by
  obtain ⟨hnone, hfresh⟩ := fresh_of_reachesStart h
  rw [respond, isSilentUiCommand_of_noTimerRequest hnone]
  simp only [Bool.false_eq_true, if_false]
  generalize history environment request (storeUserMessage request assistant) = seen
  have hpending : (storeUserMessage request assistant).pendingOf request.conversationId = none :=
    h.pending
  have hroute : route u request (storeUserMessage request assistant) =
      (storeUserMessage request assistant, .ok (.interaction .update)) := by
    rw [route, decide_of_fresh (timerRoute_of_noTimerRequest hnone _) hpending, hfresh]
  rw [resolveSource, hroute]
  rfl

theorem awaitsUpdate_of_pending {c : String} {remoteSha : Text} {p : PendingInteraction}
    (hp : assistant.pendingOf c = some p) (hkind : p.kind = .updateConfirmation)
    (hsha : Update.pendingRemoteSha p = remoteSha) : AwaitsUpdate u c remoteSha assistant where
  pending := ⟨p, hp, hkind, hsha⟩
  next request environment hc hyes := by
    apply respond_of_isConfirmationMessage hyes
    · rw [hc]
      exact hp
    · exact handlePending_of_updateConfirmation hyes hkind

section Start

variable {settings : Settings} {git : Git} {result : UpdateCheckResult}

theorem ne_nil_of_shouldPrompt {remoteSha : Text} {store : UpdateStore}
    (h : store.shouldPrompt remoteSha = true) : remoteSha ≠ [] :=
  (UpdateStore.shouldPrompt_iff.mp h).1

theorem prompt_ne_upToDate (commitsBehind : Int) :
    Update.updateUpToDateMessage ≠ Update.formatUpdateConfirmationPrompt commitsBehind := by
  intro h
  have hfirst : Update.updateUpToDateMessage.head? = some 'I' := by decide +kernel
  have hprompt : "A new version is available on GitHub (".toList.head? = some 'A' := by
    decide +kernel
  rw [h, Update.formatUpdateConfirmationPrompt] at hfirst
  simp only [String.toList_append, List.head?_append, hprompt, Option.some_or] at hfirst
  exact absurd hfirst (by decide)

theorem pendingOf_offerUpdate {c : String} (hbehind : result.behind = true)
    (hsha : result.remoteSha ≠ []) (hidle : assistant.pendingOf c = none) :
    (Update.offerUpdate result c assistant).pendingOf c =
      some (Update.updateInteraction result c) := by
  have hpending := AssistantState.pendingOf_setPending
    (assistant.onUpdates (assistant.updates.markPromptOffered result.remoteSha))
    (Update.updateInteraction result c)
  rw [Update.offerUpdate]
  simp only [hbehind, hsha, hidle, Bool.not_true, Bool.false_eq_true, if_false,
    Option.isSome_none]
  exact hpending

/-- A known version is prompted for, but no answer is awaited. -/
theorem not_answerable_of_known {after : AssistantState}
    (hidle : assistant.pendingOf request.conversationId = none)
    (hafter : after.pendingOf request.conversationId =
      (Update.start u environment.settings environment.git request
        (storeUserMessage request assistant)).1.pendingOf request.conversationId)
    (hbehind : (checkForUpdates u environment.settings environment.git).behind = true)
    (hknown : assistant.updates.shouldPrompt
      (checkForUpdates u environment.settings environment.git).remoteSha = false) :
    ¬Answerable u environment request assistant after := by
  have hstart : Update.start u environment.settings environment.git request
      (storeUserMessage request assistant) = _ := Update.start_of_known hbehind hknown
  intro hanswerable
  rw [Answerable, hstart] at hanswerable
  rw [hstart] at hafter
  have hawaits := hanswerable _ rfl (facts_answerSource request _)
  obtain ⟨p, hp, -⟩ := hawaits.pending
  rw [hp] at hafter
  exact nomatch hafter.trans hidle

theorem awaitsUpdate_of_new {after : AssistantState}
    (hidle : assistant.pendingOf request.conversationId = none)
    (hafter : after.pendingOf request.conversationId =
      (Update.start u environment.settings environment.git request
        (storeUserMessage request assistant)).1.pendingOf request.conversationId)
    (hbehind : (checkForUpdates u environment.settings environment.git).behind = true)
    (hnew : assistant.updates.shouldPrompt
      (checkForUpdates u environment.settings environment.git).remoteSha = true) :
    AwaitsUpdate u request.conversationId
      (checkForUpdates u environment.settings environment.git).remoteSha after := by
  have hstart : Update.start u environment.settings environment.git request
      (storeUserMessage request assistant) = _ := Update.start_of_new hbehind hnew
  rw [hstart] at hafter
  apply awaitsUpdate_of_pending
  · rw [hafter]
    apply pendingOf_offerUpdate hbehind (ne_nil_of_shouldPrompt hnew)
    exact hidle
  · rfl
  · rfl

theorem answerable_iff_of_start {after : AssistantState}
    (hidle : assistant.pendingOf request.conversationId = none)
    (hafter : after.pendingOf request.conversationId =
      (Update.start u environment.settings environment.git request
        (storeUserMessage request assistant)).1.pendingOf request.conversationId) :
    Answerable u environment request assistant after ↔ NothingOrNew u environment assistant := by
  simp only [NothingOrNew]
  cases hbehind : (checkForUpdates u environment.settings environment.git).behind with
  | false =>
      refine ⟨fun _ => Or.inl rfl, fun _ source hsource hfacts => ?_⟩
      rw [Update.start_of_not_behind hbehind] at hsource
      cases hsource
      exact absurd hfacts (prompt_ne_upToDate _)
  | true =>
      cases hprompt : assistant.updates.shouldPrompt
          (checkForUpdates u environment.settings environment.git).remoteSha with
      | false =>
          constructor
          · intro hanswerable
            exact absurd hanswerable (not_answerable_of_known hidle hafter hbehind hprompt)
          · rintro (h | h)
            · exact nomatch h
            · exact nomatch h
      | true =>
          refine ⟨fun _ => Or.inr rfl, fun _ source _ _ => ?_⟩
          exact awaitsUpdate_of_new hidle hafter hbehind hprompt

end Start

theorem answerable_iff (u : PyData) (init : AssistantState) (events : List Event) (k : Nat)
    (request : Request) (environment : Environment)
    (hevent : events[k]? = some (.message request environment))
    (hreaches : ReachesStart u request (stateAt (step u) init events k)) :
    Answerable u environment request (stateAt (step u) init events k)
        (stateAt (step u) init events (k + 1)) ↔
      NothingOrNew u environment (stateAt (step u) init events k) := by
  apply answerable_iff_of_start hreaches.pending
  rw [stateAt_succ hevent, step, respond_of_reachesStart hreaches, pendingOf_reply]

def sessionStart (settings : Settings) (git : Git) : AssistantState :=
  let idle := AssistantState.initial (.initial (.stopped 0))
  idle.onUpdates (recordSessionBaseline .ascii settings git idle.updates)

def oneBehind (remoteSha : String) : Git where
  run args := .ok (
    if args = ["rev-parse".toList, "HEAD".toList] then { stdout := "aaa".toList }
    else if args.head? = some "rev-parse".toList then { stdout := remoteSha.toList }
    else if args.head? = some "rev-list".toList then { stdout := "1".toList }
    else {})
  badNumber _ := []

def withGit (git : Git) : Environment := { Environment.offline {} with git := git }

def updateRequest : Request := ⟨"default", "check for updates".toList⟩

def askForUpdates (git : Git) : List Event := [.message updateRequest (withGit git)]

/-- A new version appears after the start of the service. -/
theorem answerable_new_version :
    Answerable .ascii (withGit (oneBehind "ccc")) updateRequest
      (stateAt (step .ascii) (sessionStart {} (oneBehind "bbb"))
        (askForUpdates (oneBehind "ccc")) 0)
      (stateAt (step .ascii) (sessionStart {} (oneBehind "bbb"))
        (askForUpdates (oneBehind "ccc")) (0 + 1)) :=
  (answerable_iff .ascii _ (askForUpdates (oneBehind "ccc")) 0 updateRequest
    (withGit (oneBehind "ccc")) rfl ⟨rfl, by decide +kernel⟩).mpr (Or.inr (by decide +kernel))

/-- The version that was there at the start of the service is prompted for in
vain. -/
theorem not_answerable_at_session_start :
    ¬ ∀ (events : List Event) (k : Nat) (request : Request) (environment : Environment),
      events[k]? = some (.message request environment) →
      ReachesStart .ascii request
        (stateAt (step .ascii) (sessionStart {} (oneBehind "bbb")) events k) →
      Answerable .ascii environment request
        (stateAt (step .ascii) (sessionStart {} (oneBehind "bbb")) events k)
        (stateAt (step .ascii) (sessionStart {} (oneBehind "bbb")) events (k + 1)) := by
  intro h
  have hanswerable := h (askForUpdates (oneBehind "bbb")) 0 updateRequest
    (withGit (oneBehind "bbb")) rfl ⟨rfl, by decide +kernel⟩
  obtain ⟨p, hp, -⟩ := (hanswerable _ rfl (by decide +kernel)).pending
  have hnone : (stateAt (step .ascii) (sessionStart {} (oneBehind "bbb"))
      (askForUpdates (oneBehind "bbb")) (0 + 1)).pendingOf updateRequest.conversationId =
        none := by
    decide +kernel
  rw [hnone] at hp
  cases hp

end NanoCore.Assistant.UpdatePrompts
