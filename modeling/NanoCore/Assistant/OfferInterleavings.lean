import NanoCore.Assistant.ChatLog

/-!
The scheduler's offer of an update while a message of the same conversation is
handled.  A step of either is one access to the pending interactions, or the
work between two of them.
-/

namespace NanoCore.Assistant.OfferInterleavings

open NanoCore.Foundation.PythonText
open NanoCore.Foundation.Runs
open NanoCore.Assistant.AgentRouter
open NanoCore.Assistant.ChatLog
open NanoCore.Assistant.Confirmations
open NanoCore.Assistant.Flows
open NanoCore.Assistant.Flows.Confirmation
open NanoCore.Assistant.Orchestrator
open NanoCore.Assistant.Pending
open NanoCore.Assistant.Rules.Messages
open NanoCore.Assistant.Rules.Replies
open NanoCore.Assistant.Sources
open NanoCore.Assistant.State
open NanoCore.Assistant.UpdatePrompts
open NanoCore.Common.Duration
open NanoCore.Config
open NanoCore.Deploy.Update
open NanoCore.Memory.Models
open NanoCore.Memory.Repository
open NanoCore.Timers.Parsing

/-- What `check_for_available_updates` does next. -/
inductive OfferStage where
  | check
  | readPending (result : UpdateCheckResult)
  | markOffered (result : UpdateCheckResult)
  | setPending (result : UpdateCheckResult)
  | storePrompt (result : UpdateCheckResult)
  | done
  deriving DecidableEq, Repr

/-- What `respond` does next; `history` is what it has read of the conversation. -/
inductive RespondStage where
  | receive
  | decide (history : List ChatMessage)
  | readPending (history : List ChatMessage)
  | handlePending (history : List ChatMessage) (pending : PendingInteraction)
  | startTimer (args : PyDict)
  | clearPending (history : List ChatMessage)
  | decideAgain (history : List ChatMessage)
  | dispatch (history : List ChatMessage) (decision : RouteDecision)
  /-- The call has returned, with the question that it has set. -/
  | done (asked : Option PendingInteraction)
  deriving DecidableEq, Repr

structure Race where
  assistant : AssistantState
  offer : OfferStage
  respond : RespondStage

inductive Turn where
  | offer
  | respond
  deriving DecidableEq, Repr

section Steps

variable (u : PyData) (settings : Settings) (git : Git)

def actOffer (assistant : AssistantState) : OfferStage → AssistantState × OfferStage
  | .check =>
      if !settings.updateCheckEnabled then (assistant, .done)
      else
        let result := checkForUpdates u settings git
        let recorded := assistant.onUpdates (assistant.updates.recordCheck result)
        (recorded,
          if !result.behind then .done
          else if !recorded.updates.shouldPrompt result.remoteSha then .done
          else .readPending result)
  | .readPending result =>
      (assistant,
        if (assistant.pendingOf Update.defaultUpdateConversationId).isSome then .done
        else .markOffered result)
  | .markOffered result =>
      (assistant.onUpdates (assistant.updates.markPromptOffered result.remoteSha),
        .setPending result)
  | .setPending result =>
      (assistant.setPending
        (Update.updateInteraction result Update.defaultUpdateConversationId),
        .storePrompt result)
  | .storePrompt result =>
      (assistant.onServer
        ((addChatMessage Update.defaultUpdateConversationId "assistant"
          (Update.formatUpdateConfirmationPrompt result.commitsBehind) assistant.server).addActivity
            (.announceVoice Update.updateVoicePrompt)),
        .done)
  | .done => (assistant, .done)

variable (request : Request) (environment : Environment)

/-- The question that `ask` sets. -/
def question (kind : PendingKind) : PendingInteraction :=
  ⟨request.conversationId, kind, [("request", .text request.message)]⟩

/-- The question that the wipe, reboot, restart and timer flows set for a request
that starts them. -/
def questionOf : RouteDecision → Option PendingInteraction
  | .interaction .wipe => some (question request .wipeConfirmation)
  | .interaction .reboot =>
      if environment.settings.rebootEnabled then some (question request .rebootConfirmation)
      else none
  | .interaction .serviceRestart =>
      if environment.settings.serviceRestartEnabled then
        some (question request .serviceRestartConfirmation)
      else none
  | .interaction .timer =>
      match needsTimerDuration u request.message, extractDurationArgs u request.message with
      | .ok true, _ => some (question request .timerDuration)
      | .ok false, .ok none => some (question request .timerDuration)
      | _, _ => none
  | _ => none

/-- The duration with which the answer to the timer's question starts it. -/
def timerReply (pending : PendingInteraction) : Option PyDict :=
  if pending.kind ≠ .timerDuration then none
  else if isRejectionMessage u request.message then none
  else
    match Timer.replyDurationArgs u request.message with
    | .ok (some args) => some args
    | _ => none

def actRespond (assistant : AssistantState) : RespondStage → AssistantState × RespondStage
  | .receive =>
      match isSilentUiCommand u request.message with
      | .error _ => (assistant, .done none)
      | .ok silent =>
          let received := if silent then assistant else storeUserMessage request assistant
          (received, .decide (history environment request received))
  | .decide history =>
      match route u request assistant with
      | (routed, .error e) => ((reply environment (routed, .error e)).1, .done none)
      | (routed, .ok .pending) => (routed, .readPending history)
      | (routed, .ok decision) => (routed, .dispatch history decision)
  | .readPending history =>
      (assistant,
        match assistant.pendingOf request.conversationId with
        | none => .clearPending history
        | some pending => .handlePending history pending)
  | .handlePending history pending =>
      match timerReply u request pending with
      | some args => (assistant.clearPending request.conversationId, .startTimer args)
      | none =>
          match Orchestrator.handlePending u environment pending request assistant with
          | none => (assistant, .clearPending history)
          | some answer => ((reply environment answer).1, .done none)
  | .startTimer args =>
      ((reply environment (Timer.runTimerRequest u environment request args assistant)).1,
        .done none)
  | .clearPending history =>
      (assistant.clearPending request.conversationId, .decideAgain history)
  | .decideAgain history =>
      match route u request assistant with
      | (routed, .error e) => ((reply environment (routed, .error e)).1, .done none)
      | (routed, .ok decision) => (routed, .dispatch history decision)
  | .dispatch history decision =>
      ((reply environment (dispatchRoute u environment request history assistant decision)).1,
        .done (questionOf u request environment decision))
  | .done asked => (assistant, .done asked)

def step (race : Race) : Turn → Race
  | .offer =>
      let (assistant, offer) := actOffer u settings git race.assistant race.offer
      { race with assistant, offer }
  | .respond =>
      let (assistant, respond) := actRespond u request environment race.assistant race.respond
      { race with assistant, respond }

def start (assistant : AssistantState) : Race := ⟨assistant, .check, .receive⟩

variable {u settings git request environment} {assistant : AssistantState}
variable {offer : OfferStage} {seen : List ChatMessage}

theorem run_cons {race : Race} {turn : Turn} {turns : List Turn} :
    run (step u settings git request environment) race (turn :: turns) =
      run (step u settings git request environment)
        (step u settings git request environment race turn) turns := rfl

theorem run_done {asked : Option PendingInteraction} (n : Nat) :
    run (step u settings git request environment) ⟨assistant, offer, .done asked⟩
      (List.replicate n .respond) = ⟨assistant, offer, .done asked⟩ := by
  induction n with
  | zero => rfl
  | succ n ih => exact ih

theorem run_dispatch {decision : RouteDecision} (n : Nat) :
    (run (step u settings git request environment) ⟨assistant, offer, .dispatch seen decision⟩
      (List.replicate (n + 1) .respond)).assistant =
        (reply environment (dispatchRoute u environment request seen assistant decision)).1 := by
  rw [List.replicate_succ, run_cons, step, actRespond]
  dsimp only
  rw [run_done]

theorem run_decideAgain (n : Nat) :
    (run (step u settings git request environment) ⟨assistant, offer, .decideAgain seen⟩
      (List.replicate (n + 2) .respond)).assistant =
        (reply environment (routeAndDispatch u environment request seen assistant)).1 := by
  rw [List.replicate_succ, run_cons, step, actRespond, routeAndDispatch]
  rcases route u request assistant with ⟨routed, e | decision⟩
  · dsimp only
    rw [run_done]
  · exact run_dispatch n

theorem run_clearPending (n : Nat) :
    (run (step u settings git request environment) ⟨assistant, offer, .clearPending seen⟩
      (List.replicate (n + 3) .respond)).assistant =
        (reply environment (routeAndDispatch u environment request seen
          (assistant.clearPending request.conversationId))).1 :=
  run_decideAgain n

theorem handlePending_of_timerReply {pending : PendingInteraction} {args : PyDict}
    (h : timerReply u request pending = some args) :
    Orchestrator.handlePending u environment pending request assistant =
      some (Timer.runTimerRequest u environment request args
        (assistant.clearPending request.conversationId)) := by
  unfold timerReply at h
  rw [Orchestrator.handlePending, Timer.handlePending]
  split at h
  · cases h
  · rename_i hkind
    split at h
    · cases h
    · rename_i hrejection
      split at h
      · rename_i heq
        cases h
        rw [if_neg hkind, if_neg hrejection, heq]
        rfl
      · cases h

theorem run_handlePending (pending : PendingInteraction) (n : Nat) :
    (run (step u settings git request environment) ⟨assistant, offer, .handlePending seen pending⟩
      (List.replicate (n + 4) .respond)).assistant =
        (reply environment
          ((Orchestrator.handlePending u environment pending request assistant).getD
            (routeAndDispatch u environment request seen
              (assistant.clearPending request.conversationId)))).1 := by
  rw [List.replicate_succ, run_cons, step, actRespond]
  cases htimer : timerReply u request pending with
  | some args =>
      rw [handlePending_of_timerReply htimer, Option.getD_some]
      rw [List.replicate_succ, run_cons, step, actRespond]
      dsimp only
      rw [run_done]
  | none =>
      dsimp only
      cases hanswer : Orchestrator.handlePending u environment pending request assistant with
      | none => exact run_clearPending n
      | some answer =>
          dsimp only
          rw [run_done, Option.getD_some]

theorem run_readPending (n : Nat) :
    (run (step u settings git request environment) ⟨assistant, offer, .readPending seen⟩
      (List.replicate (n + 5) .respond)).assistant =
        (reply environment (((assistant.pendingOf request.conversationId).bind fun pending =>
          Orchestrator.handlePending u environment pending request assistant).getD
            (routeAndDispatch u environment request seen
              (assistant.clearPending request.conversationId)))).1 := by
  rw [List.replicate_succ, run_cons, step, actRespond]
  cases assistant.pendingOf request.conversationId with
  | none => exact run_clearPending (n + 1)
  | some pending => exact run_handlePending pending n

theorem run_decide (n : Nat) :
    (run (step u settings git request environment) ⟨assistant, offer, .decide seen⟩
      (List.replicate (n + 6) .respond)).assistant =
        (reply environment (resolveSource u environment request seen assistant)).1 := by
  rw [List.replicate_succ, run_cons, step, actRespond, resolveSource]
  rcases route u request assistant with ⟨routed, e | decision⟩
  · dsimp only
    rw [run_done]
  · cases decision with
    | pending => exact run_readPending n
    | _ => exact run_dispatch (n + 4)

/-- A message that is handled while nothing else happens is handled by `respond`. -/
theorem alone_respond (assistant : AssistantState) :
    (run (step u settings git request environment) (start assistant)
      (List.replicate 7 .respond)).assistant = (respond u environment request assistant).1 := by
  rw [List.replicate_succ, run_cons, start, step, actRespond, respond]
  cases isSilentUiCommand u request.message with
  | error e =>
      dsimp only
      rw [run_done]
  | ok silent => exact run_decide 0

theorem run_offerDone {respond : RespondStage} (n : Nat) :
    run (step u settings git request environment) ⟨assistant, .done, respond⟩
      (List.replicate n .offer) = ⟨assistant, .done, respond⟩ := by
  induction n with
  | zero => rfl
  | succ n ih => exact ih

theorem run_offerRead {respond : RespondStage} {result : UpdateCheckResult}
    (hbehind : result.behind = true) (hsha : result.remoteSha ≠ []) :
    (run (step u settings git request environment) ⟨assistant, .readPending result, respond⟩
      (List.replicate 4 .offer)).assistant =
        Update.offerUpdate result Update.defaultUpdateConversationId assistant := by
  have hoffers : ¬(!result.behind || Decidable.decide (result.remoteSha = [])) = true := by
    simp [hbehind, hsha]
  rw [List.replicate_succ, run_cons, step, actOffer, Update.offerUpdate, if_neg hoffers]
  dsimp only
  split
  · rw [run_offerDone]
  · rfl

/-- A check that runs while no message is handled is the scheduler's job. -/
theorem alone_offer (assistant : AssistantState) :
    (run (step u settings git request environment) (start assistant)
      (List.replicate 5 .offer)).assistant =
        Update.checkForAvailableUpdates u settings git assistant := by
  rw [List.replicate_succ, run_cons, start, step, actOffer, Update.checkForAvailableUpdates]
  cases settings.updateCheckEnabled with
  | false =>
      simp only [Bool.not_false, if_true]
      rw [run_offerDone]
  | true =>
      simp only [Bool.not_true, Bool.false_eq_true, if_false]
      split
      · rw [run_offerDone]
      · rename_i hbehind
        split
        · rw [run_offerDone]
        · rename_i hnew
          rw [Bool.not_eq_true', Bool.not_eq_false] at hbehind hnew
          exact run_offerRead hbehind (ne_nil_of_shouldPrompt hnew)

/-- What a yes to a question of `questionOf` calls. -/
def actionsOf : PendingKind → List Action
  | .wipeConfirmation => [.wipeDatabase]
  | .rebootConfirmation => [.scheduleReboot]
  | .serviceRestartConfirmation => [.scheduleServiceRestart]
  | .timerDuration | .updateConfirmation | .presenceCheck => []

/-- The question is still pending, and a yes does what was asked. -/
structure Kept (u : PyData) (p : PendingInteraction) (assistant : AssistantState) : Prop where
  pending : assistant.pendingOf p.conversationId = some p
  yes : ∀ request environment, request.conversationId = p.conversationId →
    isConfirmationMessage u request.message = true →
    (respond u environment request assistant).1.actions = assistant.actions ++ actionsOf p.kind

def IsQuestion (request : Request) (p : PendingInteraction) : Prop :=
  ∃ kind ∈ [PendingKind.wipeConfirmation, .rebootConfirmation, .serviceRestartConfirmation,
    .timerDuration], p = question request kind

theorem kept_of_pending {p : PendingInteraction} (hp : IsQuestion request p)
    (hpending : assistant.pendingOf p.conversationId = some p) : Kept u p assistant where
  pending := hpending
  yes yes environment hc hyes := by
    have hnot := not_isRejectionMessage_of_isConfirmationMessage hyes
    have hasked : assistant.pendingOf yes.conversationId = some p := by rwa [hc]
    obtain ⟨kind, hkind, rfl⟩ := hp
    simp only [List.mem_cons, List.not_mem_nil, or_false] at hkind
    rcases hkind with rfl | rfl | rfl | rfl
    · rw [respond_of_isConfirmationMessage hyes hasked
        (handlePending_of_wipeConfirmation hyes rfl), actions_reply]
      rfl
    · have hanswer : Orchestrator.handlePending u environment
          (question request .rebootConfirmation) yes (storeUserMessage yes assistant) =
            some (Reboot.confirmed environment.settings yes (storeUserMessage yes assistant)) := by
        simp [Orchestrator.handlePending, Timer.handlePending, Wipe.handlePending,
          ServiceRestart.handlePending, Reboot.handlePending, handleConfirmation, question, hnot,
          hyes]
      rw [respond_of_isConfirmationMessage hyes hasked hanswer, actions_reply]
      rfl
    · have hanswer : Orchestrator.handlePending u environment
          (question request .serviceRestartConfirmation) yes (storeUserMessage yes assistant) =
            some (ServiceRestart.confirmed environment.settings yes
              (storeUserMessage yes assistant)) := by
        simp [Orchestrator.handlePending, Timer.handlePending, Wipe.handlePending,
          ServiceRestart.handlePending, handleConfirmation, question, hnot, hyes]
      rw [respond_of_isConfirmationMessage hyes hasked hanswer, actions_reply]
      rfl
    · cases htimer : Timer.handlePending u environment (question request .timerDuration) yes
          (storeUserMessage yes assistant) with
      | none => exact absurd rfl (timer_handlePending_eq_none_iff.mp htimer)
      | some answer =>
          have hanswer : Orchestrator.handlePending u environment
              (question request .timerDuration) yes (storeUserMessage yes assistant) =
                some answer := by
            rw [Orchestrator.handlePending, htimer]
            rfl
          rw [respond_of_isConfirmationMessage hyes hasked hanswer, actions_reply,
            (quiet_of_routine (routine_timer htimer)).actions]
          exact (List.append_nil _).symm

theorem pendingOf_question (kind : PendingKind) :
    (ask kind request assistant).pendingOf request.conversationId =
      some (question request kind) :=
  AssistantState.pendingOf_setPending assistant (question request kind)

theorem pendingOf_startIfEnabled {enabled : Bool} {disabledFacts : String} {kind : PendingKind}
    {action : ConfirmationAction} {p : PendingInteraction}
    (h : (if enabled then some (question request kind) else none) = some p) :
    p = question request kind ∧
      (startIfEnabled enabled disabledFacts kind action request assistant).1.pendingOf
        request.conversationId = some p := by
  cases enabled with
  | false => cases h
  | true =>
      cases h
      exact ⟨rfl, pendingOf_question kind⟩

theorem pendingOf_handleDirectRequest (assistant : AssistantState) {p : PendingInteraction}
    (h : questionOf u request environment (.interaction .timer) = some p) :
    p = question request .timerDuration ∧
      (Timer.handleDirectRequest u environment request assistant).1.pendingOf
        request.conversationId = some p := by
  unfold questionOf at h
  unfold Timer.handleDirectRequest
  revert h
  rcases needsTimerDuration u request.message with e | _ | _
  · rintro ⟨⟩
  · rcases extractDurationArgs u request.message with e | _ | args
    · rintro ⟨⟩
    · rintro ⟨⟩
      exact ⟨rfl, pendingOf_question _⟩
    · rintro ⟨⟩
  · rintro ⟨⟩
    exact ⟨rfl, pendingOf_question _⟩

theorem of_questionOf {decision : RouteDecision} {p : PendingInteraction}
    (h : questionOf u request environment decision = some p) (history : List ChatMessage)
    (assistant : AssistantState) :
    IsQuestion request p ∧ (dispatchRoute u environment request history assistant
      decision).1.pendingOf request.conversationId = some p := by
  cases decision with
  | interaction name =>
      cases name with
      | timer =>
          obtain ⟨hp, hpending⟩ := pendingOf_handleDirectRequest assistant h
          exact ⟨⟨_, by simp, hp⟩, hpending⟩
      | wipe =>
          cases h
          exact ⟨⟨_, by simp, rfl⟩, pendingOf_question _⟩
      | serviceRestart =>
          obtain ⟨hp, hpending⟩ := pendingOf_startIfEnabled h
          exact ⟨⟨_, by simp, hp⟩, hpending⟩
      | reboot =>
          obtain ⟨hp, hpending⟩ := pendingOf_startIfEnabled h
          exact ⟨⟨_, by simp, hp⟩, hpending⟩
      | update => cases h
  | _ => cases h

/-- The question that the message has asked stands. -/
def Stands (u : PyData) (race : Race) : Prop :=
  ∀ p, race.respond = .done (some p) → Kept u p race.assistant

/-- The next step of the message sets the question. -/
def Asks (u : PyData) (request : Request) (environment : Environment) (race : Race)
    (p : PendingInteraction) : Prop :=
  ∃ history decision, race.respond = .dispatch history decision ∧
    questionOf u request environment decision = some p

/-- The scheduler has found no pending interaction and has not yet set its own. -/
def InWindow (race : Race) : Prop :=
  ∃ result, race.offer = .markOffered result ∨ race.offer = .setPending result

section Runs

variable (u settings git request environment)

/-- The message asks at turn `i`, after the scheduler's read and before its set at
turn `j`. -/
structure AsksBetween (race : Race) (turns : List Turn) (i j : Nat) : Prop where
  lt : i < j
  respond : turns[i]? = some .respond
  asks : ∃ p, Asks u request environment
    (stateAt (step u settings git request environment) race turns i) p
  window : InWindow (stateAt (step u settings git request environment) race turns i)
  offer : turns[j]? = some .offer
  sets : ∃ result,
    (stateAt (step u settings git request environment) race turns j).offer = .setPending result

end Runs

variable {race : Race} {turns : List Turn}

theorem actRespond_done_cases {stage : RespondStage} {p : PendingInteraction}
    (h : (actRespond u request environment assistant stage).2 = .done (some p)) :
    stage = .done (some p) ∨ ∃ history decision, stage = .dispatch history decision ∧
      questionOf u request environment decision = some p := by
  cases stage with
  | done asked => exact .inl h
  | dispatch history decision => exact .inr ⟨history, decision, rfl, RespondStage.done.inj h⟩
  | receive =>
      rw [actRespond] at h
      split at h <;> cases h
  | decide history =>
      rw [actRespond] at h
      split at h <;> cases h
  | readPending history =>
      rw [actRespond] at h
      split at h <;> cases h
  | handlePending history pending =>
      rw [actRespond] at h
      split at h
      · cases h
      · split at h <;> cases h
  | startTimer args => cases h
  | clearPending history => cases h
  | decideAgain history =>
      rw [actRespond] at h
      split at h <;> cases h

/-- The step of the scheduler that sets the pending interaction is the only one that
changes it, and comes in the window. -/
theorem actOffer_pending {stage : OfferStage} (c : String)
    (h : ∀ result, stage ≠ .setPending result) :
    (actOffer u settings git assistant stage).1.pendingOf c = assistant.pendingOf c := by
  cases stage with
  | check =>
      rw [actOffer]
      split <;> rfl
  | setPending result => exact absurd rfl (h result)
  | _ => rfl

theorem inWindow_of_step (hpending : race.assistant.pendingOf
      Update.defaultUpdateConversationId ≠ none)
    (h : InWindow (step u settings git request environment race .offer)) : InWindow race := by
  obtain ⟨result, h⟩ := h
  rw [step] at h
  cases hoffer : race.offer with
  | markOffered result' => exact ⟨result', .inl hoffer⟩
  | setPending result' => exact ⟨result', .inr hoffer⟩
  | check =>
      simp only [hoffer, actOffer] at h
      split at h
      · simp at h
      · dsimp only at h
        split at h
        · simp at h
        · split at h <;> simp at h
  | readPending result' =>
      simp only [hoffer, actOffer, if_pos (Option.isSome_iff_ne_none.mpr hpending)] at h
      simp at h
  | storePrompt result' => simp [hoffer, actOffer] at h
  | done => simp [hoffer, actOffer] at h

theorem step_of_done {asked : Option PendingInteraction} (h : race.respond = .done asked) :
    step u settings git request environment race .respond = race := by
  obtain ⟨assistant, offer, respond⟩ := race
  obtain rfl : respond = .done asked := h
  rfl

theorem assistant_step_of_dispatch {history : List ChatMessage} {decision : RouteDecision}
    (h : race.respond = .dispatch history decision) :
    (step u settings git request environment race .respond).assistant =
      (reply environment
        (dispatchRoute u environment request history race.assistant decision)).1 := by
  rw [step, h]
  rfl

/-- The question stands, and if the scheduler is in its window the message asked
there. -/
structure Asked (u : PyData) (settings : Settings) (git : Git) (request : Request)
    (environment : Environment) (race : Race) (turns : List Turn) (k : Nat)
    (p : PendingInteraction) : Prop where
  question : IsQuestion request p
  pending : (stateAt (step u settings git request environment) race turns k).assistant.pendingOf
    request.conversationId = some p
  between : InWindow (stateAt (step u settings git request environment) race turns k) →
    ∃ i, i < k ∧ turns[i]? = some .respond ∧
      (∃ q, Asks u request environment
        (stateAt (step u settings git request environment) race turns i) q) ∧
      InWindow (stateAt (step u settings git request environment) race turns i)

/-- It goes on standing through a turn that leaves it and opens no window. -/
theorem Asked.succ {k : Nat} {p : PendingInteraction}
    (h : Asked u settings git request environment race turns k p)
    (hpending : (stateAt (step u settings git request environment) race turns
      (k + 1)).assistant.pendingOf request.conversationId = some p)
    (hwindow : InWindow (stateAt (step u settings git request environment) race turns (k + 1)) →
      InWindow (stateAt (step u settings git request environment) race turns k)) :
    Asked u settings git request environment race turns (k + 1) p where
  question := h.question
  pending := hpending
  between hnow := by
    obtain ⟨i, hi, hasked⟩ := h.between (hwindow hnow)
    exact ⟨i, Nat.lt_succ_of_lt hi, hasked⟩

theorem Asked.of_eq {k : Nat} {p : PendingInteraction}
    (h : Asked u settings git request environment race turns k p)
    (heq : stateAt (step u settings git request environment) race turns (k + 1) =
      stateAt (step u settings git request environment) race turns k) :
    Asked u settings git request environment race turns (k + 1) p := by
  apply h.succ
  · rw [heq]
    exact h.pending
  · rw [heq]
    exact id

/-- The scheduler's turn is not the one that stores an offer: the message would have
asked between its two reads. -/
theorem Asked.of_offer (hdefault : request.conversationId = Update.defaultUpdateConversationId)
    (hbetween : ∀ i j, ¬AsksBetween u settings git request environment race turns i j)
    {k : Nat} {p : PendingInteraction} (hturn : turns[k]? = some .offer)
    (h : Asked u settings git request environment race turns k p) :
    Asked u settings git request environment race turns (k + 1) p := by
  have hset (result : UpdateCheckResult) :
      (stateAt (step u settings git request environment) race turns k).offer ≠
        .setPending result := by
    intro hset
    obtain ⟨i, hi, hrespond, hasks, hwindow⟩ := h.between ⟨result, .inr hset⟩
    exact hbetween i k ⟨hi, hrespond, hasks, hwindow, hturn, result, hset⟩
  have hnonempty : (stateAt (step u settings git request environment) race turns
      k).assistant.pendingOf Update.defaultUpdateConversationId ≠ none := by
    rw [← hdefault, h.pending]
    exact Option.some_ne_none p
  apply h.succ <;> rw [stateAt_succ hturn]
  · exact (actOffer_pending request.conversationId hset).trans h.pending
  · exact inWindow_of_step hnonempty

theorem asked_of_dispatch {k : Nat} {p : PendingInteraction} {history : List ChatMessage}
    {decision : RouteDecision} (hturn : turns[k]? = some .respond)
    (hstage : (stateAt (step u settings git request environment) race turns k).respond =
      .dispatch history decision)
    (hquestion : questionOf u request environment decision = some p) :
    Asked u settings git request environment race turns (k + 1) p := by
  obtain ⟨hp, hpending⟩ := of_questionOf hquestion history
    (stateAt (step u settings git request environment) race turns k).assistant
  refine ⟨hp, ?_, ?_⟩ <;> rw [stateAt_succ hturn]
  · rw [assistant_step_of_dispatch hstage, pendingOf_reply]
    exact hpending
  · intro hwindow
    exact ⟨k, Nat.lt_succ_self k, hturn, ⟨p, history, decision, hstage, hquestion⟩, hwindow⟩

theorem asked_stateAt (hdefault : request.conversationId = Update.defaultUpdateConversationId)
    (hbetween : ∀ i j, ¬AsksBetween u settings git request environment (start assistant) turns i j)
    (k : Nat) {p : PendingInteraction}
    (hdone : (stateAt (step u settings git request environment) (start assistant) turns k).respond =
      .done (some p)) :
    Asked u settings git request environment (start assistant) turns k p := by
  induction k with
  | zero => cases hdone
  | succ k ih =>
      cases hturn : turns[k]? with
      | none =>
          rw [stateAt_succ_of_none hturn] at hdone
          exact (ih hdone).of_eq (stateAt_succ_of_none hturn)
      | some turn =>
          rw [stateAt_succ hturn] at hdone
          cases turn with
          | offer => exact Asked.of_offer hdefault hbetween hturn (ih hdone)
          | respond =>
              rcases actRespond_done_cases hdone with
                hstage | ⟨history, decision, hstage, hquestion⟩
              · exact (ih hstage).of_eq ((stateAt_succ hturn).trans (step_of_done hstage))
              · exact asked_of_dispatch hturn hstage hquestion

theorem not_stands_of_asksBetween
    (hdefault : request.conversationId = Update.defaultUpdateConversationId) {i j : Nat}
    (h : AsksBetween u settings git request environment race turns i j) :
    ¬Stands u (stateAt (step u settings git request environment) race turns (j + 1)) := by
  obtain ⟨p, history, decision, hstage, hquestion⟩ := h.asks
  have hdone (k : Nat) (hk : i + 1 ≤ k) :
      (stateAt (step u settings git request environment) race turns k).respond =
        .done (some p) := by
    induction k, hk using Nat.le_induction with
    | base =>
        rw [stateAt_succ h.respond, step, hstage]
        exact congrArg RespondStage.done hquestion
    | succ k hk ih =>
        cases hturn : turns[k]? with
        | none => rwa [stateAt_succ_of_none hturn]
        | some turn =>
            rw [stateAt_succ hturn]
            cases turn with
            | offer => exact ih
            | respond => rwa [step_of_done ih]
  intro hstands
  have hpending := (hstands p (hdone (j + 1) (Nat.le_succ_of_le h.lt))).pending
  obtain ⟨result, hset⟩ := h.sets
  obtain ⟨⟨kind, hkind, rfl⟩, -⟩ := of_questionOf hquestion history
    (stateAt (step u settings git request environment) race turns i).assistant
  have hupdate : (stateAt (step u settings git request environment) race turns
      (j + 1)).assistant.pendingOf request.conversationId =
        some (Update.updateInteraction result Update.defaultUpdateConversationId) := by
    rw [stateAt_succ h.offer, step, hset, hdefault]
    exact AssistantState.pendingOf_setPending _ _
  have hsame : PendingKind.updateConfirmation = kind :=
    congrArg PendingInteraction.kind (Option.some.inj (hupdate.symm.trans hpending))
  rw [← hsame] at hkind
  exact absurd hkind (by decide)

/-- The question stands throughout, unless the message asks it between the read and
the set of the scheduler. -/
theorem stands_iff (u : PyData) (settings : Settings) (git : Git) (request : Request)
    (environment : Environment) (assistant : AssistantState) (turns : List Turn)
    (hdefault : request.conversationId = Update.defaultUpdateConversationId) :
    (∀ k, Stands u
        (stateAt (step u settings git request environment) (start assistant) turns k)) ↔
      ∀ i j, ¬AsksBetween u settings git request environment (start assistant) turns i j := by
  constructor
  · exact fun hstands i j h => not_stands_of_asksBetween hdefault h (hstands (j + 1))
  · intro hbetween k p hdone
    obtain ⟨hquestion, hpending, -⟩ := asked_stateAt hdefault hbetween k hdone
    refine kept_of_pending hquestion ?_
    obtain ⟨kind, -, rfl⟩ := hquestion
    exact hpending

def wipeRequest : Request := ⟨"default", "wipe your memory".toList⟩

def checking : Settings := { updateCheckEnabled := true }

/-- The message asks its question between the check and the scheduler's read. -/
def askedFirst : List Turn := [.respond, .offer, .respond, .respond, .offer]

def racesOf (turns : List Turn) (k : Nat) : Race :=
  stateAt (step .ascii checking (oneBehind "ccc") wipeRequest (.offline {}))
    (start (sessionStart {} (oneBehind "bbb"))) turns k

theorem stands_iff_asked_first :
    (racesOf askedFirst 5).offer = .done ∧
      (racesOf askedFirst 5).respond = .done (some (question wipeRequest .wipeConfirmation)) ∧
      ((∀ k, Stands .ascii (racesOf askedFirst k)) ↔
        ∀ i j, ¬AsksBetween .ascii checking (oneBehind "ccc") wipeRequest (.offline {})
          (start (sessionStart {} (oneBehind "bbb"))) askedFirst i j) :=
  ⟨by decide +kernel, by decide +kernel,
    stands_iff .ascii checking (oneBehind "ccc") wipeRequest (.offline {}) _ askedFirst rfl⟩

/-- The scheduler finds nothing pending, the message asks for a yes to the wipe, and
the scheduler puts its own question in the place. -/
theorem not_stands_of_late_offer :
    ¬ ∀ (u : PyData) (settings : Settings) (git : Git) (request : Request)
      (environment : Environment) (assistant : AssistantState) (turns : List Turn) (k : Nat),
      request.conversationId = Update.defaultUpdateConversationId →
      Stands u (stateAt (step u settings git request environment) (start assistant) turns k) := by
  intro h
  have hstands := h .ascii checking (oneBehind "ccc") wipeRequest (.offline {})
    (sessionStart {} (oneBehind "bbb"))
    [.respond, .respond, .offer, .offer, .respond, .offer, .offer] 7 rfl
  have hpending := (hstands (question wipeRequest .wipeConfirmation) (by decide +kernel)).pending
  exact absurd hpending (by decide +kernel)

end Steps

end NanoCore.Assistant.OfferInterleavings
