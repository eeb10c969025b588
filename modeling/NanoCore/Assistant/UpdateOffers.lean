import NanoCore.Assistant.ChatLog

namespace NanoCore.Assistant.UpdateOffers

open NanoCore.Foundation.PythonText
open NanoCore.Foundation.Runs
open NanoCore.Assistant.ChatLog
open NanoCore.Assistant.Confirmations
open NanoCore.Assistant.Flows
open NanoCore.Assistant.Flows.Confirmation
open NanoCore.Assistant.Orchestrator
open NanoCore.Assistant.Pending
open NanoCore.Assistant.Rules.Messages
open NanoCore.Assistant.Sources
open NanoCore.Assistant.State
open NanoCore.Assistant.UpdatePrompts
open NanoCore.Config
open NanoCore.Deploy.Update
open NanoCore.Deploy.UpdateState
open NanoCore.Memory.Models
open NanoCore.Memory.Repository
open NanoCore.Runtime.State
open NanoCore.Timers.Parsing

/-- What a check during an event finds. -/
def checkAt (u : PyData) : Event → Option UpdateCheckResult
  | .message _ environment => some (checkForUpdates u environment.settings environment.git)
  | .updateCheck settings git => some (checkForUpdates u settings git)
  | .chatMessage _ _ => none
  | .elsewhere _ => none

/-- The event has `offer_update` called, past its guards, for the version found. -/
inductive Offers (u : PyData) (assistant : AssistantState) : Event → UpdateCheckResult → Prop where
  | request {request : Request} {environment : Environment}
      (h : OffersUpdate u environment request assistant) :
      Offers u assistant (.message request environment)
        (checkForUpdates u environment.settings environment.git)
  | check {settings : Settings} {git : Git} (henabled : settings.updateCheckEnabled = true)
      (hbehind : (checkForUpdates u settings git).behind = true)
      (hnew : assistant.updates.shouldPrompt (checkForUpdates u settings git).remoteSha = true)
      (hidle : assistant.pendingOf Update.defaultUpdateConversationId = none) :
      Offers u assistant (.updateCheck settings git) (checkForUpdates u settings git)

/-- The remembered versions stay, and no question for an update is new. -/
structure Unoffered (c : String) (before after : AssistantState) : Prop where
  baseline : after.updates.sessionBaselineSha = before.updates.sessionBaselineSha
  dismissed : after.updates.dismissedRemoteSha = before.updates.dismissedRemoteSha
  offered : after.updates.promptOfferedForSha = before.updates.promptOfferedForSha
  pending : ∀ p, after.pendingOf c = some p → p.kind = .updateConfirmation →
    before.pendingOf c = some p

structure Dismissed (c : String) (p : PendingInteraction) (before after : AssistantState) :
    Prop where
  asked : before.pendingOf c = some p
  kind : p.kind = .updateConfirmation
  cleared : after.pendingOf c = none
  updates : after.updates = before.updates.dismiss (Update.pendingRemoteSha p)

/-- The question is pending and stored as a message, and the version is remembered
as offered. -/
structure Offered (c : String) (result : UpdateCheckResult) (before after : AssistantState) :
    Prop where
  new : before.updates.shouldPrompt result.remoteSha = true
  idle : ∀ p, before.pendingOf c = some p → p.kind = .presenceCheck
  pending : after.pendingOf c = some (Update.updateInteraction result c)
  prompt : ∃ message ∈ chatLog after.server, message.conversationId = c ∧
    message.role = "assistant" ∧
    message.content = Update.formatUpdateConfirmationPrompt result.commitsBehind
  updates : after.updates =
    (before.updates.recordCheck result).markPromptOffered result.remoteSha

namespace Unoffered

variable {c : String} {a b : AssistantState}

theorem refl (c : String) (a : AssistantState) : Unoffered c a a := ⟨rfl, rfl, rfl, fun _ h _ => h⟩

theorem of_updates (hupdates : b.updates = a.updates)
    (hpending : ∀ p, b.pendingOf c = some p → p.kind = .updateConfirmation →
      a.pendingOf c = some p) : Unoffered c a b :=
  ⟨by rw [hupdates], by rw [hupdates], by rw [hupdates], hpending⟩

theorem of_cleared (hupdates : b.updates = a.updates) (hpending : b.pendingOf c = none) :
    Unoffered c a b := by
  refine of_updates hupdates fun p hp _ => ?_
  rw [hpending] at hp
  cases hp

theorem trans {d : AssistantState} (h : Unoffered c a b) (h' : Unoffered c b d) :
    Unoffered c a d where
  baseline := h'.baseline.trans h.baseline
  dismissed := h'.dismissed.trans h.dismissed
  offered := h'.offered.trans h.offered
  pending p hp hkind := h.pending p (h'.pending p hp hkind) hkind

theorem of_routine (h : Routine c a b) : Unoffered c a b := by
  induction h with
  | refl => exact refl c a
  | onServer _ server ih => exact ih.trans (of_updates rfl fun _ h _ => h)
  | clearPending _ ih =>
      exact ih.trans (of_cleared rfl (AssistantState.pendingOf_clearPending _ c))
  | setPending _ hc hpresence hupdate ih =>
      refine ih.trans (of_updates rfl fun p hp hkind => ?_)
      subst hc
      rw [AssistantState.pendingOf_setPending] at hp
      obtain rfl := Option.some.inj hp
      exact absurd hkind hupdate

end Unoffered

/-- What an event can do to the offers of a conversation. -/
inductive Effect (u : PyData) (c : String) (event : Event) (before after : AssistantState) :
    Prop where
  | unoffered (hnot : ∀ result, ¬Offers u before event result) (h : Unoffered c before after)
  | dismissed (hnot : ∀ result, ¬Offers u before event result) (p : PendingInteraction)
      (h : Dismissed c p before after)
  | offered (result : UpdateCheckResult) (hoffers : Offers u before event result)
      (h : Offered c result before after)

section Effects

variable {u : PyData} {environment : Environment} {request : Request} {assistant : AssistantState}

@[simp] theorem updates_reply (resolved : Reply) :
    (reply environment resolved).1.updates = resolved.1.updates := by
  unfold reply
  split <;> rfl

theorem unoffered_updateStart {c : String} (h : ¬FindsNewVersion u environment assistant) :
    Unoffered c assistant
      (Update.start u environment.settings environment.git request assistant).1 := by
  have hrecorded : Unoffered c assistant (assistant.onUpdates (assistant.updates.recordCheck
      (checkForUpdates u environment.settings environment.git))) :=
    ⟨rfl, rfl, rfl, fun _ hp _ => hp⟩
  cases hbehind : (checkForUpdates u environment.settings environment.git).behind with
  | false => rwa [Update.start_of_not_behind hbehind]
  | true =>
      have hknown : assistant.updates.shouldPrompt
          (checkForUpdates u environment.settings environment.git).remoteSha = false := by
        by_contra hnew
        exact h ⟨hbehind, Bool.not_eq_false _ ▸ hnew⟩
      rwa [Update.start_of_known hbehind hknown]

theorem unoffered_dispatchRoute (history : List ChatMessage) {decision : AgentRouter.RouteDecision}
    (h : decision = .interaction .update → ¬FindsNewVersion u environment assistant) :
    Unoffered request.conversationId assistant
      (dispatchRoute u environment request history assistant decision).1 := by
  by_cases hdecision : decision = .interaction .update
  · subst hdecision
    exact unoffered_updateStart (h rfl)
  · exact .of_routine (routine_dispatchRoute history hdecision)

section Pending

variable {pending : PendingInteraction} {answer : Reply}

theorem unoffered_of_handleConfirmation {kind : PendingKind} {reminder facts : String}
    {confirmed : AssistantState → Reply}
    (hupdates : (confirmed assistant).1.updates = assistant.updates)
    (hcleared : (confirmed assistant).1.pendingOf request.conversationId = none)
    (h : handleConfirmation u kind reminder (cancelled request facts) confirmed pending request
      assistant = some answer) : Unoffered request.conversationId assistant answer.1 := by
  rcases cases_of_handleConfirmation h with rfl | rfl | ⟨-, -, rfl⟩
  · exact .of_cleared rfl (AssistantState.pendingOf_clearPending assistant _)
  · exact .refl _ assistant
  · exact .of_cleared hupdates hcleared

theorem cleared_updateConfirmed (settings : Settings) (git : Git) (request : Request)
    (assistant : AssistantState) :
    (Update.confirmed settings git request assistant).1.updates = assistant.updates ∧
      (Update.confirmed settings git request assistant).1.pendingOf request.conversationId =
        none := by
  have hcleared := AssistantState.pendingOf_clearPending assistant request.conversationId
  simp only [Update.confirmed, Update.restartAfterPull]
  split
  · exact ⟨rfl, hcleared⟩
  · split
    · exact ⟨rfl, hcleared⟩
    · exact ⟨rfl, hcleared⟩

theorem unoffered_or_dismissed_of_update {settings : Settings} {git : Git}
    (hasked : assistant.pendingOf request.conversationId = some pending)
    (h : Update.handlePending u settings git pending request assistant = some answer) :
    Unoffered request.conversationId assistant answer.1 ∨
      Dismissed request.conversationId pending assistant answer.1 := by
  have hcleared := AssistantState.pendingOf_clearPending assistant request.conversationId
  have hkind : pending.kind = .updateConfirmation := by
    by_contra hkind
    rw [Update.handlePending, handleConfirmation_eq_none_iff.mpr hkind] at h
    cases h
  rcases cases_of_handleConfirmation h with rfl | rfl | ⟨-, -, rfl⟩
  · simp only [Update.rejected]
    split
    · exact .inl (.of_cleared rfl hcleared)
    · exact .inr ⟨hasked, hkind, hcleared, rfl⟩
  · exact .inl (.refl _ assistant)
  · obtain ⟨hupdates, hnone⟩ := cleared_updateConfirmed settings git request assistant
    exact .inl (.of_cleared hupdates hnone)

theorem unoffered_or_dismissed (hasked : assistant.pendingOf request.conversationId = some pending)
    (h : Orchestrator.handlePending u environment pending request assistant = some answer) :
    Unoffered request.conversationId assistant answer.1 ∨
      Dismissed request.conversationId pending assistant answer.1 := by
  have hcleared := AssistantState.pendingOf_clearPending assistant request.conversationId
  simp only [Orchestrator.handlePending, Option.orElse_eq_or, Option.or_eq_some_iff] at h
  rcases h with h | ⟨-, h | ⟨-, h | ⟨-, h | ⟨-, h⟩⟩⟩⟩
  · exact .inl (.of_routine (routine_timer h))
  · exact .inl (unoffered_of_handleConfirmation rfl rfl h)
  · exact .inl (unoffered_of_handleConfirmation rfl hcleared h)
  · exact .inl (unoffered_of_handleConfirmation rfl hcleared h)
  · exact unoffered_or_dismissed_of_update hasked h

end Pending

theorem offered_offerUpdate {c : String} {result : UpdateCheckResult}
    (hbehind : result.behind = true)
    (hnew : assistant.updates.shouldPrompt result.remoteSha = true)
    (hidle : assistant.pendingOf c = none) :
    Offered c result assistant (Update.offerUpdate result c
      (assistant.onUpdates (assistant.updates.recordCheck result))) := by
  have hsha := ne_nil_of_shouldPrompt hnew
  obtain ⟨prompt, hconversation, hrole, hcontent, hlog⟩ := exists_chatLog_addChatMessage c
    "assistant" (Update.formatUpdateConfirmationPrompt result.commitsBehind) assistant.server
  have hidle' : (assistant.onUpdates (assistant.updates.recordCheck result)).pendingOf c = none :=
    hidle
  have hpending := pendingOf_offerUpdate hbehind hsha hidle'
  refine ⟨hnew, ?_, hpending, ⟨prompt, ?_, hconversation, hrole, hcontent⟩, ?_⟩
  · intro p hp
    rw [hidle] at hp
    cases hp
  · rw [Update.offerUpdate, if_neg (by simp [hbehind, hsha]), if_neg (by simp [hidle])]
    change prompt ∈ chatLog (addChatMessage c "assistant" _ assistant.server)
    rw [hlog]
    exact List.mem_append_right _ (List.mem_singleton_self prompt)
  · rw [Update.offerUpdate, if_neg (by simp [hbehind, hsha]), if_neg (by simp [hidle])]
    rfl

theorem offered_respond (h : OffersUpdate u environment request assistant) :
    Offered request.conversationId (checkForUpdates u environment.settings environment.git)
      assistant (respond u environment request assistant).1 := by
  rw [respond, isSilentUiCommand_of_noTimerRequest h.fresh]
  simp only [Bool.false_eq_true, if_false]
  generalize history environment request (storeUserMessage request assistant) = seen
  obtain ⟨start, -, hupdates, hidle, hresolve⟩ :=
    resolveSource_of_offersUpdate ((offersUpdate_ite false).mpr h) seen
  rw [if_neg Bool.false_ne_true] at hupdates hresolve
  obtain ⟨hbehind, hnew⟩ := h.found
  have hstart : start.updates = assistant.updates := hupdates
  rw [← hstart] at hnew
  have hoffered := offered_offerUpdate hbehind hnew hidle
  rw [hresolve, Update.start_of_new hbehind hnew]
  obtain ⟨message, hmem, hmessage⟩ := hoffered.prompt
  refine ⟨hstart ▸ hoffered.new, h.untaken, ?_, ⟨message, ?_, hmessage⟩, ?_⟩
  · rw [pendingOf_reply]
    exact hoffered.pending
  · obtain ⟨answered, hlog, -⟩ := exists_answered environment (Update.offerUpdate
      (checkForUpdates u environment.settings environment.git) request.conversationId
      (start.onUpdates (start.updates.recordCheck
        (checkForUpdates u environment.settings environment.git))), _)
    rw [hlog]
    exact List.mem_append_left _ hmem
  · rw [updates_reply, hoffered.updates, hstart]

theorem unoffered_or_dismissed_resolveSource (h : ¬OffersUpdate u environment request assistant)
    (history : List ChatMessage) :
    Unoffered request.conversationId assistant
        (resolveSource u environment request history assistant).1 ∨
      ∃ p, Dismissed request.conversationId p assistant
        (resolveSource u environment request history assistant).1 := by
  have hresolved := resolved_resolveSource h history
  generalize resolveSource u environment request history assistant = answer at hresolved
  cases hresolved with
  | raised e hstart hserver => exact .inl (.of_routine hstart)
  | taken hasked hanswer => exact (unoffered_or_dismissed hasked hanswer).imp_right fun h => ⟨_, h⟩
  | routed hstart hserver hnew =>
      exact .inl ((Unoffered.of_routine hstart).trans (unoffered_dispatchRoute history hnew))

theorem unoffered_or_dismissed_respond (h : ¬OffersUpdate u environment request assistant) :
    Unoffered request.conversationId assistant (respond u environment request assistant).1 ∨
      ∃ p, Dismissed request.conversationId p assistant
        (respond u environment request assistant).1 := by
  rw [respond]
  rcases isSilentUiCommand u request.message with e | silent
  · exact .inl (.refl _ assistant)
  · dsimp only
    rw [← offersUpdate_ite silent] at h
    have hstored : Routine request.conversationId assistant
        (if silent then assistant else storeUserMessage request assistant) := by
      split
      · exact .refl
      · exact Routine.refl.onServer _
    have hupdates : (if silent then assistant else storeUserMessage request assistant).updates =
        assistant.updates := by
      split <;> rfl
    have hpending : (if silent then assistant
        else storeUserMessage request assistant).pendingOf request.conversationId =
          assistant.pendingOf request.conversationId := by
      split <;> rfl
    generalize (if silent then assistant else storeUserMessage request assistant) = stored
      at h hstored hupdates hpending ⊢
    rcases unoffered_or_dismissed_resolveSource h (history environment request stored) with
      hsame | ⟨p, hdismissed⟩
    · refine .inl ((Unoffered.of_routine hstored).trans (hsame.trans ?_))
      refine .of_updates (updates_reply _) fun p hp _ => ?_
      rwa [pendingOf_reply] at hp
    · refine .inr ⟨p, hpending ▸ hdismissed.asked, hdismissed.kind, ?_, ?_⟩
      · rw [pendingOf_reply]
        exact hdismissed.cleared
      · rw [updates_reply, hdismissed.updates, hupdates]

theorem offerUpdate_of_asked {c : String} (result : UpdateCheckResult)
    (hasked : assistant.pendingOf c ≠ none) :
    Update.offerUpdate result c assistant = assistant := by
  unfold Update.offerUpdate
  split
  · rfl
  · rw [if_pos (Option.isSome_iff_ne_none.mpr hasked)]

theorem of_offers_check {settings : Settings} {git : Git} {result : UpdateCheckResult}
    (h : Offers u assistant (.updateCheck settings git) result) :
    settings.updateCheckEnabled = true ∧ (checkForUpdates u settings git).behind = true ∧
      assistant.updates.shouldPrompt (checkForUpdates u settings git).remoteSha = true ∧
      assistant.pendingOf Update.defaultUpdateConversationId = none := by
  cases h with
  | check henabled hbehind hnew hidle => exact ⟨henabled, hbehind, hnew, hidle⟩

theorem effect_checkForAvailableUpdates (u : PyData) (settings : Settings) (git : Git)
    (assistant : AssistantState) :
    Effect u Update.defaultUpdateConversationId (.updateCheck settings git) assistant
      (Update.checkForAvailableUpdates u settings git assistant) := by
  have hrecorded : Unoffered Update.defaultUpdateConversationId assistant
      (assistant.onUpdates (assistant.updates.recordCheck (checkForUpdates u settings git))) :=
    ⟨rfl, rfl, rfl, fun _ hp _ => hp⟩
  have hnew : (assistant.updates.recordCheck (checkForUpdates u settings git)).shouldPrompt
      (checkForUpdates u settings git).remoteSha =
        assistant.updates.shouldPrompt (checkForUpdates u settings git).remoteSha := rfl
  simp only [Update.checkForAvailableUpdates, AssistantState.onUpdates_updates, hnew]
  split
  · rename_i hdisabled
    refine .unoffered ?_ (.refl _ assistant)
    intro result hoffers
    obtain ⟨henabled, -⟩ := of_offers_check hoffers
    rw [henabled] at hdisabled
    exact absurd hdisabled (by decide)
  · rename_i henabled
    split
    · rename_i hnotBehind
      refine .unoffered ?_ hrecorded
      intro result hoffers
      obtain ⟨-, hbehind, -⟩ := of_offers_check hoffers
      rw [hbehind] at hnotBehind
      exact absurd hnotBehind (by decide)
    · rename_i hbehind
      split
      · rename_i hknown
        refine .unoffered ?_ hrecorded
        intro result hoffers
        obtain ⟨-, -, hshould, -⟩ := of_offers_check hoffers
        rw [hshould] at hknown
        exact absurd hknown (by decide)
      · rename_i hshould
        rw [Bool.not_eq_true', Bool.not_eq_false] at henabled hbehind hshould
        by_cases hidle : assistant.pendingOf Update.defaultUpdateConversationId = none
        · exact .offered _ (.check henabled hbehind hshould hidle)
            (offered_offerUpdate hbehind hshould hidle)
        · have hasked : (assistant.onUpdates (assistant.updates.recordCheck
              (checkForUpdates u settings git))).pendingOf Update.defaultUpdateConversationId ≠
                none := hidle
          rw [offerUpdate_of_asked _ hasked]
          refine .unoffered ?_ hrecorded
          intro result hoffers
          exact hidle (of_offers_check hoffers).2.2.2

/-- A message of mode `agent` is one of the default conversation. -/
def InDefault : Event → Prop
  | .message request _ => request.conversationId = Update.defaultUpdateConversationId
  | .updateCheck _ _ => True
  | .chatMessage _ _ => True
  | .elsewhere _ => True

theorem effect_step (u : PyData) (assistant : AssistantState) {event : Event}
    (hdefault : InDefault event) :
    Effect u Update.defaultUpdateConversationId event assistant (step u assistant event) := by
  cases event with
  | message request environment =>
      rw [← show request.conversationId = Update.defaultUpdateConversationId from hdefault]
      by_cases hoffers : OffersUpdate u environment request assistant
      · exact .offered _ (.request hoffers) (offered_respond hoffers)
      · have hnot (result : UpdateCheckResult) :
            ¬Offers u assistant (.message request environment) result := by
          rintro ⟨⟩
          exact hoffers ‹_›
        rcases unoffered_or_dismissed_respond hoffers with h | ⟨p, h⟩
        · exact .unoffered hnot h
        · exact .dismissed hnot p h
  | chatMessage request environment =>
      refine .unoffered (by rintro _ ⟨⟩) (.of_updates (updates_reply _) fun p hp _ => ?_)
      rwa [step, respondChat, pendingOf_reply] at hp
  | updateCheck settings git => exact effect_checkForAvailableUpdates u settings git assistant
  | elsewhere server => exact .unoffered (by rintro _ ⟨⟩) (.of_updates rfl fun _ hp _ => hp)

end Effects

section Runs

variable (u : PyData) (init : AssistantState) (events : List Event)

/-- Event `k` has the version of `result` offered. -/
def OfferAt (k : Nat) (result : UpdateCheckResult) : Prop :=
  ∃ event, events[k]? = some event ∧ Offers u (stateAt (step u) init events k) event result

/-- No version is remembered as offered or dismissed, and nothing is pending in the
default conversation. -/
structure StartsSession (init : AssistantState) : Prop where
  idle : init.pendingOf Update.defaultUpdateConversationId = none
  unoffered : init.updates.promptOfferedForSha = none
  undismissed : init.updates.dismissedRemoteSha = none

/-- A check during event `k` finds `tip k` if it finds a version. -/
structure RemoteTip (tip : Nat → Text) : Prop where
  found : ∀ k event result, events[k]? = some event → checkAt u event = some result →
    result.remoteSha = [] ∨ result.remoteSha = tip k
  forward : ∀ i j k, i ≤ j → j ≤ k → tip i = tip k → tip j = tip i

/-- Each version is offered once at most, and what is pending is what is remembered
as offered. -/
structure NoNagging : Prop where
  offered : ∀ k result, OfferAt u init events k result →
    Offered Update.defaultUpdateConversationId result (stateAt (step u) init events k)
      (stateAt (step u) init events (k + 1))
  onlyOffers : ∀ k p,
    (stateAt (step u) init events (k + 1)).pendingOf Update.defaultUpdateConversationId = some p →
    p.kind = .updateConfirmation →
    (stateAt (step u) init events k).pendingOf Update.defaultUpdateConversationId = some p ∨
      ∃ result, OfferAt u init events k result ∧
        p = Update.updateInteraction result Update.defaultUpdateConversationId
  once : ∀ j k result again, OfferAt u init events j result → OfferAt u init events k again →
    result.remoteSha = again.remoteSha → j = k
  baseline : ∀ k result, OfferAt u init events k result →
    init.updates.sessionBaselineSha ≠ some result.remoteSha
  dismissed : ∀ i k result, i ≤ k → OfferAt u init events k result →
    (stateAt (step u) init events i).updates.dismissedRemoteSha ≠ some result.remoteSha
  pending : ∀ k p,
    (stateAt (step u) init events k).pendingOf Update.defaultUpdateConversationId = some p →
    p.kind = .updateConfirmation →
    (stateAt (step u) init events k).updates.promptOfferedForSha =
      some (Update.pendingRemoteSha p)

variable {u init events}

theorem checkAt_of_offers {assistant : AssistantState} {event : Event}
    {result : UpdateCheckResult} (h : Offers u assistant event result) :
    checkAt u event = some result := by
  cases h with
  | request h => rfl
  | check henabled hbehind hnew hidle => rfl

theorem OfferAt.unique {k : Nat} {result other : UpdateCheckResult}
    (h : OfferAt u init events k result) (h' : OfferAt u init events k other) :
    result = other := by
  obtain ⟨event, hevent, hoffers⟩ := h
  obtain ⟨event', hevent', hoffers'⟩ := h'
  obtain rfl := Option.some.inj (hevent.symm.trans hevent')
  exact Option.some.inj ((checkAt_of_offers hoffers).symm.trans (checkAt_of_offers hoffers'))

/-- What happens between two states of a run. -/
inductive EffectAt (u : PyData) (init : AssistantState) (events : List Event) (k : Nat) : Prop where
  | unoffered (hnot : ∀ result, ¬OfferAt u init events k result)
      (h : Unoffered Update.defaultUpdateConversationId (stateAt (step u) init events k)
        (stateAt (step u) init events (k + 1)))
  | dismissed (hnot : ∀ result, ¬OfferAt u init events k result) (p : PendingInteraction)
      (h : Dismissed Update.defaultUpdateConversationId p (stateAt (step u) init events k)
        (stateAt (step u) init events (k + 1)))
  | offered (result : UpdateCheckResult) (hoffer : OfferAt u init events k result)
      (h : Offered Update.defaultUpdateConversationId result (stateAt (step u) init events k)
        (stateAt (step u) init events (k + 1)))

theorem effectAt (u : PyData) (init : AssistantState)
    (hdefault : ∀ event ∈ events, InDefault event) (k : Nat) :
    EffectAt u init events k := by
  cases hevent : events[k]? with
  | none =>
      refine .unoffered ?_ ?_
      · rintro result ⟨event, hsome, -⟩
        rw [hevent] at hsome
        cases hsome
      · rw [stateAt_succ_of_none hevent]
        exact .refl _ _
  | some event =>
      have hno (hnot : ∀ result, ¬Offers u (stateAt (step u) init events k) event result)
          (result : UpdateCheckResult) : ¬OfferAt u init events k result := by
        rintro ⟨event', hevent', hoffers⟩
        obtain rfl := Option.some.inj (hevent.symm.trans hevent')
        exact hnot result hoffers
      cases effect_step u (stateAt (step u) init events k)
        (hdefault event (List.mem_of_getElem? hevent)) with
      | unoffered hnot h => exact .unoffered (hno hnot) (stateAt_succ hevent ▸ h)
      | dismissed hnot p h => exact .dismissed (hno hnot) p (stateAt_succ hevent ▸ h)
      | offered result hoffers h =>
          exact .offered result ⟨event, hevent, hoffers⟩ (stateAt_succ hevent ▸ h)

theorem offered_of_offerAt (hdefault : ∀ event ∈ events, InDefault event) {k : Nat}
    {result : UpdateCheckResult} (hoffer : OfferAt u init events k result) :
    Offered Update.defaultUpdateConversationId result (stateAt (step u) init events k)
      (stateAt (step u) init events (k + 1)) := by
  cases effectAt u init hdefault k with
  | unoffered hnot _ => exact absurd hoffer (hnot result)
  | dismissed hnot p _ => exact absurd hoffer (hnot result)
  | offered other hother h =>
      obtain rfl := hoffer.unique hother
      exact h

/-- What is pending is what is remembered as offered. -/
theorem pending_stateAt (hstart : StartsSession init)
    (hdefault : ∀ event ∈ events, InDefault event) (k : Nat) : ∀ p,
    (stateAt (step u) init events k).pendingOf Update.defaultUpdateConversationId = some p →
    p.kind = .updateConfirmation →
    (stateAt (step u) init events k).updates.promptOfferedForSha =
      some (Update.pendingRemoteSha p) := by
  induction k with
  | zero =>
      intro p hp _
      exact absurd (hstart.idle.symm.trans hp) (by simp)
  | succ k ih =>
      intro p hp hkind
      cases effectAt u init hdefault k with
      | unoffered hnot h =>
          rw [h.offered]
          exact ih p (h.pending p hp hkind) hkind
      | dismissed hnot q h => exact absurd (h.cleared.symm.trans hp) (by simp)
      | offered result hoffer h =>
          obtain rfl := Option.some.inj (h.pending.symm.trans hp)
          rw [h.updates]
          rfl

/-- What is remembered was offered before. -/
theorem exists_offerAt (hstart : StartsSession init)
    (hdefault : ∀ event ∈ events, InDefault event) {sha : Text} (k : Nat)
    (hknown : (stateAt (step u) init events k).updates.promptOfferedForSha = some sha ∨
      (stateAt (step u) init events k).updates.dismissedRemoteSha = some sha) :
    ∃ j result, j < k ∧ OfferAt u init events j result ∧ result.remoteSha = sha := by
  induction k with
  | zero =>
      rcases hknown with h | h
      · exact absurd (hstart.unoffered.symm.trans h) (by simp)
      · exact absurd (hstart.undismissed.symm.trans h) (by simp)
  | succ k ih =>
      have hbefore (h : (stateAt (step u) init events k).updates.promptOfferedForSha = some sha ∨
          (stateAt (step u) init events k).updates.dismissedRemoteSha = some sha) :
          ∃ j result, j < k + 1 ∧ OfferAt u init events j result ∧ result.remoteSha = sha := by
        obtain ⟨j, result, hj, hoffer⟩ := ih h
        exact ⟨j, result, Nat.lt_succ_of_lt hj, hoffer⟩
      cases effectAt u init hdefault k with
      | unoffered hnot h =>
          rw [h.offered, h.dismissed] at hknown
          exact hbefore hknown
      | dismissed hnot p h =>
          have hpending := pending_stateAt hstart hdefault k p h.asked h.kind
          rw [h.updates] at hknown
          rcases hknown with hknown | hknown
          · cases hknown
          · obtain rfl := Option.some.inj hknown
            exact hbefore (.inl hpending)
      | offered result hoffer h =>
          rw [h.updates] at hknown
          rcases hknown with hknown | hknown
          · exact ⟨k, result, Nat.lt_succ_self k, hoffer, Option.some.inj hknown⟩
          · exact hbefore (.inr hknown)

/-- The version is the last one offered. -/
def Remembered (sha : Text) (updates : UpdateStore) : Prop :=
  updates.promptOfferedForSha = some sha ∨
    updates.dismissedRemoteSha = some sha ∧ updates.promptOfferedForSha = none

theorem not_shouldPrompt_of_remembered {sha : Text} {updates : UpdateStore}
    (h : Remembered sha updates) : updates.shouldPrompt sha ≠ true := by
  intro hnew
  obtain ⟨-, hdismissed, hoffered, -⟩ := UpdateStore.shouldPrompt_iff.mp hnew
  rcases h with hsame | ⟨hsame, -⟩
  · exact hoffered hsame
  · exact hdismissed hsame

/-- A version stays remembered until another one is offered. -/
theorem remembered_or_offerAt (hstart : StartsSession init)
    (hdefault : ∀ event ∈ events, InDefault event) {j k : Nat} {result : UpdateCheckResult}
    (hoffer : OfferAt u init events j result) (hlt : j < k) :
    Remembered result.remoteSha (stateAt (step u) init events k).updates ∨
      ∃ i other, j < i ∧ i < k ∧ OfferAt u init events i other ∧
        other.remoteSha ≠ result.remoteSha := by
  induction k, hlt using Nat.le_induction with
  | base =>
      refine .inl (.inl ?_)
      rw [(offered_of_offerAt hdefault hoffer).updates]
      rfl
  | succ k hlt ih =>
      rcases ih with hremembered | ⟨i, other, hji, hik, hother, hne⟩
      · cases effectAt u init hdefault k with
        | unoffered hnot h =>
            refine .inl ?_
            rwa [Remembered, h.offered, h.dismissed]
        | dismissed hnot p h =>
            have hpending := pending_stateAt hstart hdefault k p h.asked h.kind
            rcases hremembered with hoffered | ⟨-, hnone⟩
            · refine .inl (.inr ?_)
              rw [h.updates]
              exact ⟨hpending.symm.trans hoffered, rfl⟩
            · exact absurd (hnone.symm.trans hpending) (by simp)
        | offered other hother h =>
            refine .inr ⟨k, other, hlt, Nat.lt_succ_self k, hother, fun hsame => ?_⟩
            exact not_shouldPrompt_of_remembered hremembered (hsame ▸ h.new)
      · exact .inr ⟨i, other, hji, Nat.lt_succ_of_lt hik, hother, hne⟩

theorem tip_of_offerAt {tip : Nat → Text} (htip : RemoteTip u events tip)
    (hdefault : ∀ event ∈ events, InDefault event) {k : Nat} {result : UpdateCheckResult}
    (hoffer : OfferAt u init events k result) : result.remoteSha = tip k := by
  have hsha := ne_nil_of_shouldPrompt (offered_of_offerAt hdefault hoffer).new
  obtain ⟨event, hevent, hoffers⟩ := hoffer
  exact (htip.found k event result hevent (checkAt_of_offers hoffers)).resolve_left hsha

theorem ne_of_offerAt_of_lt {tip : Nat → Text} (hstart : StartsSession init)
    (hdefault : ∀ event ∈ events, InDefault event) (htip : RemoteTip u events tip) {j k : Nat}
    {result again : UpdateCheckResult} (hoffer : OfferAt u init events j result)
    (hagain : OfferAt u init events k again) (hlt : j < k) :
    result.remoteSha ≠ again.remoteSha := by
  intro hsame
  rcases remembered_or_offerAt hstart hdefault hoffer hlt with
    hremembered | ⟨i, other, hji, hik, hother, hne⟩
  · rw [hsame] at hremembered
    exact not_shouldPrompt_of_remembered hremembered (offered_of_offerAt hdefault hagain).new
  · -- the remote branch would have come back to the version
    apply hne
    rw [tip_of_offerAt htip hdefault hoffer, tip_of_offerAt htip hdefault hagain] at hsame
    rw [tip_of_offerAt htip hdefault hoffer, tip_of_offerAt htip hdefault hother]
    exact htip.forward j i k (Nat.le_of_lt hji) (Nat.le_of_lt hik) hsame

theorem baseline_stateAt (hdefault : ∀ event ∈ events, InDefault event) (k : Nat) :
    (stateAt (step u) init events k).updates.sessionBaselineSha =
      init.updates.sessionBaselineSha := by
  induction k with
  | zero => rfl
  | succ k ih =>
      cases effectAt u init hdefault k with
      | unoffered _ h => exact h.baseline.trans ih
      | dismissed _ p h => rwa [h.updates]
      | offered result _ h => rwa [h.updates]

theorem noNagging (u : PyData) (init : AssistantState) (events : List Event) (tip : Nat → Text)
    (hstart : StartsSession init) (hdefault : ∀ event ∈ events, InDefault event)
    (htip : RemoteTip u events tip) : NoNagging u init events where
  offered k result := offered_of_offerAt hdefault
  onlyOffers k p hp hkind := by
    cases effectAt u init hdefault k with
    | unoffered _ h => exact .inl (h.pending p hp hkind)
    | dismissed _ q h => exact absurd (h.cleared.symm.trans hp) (by simp)
    | offered result hoffer h =>
        exact .inr ⟨result, hoffer, Option.some.inj (hp.symm.trans h.pending)⟩
  once j k result again hj hk hsame := by
    rcases Nat.lt_trichotomy j k with hlt | rfl | hlt
    · exact absurd hsame (ne_of_offerAt_of_lt hstart hdefault htip hj hk hlt)
    · rfl
    · exact absurd hsame.symm (ne_of_offerAt_of_lt hstart hdefault htip hk hj hlt)
  baseline k result hoffer hbaseline := by
    obtain ⟨-, -, -, hne⟩ :=
      UpdateStore.shouldPrompt_iff.mp (offered_of_offerAt hdefault hoffer).new
    exact hne ((baseline_stateAt hdefault k).trans hbaseline)
  dismissed i k result hik hoffer hdismissed := by
    obtain ⟨j, other, hji, hother, hsame⟩ := exists_offerAt hstart hdefault i (.inr hdismissed)
    exact ne_of_offerAt_of_lt hstart hdefault htip hother hoffer (Nat.lt_of_lt_of_le hji hik) hsame
  pending := pending_stateAt hstart hdefault

/-- A version is found, dismissed and found again before the next one. -/
def dismissAndCheck : List Event :=
  let settings : Settings := { updateCheckEnabled := true }
  [.updateCheck settings (oneBehind "ccc"), .message ⟨"default", "no".toList⟩ (.offline {}),
    .updateCheck settings (oneBehind "ccc"), .updateCheck settings (oneBehind "ddd")]

def tipOfDismissAndCheck (k : Nat) : Text := if k < 3 then "ccc".toList else "ddd".toList

theorem remoteTip_dismissAndCheck : RemoteTip .ascii dismissAndCheck tipOfDismissAndCheck where
  found k event result hevent hresult := by
    rcases k with _ | _ | _ | _ | k
    all_goals
      cases hevent
      try (cases hresult; decide +kernel)
  forward i j k hij hjk hsame := by
    unfold tipOfDismissAndCheck at hsame ⊢
    split_ifs at hsame ⊢ with hi hk hj hj
    all_goals first | rfl | omega | exact absurd hsame (by decide)

theorem noNagging_dismissAndCheck :
    (∃ result, OfferAt .ascii (sessionStart {} (oneBehind "bbb")) dismissAndCheck 0 result) ∧
      NoNagging .ascii (sessionStart {} (oneBehind "bbb")) dismissAndCheck := by
  refine ⟨⟨_, _, rfl, .check rfl (by decide +kernel) (by decide +kernel) rfl⟩, ?_⟩
  refine noNagging .ascii _ dismissAndCheck tipOfDismissAndCheck ⟨rfl, rfl, rfl⟩ ?_
    remoteTip_dismissAndCheck
  simp [dismissAndCheck, InDefault, Update.defaultUpdateConversationId]

end Runs

end NanoCore.Assistant.UpdateOffers
