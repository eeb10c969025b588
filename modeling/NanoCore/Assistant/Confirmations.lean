import NanoCore.Assistant.Orchestrator
import NanoCore.Assistant.Rules.Replies
import NanoCore.Foundation.Runs

namespace NanoCore.Assistant.Confirmations

open NanoCore.Foundation.PythonText
open NanoCore.Foundation.Runs
open NanoCore.Assistant.AgentRouter
open NanoCore.Assistant.Flows
open NanoCore.Assistant.Flows.Confirmation
open NanoCore.Assistant.Orchestrator
open NanoCore.Assistant.Pending
open NanoCore.Assistant.Rules.Messages
open NanoCore.Assistant.Rules.Replies
open NanoCore.Assistant.Sources
open NanoCore.Assistant.State
open NanoCore.Config
open NanoCore.Deploy.Update
open NanoCore.Memory.Models
open NanoCore.Memory.Repository
open NanoCore.Runtime.State
open NanoCore.Timers.Parsing

/-- The kinds of pending interactions to which an action belongs. -/
def Authorises : PendingKind → Action → Prop
  | .wipeConfirmation, action => action = .wipeDatabase
  | .rebootConfirmation, action => action = .scheduleReboot
  | .serviceRestartConfirmation, action => action = .scheduleServiceRestart
  | .updateConfirmation, action =>
      action = .pullLatest ∨ action = .installDependencies ∨ action = .scheduleServiceRestart
  | .timerDuration, _ => False
  | .presenceCheck, _ => False

/-- Nothing is called, and at most the pending interaction of one conversation
changes, though not to a presence check. -/
structure Quiet (c : String) (before after : AssistantState) : Prop where
  actions : after.actions = before.actions
  others : ∀ c', c' ≠ c → after.pendingOf c' = before.pendingOf c'
  presence : ∀ c' p, after.pendingOf c' = some p → p.kind = .presenceCheck →
    before.pendingOf c' = some p

namespace Quiet

variable {c : String} {a b d : AssistantState}

theorem refl (c : String) (a : AssistantState) : Quiet c a a :=
  ⟨rfl, fun _ _ => rfl, fun _ _ h _ => h⟩

theorem trans (h : Quiet c a b) (h' : Quiet c b d) : Quiet c a d where
  actions := h'.actions.trans h.actions
  others c' hne := (h'.others c' hne).trans (h.others c' hne)
  presence c' p hp hkind := h.presence c' p (h'.presence c' p hp hkind) hkind

theorem onServer (h : Quiet c a b) (server : Server) : Quiet c a (b.onServer server) :=
  h.trans ⟨rfl, fun _ _ => rfl, fun _ _ h _ => h⟩

theorem onUpdates (h : Quiet c a b) (updates : Deploy.UpdateState.UpdateStore) :
    Quiet c a (b.onUpdates updates) :=
  h.trans ⟨rfl, fun _ _ => rfl, fun _ _ h _ => h⟩

theorem clearPending (h : Quiet c a b) : Quiet c a (b.clearPending c) := by
  refine h.trans ⟨rfl, fun c' hne => AssistantState.pendingOf_clearPending_of_ne hne, ?_⟩
  intro c' p hp _
  by_cases hc : c' = c
  · subst hc
    rw [AssistantState.pendingOf_clearPending] at hp
    exact nomatch hp
  · rwa [AssistantState.pendingOf_clearPending_of_ne hc] at hp

theorem setPending (h : Quiet c a b) {interaction : PendingInteraction}
    (hc : interaction.conversationId = c) (hkind : interaction.kind ≠ .presenceCheck) :
    Quiet c a (b.setPending interaction) := by
  subst hc
  refine h.trans ⟨rfl, fun c' hne => AssistantState.pendingOf_setPending_of_ne hne, ?_⟩
  intro c' p hp hp'
  by_cases hc : c' = interaction.conversationId
  · subst hc
    rw [AssistantState.pendingOf_setPending] at hp
    cases hp
    exact absurd hp' hkind
  · rwa [AssistantState.pendingOf_setPending_of_ne hc] at hp

end Quiet

/-- What the flows other than the update's can do without a call. -/
inductive Routine (c : String) (before : AssistantState) : AssistantState → Prop where
  | refl : Routine c before before
  | onServer {after : AssistantState} (h : Routine c before after) (server : Server) :
      Routine c before (after.onServer server)
  | clearPending {after : AssistantState} (h : Routine c before after) :
      Routine c before (after.clearPending c)
  | setPending {after : AssistantState} (h : Routine c before after)
      {interaction : PendingInteraction} (hc : interaction.conversationId = c)
      (hpresence : interaction.kind ≠ .presenceCheck)
      (hupdate : interaction.kind ≠ .updateConfirmation) :
      Routine c before (after.setPending interaction)

theorem Routine.trans {c : String} {a b d : AssistantState} (h : Routine c a b)
    (h' : Routine c b d) : Routine c a d := by
  induction h' with
  | refl => exact h
  | onServer _ server ih => exact ih.onServer server
  | clearPending _ ih => exact ih.clearPending
  | setPending _ hc hpresence hupdate ih => exact ih.setPending hc hpresence hupdate

variable {u : PyData} {environment : Environment} {request : Request} {assistant : AssistantState}

theorem quiet_of_routine {c : String} {a b : AssistantState} (h : Routine c a b) :
    Quiet c a b := by
  induction h with
  | refl => exact .refl c a
  | onServer h server ih => exact ih.onServer server
  | clearPending h ih => exact ih.clearPending
  | setPending h hc hpresence hupdate ih => exact ih.setPending hc hpresence

theorem quiet_offerUpdate (result : UpdateCheckResult) (c : String) :
    Quiet c assistant (Update.offerUpdate result c assistant) := by
  unfold Update.offerUpdate
  split
  · exact .refl c assistant
  · split
    · exact .refl c assistant
    · have hkind : (Update.updateInteraction result c).kind ≠ .presenceCheck := by
        change PendingKind.updateConfirmation ≠ _
        decide
      exact (((Quiet.refl c assistant).onUpdates _).setPending rfl hkind).onServer _

theorem quiet_updateStart {settings : Settings} {git : Git} :
    Quiet request.conversationId assistant (Update.start u settings git request assistant).1 := by
  simp only [Update.start]
  split
  · exact (Quiet.refl _ assistant).onUpdates _
  · unfold Update.startBehind
    split
    · exact (Quiet.refl _ assistant).onUpdates _
    · exact ((Quiet.refl _ assistant).onUpdates _).trans (quiet_offerUpdate _ _)

theorem routine_ask {kind : PendingKind} (hpresence : kind ≠ .presenceCheck)
    (hupdate : kind ≠ .updateConfirmation) :
    Routine request.conversationId assistant (ask kind request assistant) :=
  Routine.refl.setPending rfl hpresence hupdate

theorem routine_startIfEnabled {enabled : Bool} {disabledFacts : String} {kind : PendingKind}
    {action : ConfirmationAction} (hpresence : kind ≠ .presenceCheck)
    (hupdate : kind ≠ .updateConfirmation) :
    Routine request.conversationId assistant
      (startIfEnabled enabled disabledFacts kind action request assistant).1 := by
  unfold startIfEnabled
  split
  · exact .refl
  · exact routine_ask hpresence hupdate

theorem routine_runTimerRequest {args : PyDict} :
    Routine request.conversationId assistant
      (Timer.runTimerRequest u environment request args assistant).1 :=
  (Routine.refl.onServer _).clearPending

theorem routine_handleDirectRequest :
    Routine request.conversationId assistant
      (Timer.handleDirectRequest u environment request assistant).1 := by
  unfold Timer.handleDirectRequest
  split
  · exact .refl
  · exact routine_ask (by decide) (by decide)
  · split
    · exact .refl
    · exact routine_runTimerRequest
    · exact routine_ask (by decide) (by decide)

theorem routine_dispatchRoute (history : List ChatMessage) {decision : RouteDecision}
    (h : decision ≠ .interaction .update) :
    Routine request.conversationId assistant
      (dispatchRoute u environment request history assistant decision).1 := by
  cases decision with
  | interaction name =>
      cases name with
      | timer => exact routine_handleDirectRequest
      | wipe => exact routine_ask (by decide) (by decide)
      | serviceRestart => exact routine_startIfEnabled (by decide) (by decide)
      | update => exact absurd rfl h
      | reboot => exact routine_startIfEnabled (by decide) (by decide)
  | tool name args => exact Routine.refl.onServer _
  | planner => exact Routine.refl.onServer _
  | pending => exact Routine.refl.onServer _
  | direct facts => exact .refl
  | capabilities => exact .refl
  | identity => exact .refl
  | answer => exact .refl
  | confused => exact .refl

theorem quiet_dispatchRoute (history : List ChatMessage) (decision : RouteDecision) :
    Quiet request.conversationId assistant
      (dispatchRoute u environment request history assistant decision).1 := by
  by_cases h : decision = .interaction .update
  · subst h
    exact quiet_updateStart
  · exact quiet_of_routine (routine_dispatchRoute history h)

theorem route_fst (request : Request) (assistant : AssistantState) :
    (route u request assistant).1 = assistant ∨
      (route u request assistant).1 = assistant.clearPending request.conversationId := by
  have hpending : (route u request assistant).1 = { assistant with
      pending := (AgentRouter.decide u request.message request.conversationId
        assistant.server.database assistant.pending).2 } := rfl
  rw [hpending, AgentRouter.decide]
  split
  · exact Or.inl rfl
  · exact Or.inr rfl
  · split <;> exact Or.inl rfl

theorem routine_route (u : PyData) (request : Request) (assistant : AssistantState) :
    Routine request.conversationId assistant (route u request assistant).1 := by
  rcases route_fst (u := u) request assistant with h | h
  · rw [h]
    exact .refl
  · rw [h]
    exact Routine.refl.clearPending

theorem quiet_route (u : PyData) (request : Request) (assistant : AssistantState) :
    Quiet request.conversationId assistant (route u request assistant).1 :=
  quiet_of_routine (routine_route u request assistant)

theorem quiet_routeAndDispatch (history : List ChatMessage) :
    Quiet request.conversationId assistant
      (routeAndDispatch u environment request history assistant).1 := by
  have hroute := quiet_route u request assistant
  unfold routeAndDispatch
  split <;> rename_i heq <;> rw [heq] at hroute
  · exact hroute
  · exact hroute.trans (quiet_dispatchRoute history _)

structure Confirmed (u : PyData) (request : Request) (p : PendingInteraction)
    (called : List Action) (before after : AssistantState) : Prop where
  yes : isConfirmationMessage u request.message = true
  asked : before.pendingOf request.conversationId = some p
  actions : after.actions = before.actions ++ called
  kinds : ∀ action ∈ called, Authorises p.kind action
  once : called.Nodup
  consumed : after.pendingOf request.conversationId = none
  others : ∀ c, after.pendingOf c = before.pendingOf c ∨ after.pendingOf c = none

/-- What handling a message can do. -/
inductive Handled (u : PyData) (request : Request) (before after : AssistantState) : Prop where
  | quiet (h : Quiet request.conversationId before after)
  | confirmed (p : PendingInteraction) (called : List Action)
      (h : Confirmed u request p called before after)

namespace Handled

variable {before after : AssistantState}

theorem onServer (h : Handled u request before after) (server : Server) :
    Handled u request before (after.onServer server) := by
  cases h with
  | quiet h => exact .quiet (h.onServer server)
  | confirmed p called h =>
      exact .confirmed p called
        ⟨h.yes, h.asked, h.actions, h.kinds, h.once, h.consumed, h.others⟩

theorem of_onServer {server : Server} (h : Handled u request (before.onServer server) after) :
    Handled u request before after := by
  cases h with
  | quiet h => exact .quiet ⟨h.actions, h.others, h.presence⟩
  | confirmed p called h =>
      exact .confirmed p called
        ⟨h.yes, h.asked, h.actions, h.kinds, h.once, h.consumed, h.others⟩

end Handled

/-- What a call does to the server.  The other calls act on the machine and on the
checkout, outside of it. -/
def serverEffect (server : Server) : Action → Server
  | .wipeDatabase => wipeDatabase server
  | .scheduleReboot | .scheduleServiceRestart | .pullLatest | .installDependencies => server

/-- The calls logged from one state to the other, and nothing but their effects on
the server. -/
structure Performs (called : List Action) (before after : AssistantState) : Prop where
  actions : after.actions = before.actions ++ called
  server : after.server = called.foldl serverEffect before.server

namespace Performs

variable {called : List Action} {before after : AssistantState}

theorem of_kept (hactions : after.actions = before.actions)
    (hserver : after.server = before.server) : Performs [] before after :=
  ⟨hactions.trans (List.append_nil _).symm, hserver⟩

/-- A call without an effect on the server. -/
theorem perform (h : Performs called before after) (action : Action)
    (hserver : ∀ server, serverEffect server action = server) :
    Performs (called ++ [action]) before (after.perform action) where
  actions := by
    rw [AssistantState.perform_actions, h.actions, List.append_assoc]
  server := by
    rw [AssistantState.perform_server, h.server, List.foldl_append, List.foldl_cons,
      List.foldl_nil, hserver]

end Performs

section Pending

variable {pending : PendingInteraction} {answer : Reply}

/-- A rejection, a reminder or a confirmation. -/
theorem handleConfirmation_cases {kind : PendingKind} {reminder : String}
    {rejected confirmed : AssistantState → Reply}
    (hanswer : handleConfirmation u kind reminder rejected confirmed pending request assistant =
      some answer) :
    answer = rejected assistant ∨ answer.1 = assistant ∨
      isConfirmationMessage u request.message = true ∧ pending.kind = kind ∧
        answer = confirmed assistant := by
  unfold handleConfirmation at hanswer
  split at hanswer
  · exact nomatch hanswer
  · rename_i hkind
    split at hanswer
    · exact Or.inl (Option.some.inj hanswer).symm
    · split at hanswer
      · cases hanswer
        exact Or.inr (Or.inl rfl)
      · rename_i hyes
        rw [Bool.not_eq_true', Bool.not_eq_false] at hyes
        exact Or.inr (Or.inr ⟨hyes, not_not.mp hkind, (Option.some.inj hanswer).symm⟩)

theorem handled_handleConfirmation {kind : PendingKind} {reminder : String}
    {rejected confirmed : AssistantState → Reply}
    (hrejected : Quiet request.conversationId assistant (rejected assistant).1)
    (hconfirmed : isConfirmationMessage u request.message = true → pending.kind = kind →
      Handled u request assistant (confirmed assistant).1)
    (hanswer : handleConfirmation u kind reminder rejected confirmed pending request assistant =
      some answer) : Handled u request assistant answer.1 := by
  rcases handleConfirmation_cases hanswer with rfl | hsame | ⟨hyes, hkind, rfl⟩
  · exact .quiet hrejected
  · rw [hsame]
    exact .quiet (.refl _ assistant)
  · exact hconfirmed hyes hkind

theorem quiet_cancelled {facts : String} :
    Quiet request.conversationId assistant (cancelled request facts assistant).1 :=
  (Quiet.refl _ assistant).clearPending

theorem confirmed_of_cleared {called : List Action} {after : AssistantState}
    (hyes : isConfirmationMessage u request.message = true)
    (hasked : assistant.pendingOf request.conversationId = some pending)
    (hkinds : ∀ action ∈ called, Authorises pending.kind action) (honce : called.Nodup)
    (hactions : after.actions = assistant.actions ++ called)
    (hpending : ∀ c, after.pendingOf c =
      (assistant.clearPending request.conversationId).pendingOf c) :
    Confirmed u request pending called assistant after where
  yes := hyes
  asked := hasked
  actions := hactions
  kinds := hkinds
  once := honce
  consumed := (hpending _).trans (AssistantState.pendingOf_clearPending assistant _)
  others c := by
    rw [hpending]
    by_cases hc : c = request.conversationId
    · subst hc
      exact Or.inr (AssistantState.pendingOf_clearPending assistant _)
    · exact Or.inl (AssistantState.pendingOf_clearPending_of_ne hc)

theorem handled_schedule {action : Action} {enabled : Bool} {disabledFacts facts : String}
    (hyes : isConfirmationMessage u request.message = true)
    (hasked : assistant.pendingOf request.conversationId = some pending)
    (hkind : Authorises pending.kind action) :
    Handled u request assistant
      (schedule action enabled disabledFacts facts request assistant).1 :=
  .confirmed pending [action] (confirmed_of_cleared hyes hasked
    (fun _ h => List.mem_singleton.mp h ▸ hkind) (List.nodup_singleton _) rfl fun _ => rfl)

theorem handled_wipe (hasked : assistant.pendingOf request.conversationId = some pending)
    (hanswer : Wipe.handlePending u pending request assistant = some answer) :
    Handled u request assistant answer.1 := by
  refine handled_handleConfirmation quiet_cancelled (fun hyes hkind => ?_) hanswer
  exact .confirmed pending [.wipeDatabase]
    { yes := hyes
      asked := hasked
      actions := rfl
      kinds := fun action h => by rw [hkind, List.mem_singleton.mp h]; rfl
      once := List.nodup_singleton _
      consumed := rfl
      others := fun _ => Or.inr rfl }

theorem handled_reboot {settings : Settings}
    (hasked : assistant.pendingOf request.conversationId = some pending)
    (hanswer : Reboot.handlePending u settings pending request assistant = some answer) :
    Handled u request assistant answer.1 := by
  refine handled_handleConfirmation quiet_cancelled (fun hyes hkind => ?_) hanswer
  exact handled_schedule hyes hasked (by rw [hkind]; rfl)

theorem handled_serviceRestart {settings : Settings}
    (hasked : assistant.pendingOf request.conversationId = some pending)
    (hanswer : ServiceRestart.handlePending u settings pending request assistant = some answer) :
    Handled u request assistant answer.1 := by
  refine handled_handleConfirmation quiet_cancelled (fun hyes hkind => ?_) hanswer
  exact handled_schedule hyes hasked (by rw [hkind]; rfl)

theorem exists_calls_of_confirmed (settings : Settings) (git : Git) (request : Request)
    (assistant : AssistantState) :
    ∃ called : List Action,
      (Update.confirmed settings git request assistant).1.actions = assistant.actions ++ called ∧
      (∀ c, (Update.confirmed settings git request assistant).1.pendingOf c =
        (assistant.clearPending request.conversationId).pendingOf c) ∧
      (∀ action ∈ called, Authorises .updateConfirmation action) ∧ called.Nodup := by
  simp only [Update.confirmed, Update.restartAfterPull]
  split
  · exact ⟨[.pullLatest], rfl, fun _ => rfl, by simp [Authorises], by decide⟩
  · cases settings.autoUpdateInstall with
    | true =>
        exact ⟨[.pullLatest, .installDependencies, .scheduleServiceRestart], by simp,
          fun _ => rfl, by simp [Authorises], by decide⟩
    | false =>
        exact ⟨[.pullLatest, .scheduleServiceRestart], by simp,
          fun _ => rfl, by simp [Authorises], by decide⟩

theorem handled_update {settings : Settings} {git : Git}
    (hasked : assistant.pendingOf request.conversationId = some pending)
    (hanswer : Update.handlePending u settings git pending request assistant = some answer) :
    Handled u request assistant answer.1 := by
  refine handled_handleConfirmation ?_ (fun hyes hkind => ?_) hanswer
  · simp only [Update.rejected]
    split
    · exact quiet_cancelled
    · exact quiet_cancelled.onUpdates _
  · obtain ⟨called, hactions, hpending, hkinds, honce⟩ :=
      exists_calls_of_confirmed settings git request assistant
    exact .confirmed pending called
      (confirmed_of_cleared hyes hasked (by rwa [hkind]) honce hactions hpending)

theorem routine_timer
    (hanswer : Timer.handlePending u environment pending request assistant = some answer) :
    Routine request.conversationId assistant answer.1 := by
  unfold Timer.handlePending at hanswer
  split at hanswer
  · exact nomatch hanswer
  · split at hanswer
    · cases hanswer
      exact Routine.refl.clearPending
    · split at hanswer <;> cases hanswer
      · exact .refl
      · exact .refl
      · exact Routine.refl.clearPending.trans routine_runTimerRequest

theorem handled_handlePending
    (hasked : assistant.pendingOf request.conversationId = some pending)
    (hanswer : Orchestrator.handlePending u environment pending request assistant =
      some answer) : Handled u request assistant answer.1 := by
  unfold Orchestrator.handlePending at hanswer
  simp only [Option.orElse_eq_or, Option.or_eq_some_iff] at hanswer
  rcases hanswer with h | ⟨-, h | ⟨-, h | ⟨-, h | ⟨-, h⟩⟩⟩⟩
  · exact .quiet (quiet_of_routine (routine_timer h))
  · exact handled_wipe hasked h
  · exact handled_serviceRestart hasked h
  · exact handled_reboot hasked h
  · exact handled_update hasked h

theorem performs_handleConfirmation {kind : PendingKind} {reminder : String}
    {rejected confirmed : AssistantState → Reply}
    (hrejected : Performs [] assistant (rejected assistant).1)
    (hconfirmed : ∃ called, Performs called assistant (confirmed assistant).1)
    (hanswer : handleConfirmation u kind reminder rejected confirmed pending request assistant =
      some answer) : ∃ called, Performs called assistant answer.1 := by
  rcases handleConfirmation_cases hanswer with rfl | hsame | ⟨-, -, rfl⟩
  · exact ⟨[], hrejected⟩
  · rw [hsame]
    exact ⟨[], .of_kept rfl rfl⟩
  · exact hconfirmed

theorem performs_cancelled {facts : String} :
    Performs [] assistant (cancelled request facts assistant).1 :=
  .of_kept rfl rfl

theorem performs_updateConfirmed (settings : Settings) (git : Git) :
    ∃ called, Performs called assistant (Update.confirmed settings git request assistant).1 := by
  have hcleared : Performs [] assistant (assistant.clearPending request.conversationId) :=
    .of_kept rfl rfl
  have hpulled := hcleared.perform .pullLatest fun _ => rfl
  simp only [Update.confirmed, Update.restartAfterPull]
  split
  · exact ⟨_, hpulled⟩
  · split
    · exact ⟨_, (hpulled.perform .installDependencies fun _ => rfl).perform
        .scheduleServiceRestart fun _ => rfl⟩
    · exact ⟨_, hpulled.perform .scheduleServiceRestart fun _ => rfl⟩

/-- The logged calls account for what a flow that waits for a yes does to the
server: it wipes the database as often as the wipe is logged, and nothing else. -/
theorem performs_handlePending (hkind : pending.kind ≠ .timerDuration)
    (hanswer : Orchestrator.handlePending u environment pending request assistant =
      some answer) : ∃ called, Performs called assistant answer.1 := by
  unfold Orchestrator.handlePending at hanswer
  simp only [Option.orElse_eq_or, Option.or_eq_some_iff] at hanswer
  rcases hanswer with h | ⟨-, h | ⟨-, h | ⟨-, h | ⟨-, h⟩⟩⟩⟩
  · rw [Timer.handlePending, if_pos hkind] at h
    exact nomatch h
  · exact performs_handleConfirmation performs_cancelled
      ⟨[.wipeDatabase], rfl, rfl⟩ h
  · exact performs_handleConfirmation performs_cancelled
      ⟨[.scheduleServiceRestart], rfl, rfl⟩ h
  · exact performs_handleConfirmation performs_cancelled ⟨[.scheduleReboot], rfl, rfl⟩ h
  · refine performs_handleConfirmation ?_ (performs_updateConfirmed _ _) h
    simp only [Update.rejected]
    split
    · exact performs_cancelled
    · exact .of_kept rfl rfl

end Pending

theorem quiet_reroute (history : List ChatMessage) :
    Quiet request.conversationId assistant (routeAndDispatch u environment request history
      (assistant.clearPending request.conversationId)).1 :=
  (Quiet.refl _ assistant).clearPending.trans (quiet_routeAndDispatch history)

theorem handled_resume (history : List ChatMessage) :
    Handled u request assistant (((assistant.pendingOf request.conversationId).bind fun pending =>
      Orchestrator.handlePending u environment pending request assistant).getD
        (routeAndDispatch u environment request history
          (assistant.clearPending request.conversationId))).1 := by
  cases hpending : assistant.pendingOf request.conversationId with
  | none => exact .quiet (quiet_reroute history)
  | some pending =>
      rw [Option.bind_some]
      cases hanswer : Orchestrator.handlePending u environment pending request assistant with
      | none => exact .quiet (quiet_reroute history)
      | some answer => exact handled_handlePending hpending hanswer

theorem handled_resolveSource (history : List ChatMessage) :
    Handled u request assistant
      (resolveSource u environment request history assistant).1 := by
  have hroute := route_fst (u := u) request assistant
  have hquiet := quiet_route u request assistant
  unfold resolveSource
  split <;> rename_i heq <;> rw [heq] at hroute hquiet
  · exact .quiet hquiet
  · rename_i after
    rcases hroute with hroute | hroute
    · obtain rfl : after = assistant := hroute
      exact handled_resume history
    · -- the cleared conversation resumes nothing
      obtain rfl : after = assistant.clearPending request.conversationId := hroute
      rw [AssistantState.pendingOf_clearPending]
      exact .quiet (hquiet.trans (quiet_reroute history))
  · exact .quiet (hquiet.trans (quiet_dispatchRoute history _))

@[simp] theorem pendingOf_reply (resolved : Reply) (c : String) :
    (reply environment resolved).1.pendingOf c = resolved.1.pendingOf c := by
  unfold reply
  split <;> rfl

@[simp] theorem actions_reply (resolved : Reply) :
    (reply environment resolved).1.actions = resolved.1.actions := by
  unfold reply
  split <;> rfl

theorem handled_reply {resolved : Reply} (h : Handled u request assistant resolved.1) :
    Handled u request assistant (reply environment resolved).1 := by
  unfold reply
  split
  · exact h
  · exact h.onServer _

theorem handled_respond (u : PyData) (environment : Environment) (request : Request)
    (assistant : AssistantState) :
    Handled u request assistant (respond u environment request assistant).1 := by
  unfold respond
  split
  · exact .quiet (.refl _ assistant)
  · refine handled_reply ?_
    split
    · exact handled_resolveSource _
    · exact (handled_resolveSource _).of_onServer

theorem exists_timerRoute_of_isRejectionMessage {message : Text}
    (h : isRejectionMessage u message = true) (db : Database) :
    ∃ routed, timerRoute u message db = .ok routed := by
  obtain ⟨hstopwatch, htimer, hstop, hcancel⟩ := parsers_of_isRejectionMessage h
  unfold timerRoute
  rw [hstopwatch, htimer, hstop, hcancel]
  cases isTimerStatusRequest u message with
  | true => exact ⟨_, rfl⟩
  | false =>
      cases isClearAllTimersRequest u message with
      | true => exact ⟨_, rfl⟩
      | false =>
          cases isStopwatchStopRequest u message with
          | true => exact ⟨_, rfl⟩
          | false =>
              cases isTimerCancelRequest u message with
              | true => exact ⟨_, rfl⟩
              | false => exact ⟨_, rfl⟩

theorem exists_cleared_of_isRejectionMessage (environment : Environment)
    (assistant : AssistantState) {pending : PendingInteraction}
    (h : isRejectionMessage u request.message = true) (hkind : pending.kind ≠ .presenceCheck) :
    ∃ answer, Orchestrator.handlePending u environment pending request assistant = some answer ∧
      answer.1.pendingOf request.conversationId = none := by
  have hcleared := AssistantState.pendingOf_clearPending assistant request.conversationId
  cases hp : pending.kind with
  | presenceCheck => exact absurd hp hkind
  | timerDuration =>
      refine ⟨Timer.cancelPendingTimer request assistant, ?_, hcleared⟩
      simp [Orchestrator.handlePending, Timer.handlePending, hp, h]
  | wipeConfirmation =>
      refine ⟨cancelled request "Database wipe cancelled." assistant, ?_, hcleared⟩
      simp [Orchestrator.handlePending, Timer.handlePending, Wipe.handlePending,
        handleConfirmation, hp, h]
  | serviceRestartConfirmation =>
      refine ⟨cancelled request "Service restart cancelled." assistant, ?_, hcleared⟩
      simp [Orchestrator.handlePending, Timer.handlePending, Wipe.handlePending,
        ServiceRestart.handlePending, handleConfirmation, hp, h]
  | rebootConfirmation =>
      refine ⟨cancelled request "Reboot cancelled." assistant, ?_, hcleared⟩
      simp [Orchestrator.handlePending, Timer.handlePending, Wipe.handlePending,
        ServiceRestart.handlePending, Reboot.handlePending, handleConfirmation, hp, h]
  | updateConfirmation =>
      refine ⟨Update.rejected pending request assistant, ?_, ?_⟩
      · simp [Orchestrator.handlePending, Timer.handlePending, Wipe.handlePending,
          ServiceRestart.handlePending, Reboot.handlePending, Update.handlePending,
          handleConfirmation, hp, h]
      · simp only [Update.rejected]
        split <;> exact hcleared

/-- A rejection leaves the conversation without a pending interaction. -/
theorem pendingOf_respond_of_isRejectionMessage {pending : PendingInteraction}
    (h : isRejectionMessage u request.message = true)
    (hasked : assistant.pendingOf request.conversationId = some pending)
    (hkind : pending.kind ≠ .presenceCheck) :
    (respond u environment request assistant).1.pendingOf request.conversationId = none := by
  rw [respond, isSilentUiCommand_of_isRejectionMessage h]
  simp only [Bool.false_eq_true, if_false, pendingOf_reply]
  generalize history environment request (storeUserMessage request assistant) = seen
  have hstored : (storeUserMessage request assistant).pendingOf request.conversationId =
      some pending := hasked
  generalize storeUserMessage request assistant = stored at hstored ⊢
  obtain ⟨routed, hrouted⟩ := exists_timerRoute_of_isRejectionMessage h stored.server.database
  cases routed with
  | none =>
      have hroute : route u request stored = (stored, .ok .pending) := by
        rw [route, decide_of_pending hrouted hstored]
      obtain ⟨answer, hanswer, hcleared⟩ :=
        exists_cleared_of_isRejectionMessage environment stored h hkind
      rw [resolveSource, hroute]
      simp only [hstored, Option.bind_some, hanswer, Option.getD_some]
      exact hcleared
  | some decision =>
      have hroute : route u request stored =
          (stored.clearPending request.conversationId, decision) := by
        rw [route, decide_of_timerRoute hrouted]
        rfl
      have hcleared := AssistantState.pendingOf_clearPending stored request.conversationId
      rcases hdecision : decision with e | decision'
      · rw [resolveSource, hroute, hdecision]
        exact hcleared
      · rcases tool_or_direct_of_timerRoute hrouted hdecision with ⟨name, args, rfl⟩ | ⟨facts, rfl⟩
        · rw [resolveSource, hroute, hdecision]
          exact hcleared
        · rw [resolveSource, hroute, hdecision]
          exact hcleared

theorem noTimerRequest_of_isConfirmationMessage {message : Text}
    (h : isConfirmationMessage u message = true) : NoTimerRequest u message := by
  obtain ⟨hstatus, hclear, hstop, hcancel⟩ := not_timerRequest_of_isConfirmationMessage h
  obtain ⟨hstopwatch, htimer, hstopId, hcancelId⟩ := parsers_of_isConfirmationMessage h
  exact ⟨⟨hstatus, hclear, hstopwatch, htimer⟩, hstopId, hstop, hcancelId, hcancel⟩

theorem respond_of_isConfirmationMessage {pending : PendingInteraction} {answer : Reply}
    (h : isConfirmationMessage u request.message = true)
    (hasked : assistant.pendingOf request.conversationId = some pending)
    (hanswer : Orchestrator.handlePending u environment pending request
      (storeUserMessage request assistant) = some answer) :
    respond u environment request assistant = reply environment answer := by
  rw [respond, isSilentUiCommand_of_isConfirmationMessage h]
  simp only [Bool.false_eq_true, if_false]
  generalize history environment request (storeUserMessage request assistant) = seen
  have hstored : (storeUserMessage request assistant).pendingOf request.conversationId =
      some pending := hasked
  generalize storeUserMessage request assistant = stored at hstored hanswer ⊢
  have hroute : route u request stored = (stored, .ok .pending) := by
    rw [route, decide_of_pending
      (timerRoute_of_noTimerRequest (noTimerRequest_of_isConfirmationMessage h) _) hstored]
  rw [resolveSource, hroute]
  simp only [hstored, Option.bind_some, hanswer, Option.getD_some]

theorem not_isRejectionMessage_of_isConfirmationMessage {message : Text}
    (h : isConfirmationMessage u message = true) : isRejectionMessage u message = false := by
  by_contra hrejection
  rw [Bool.not_eq_false] at hrejection
  rw [isConfirmationMessage_of_isRejectionMessage hrejection] at h
  exact Bool.false_ne_true h

theorem handlePending_of_updateConfirmation {pending : PendingInteraction}
    (h : isConfirmationMessage u request.message = true)
    (hkind : pending.kind = .updateConfirmation) :
    Orchestrator.handlePending u environment pending request assistant =
      some (Update.confirmed environment.settings environment.git request assistant) := by
  simp [Orchestrator.handlePending, Timer.handlePending, Wipe.handlePending,
    ServiceRestart.handlePending, Reboot.handlePending, Update.handlePending,
    handleConfirmation, hkind, h, not_isRejectionMessage_of_isConfirmationMessage h]

theorem handlePending_of_wipeConfirmation {pending : PendingInteraction}
    (h : isConfirmationMessage u request.message = true)
    (hkind : pending.kind = .wipeConfirmation) :
    Orchestrator.handlePending u environment pending request assistant =
      some (Wipe.confirmed request assistant) := by
  simp [Orchestrator.handlePending, Timer.handlePending, Wipe.handlePending,
    handleConfirmation, hkind, h, not_isRejectionMessage_of_isConfirmationMessage h]

inductive Event where
  | message (request : Request) (environment : Environment)
  | chatMessage (request : Request) (environment : Environment)
  /-- The scheduler's `check_for_available_updates`. -/
  | updateCheck (settings : Settings) (git : Git)
  /-- What the rest of the program does to the clock, the database and the jobs. -/
  | elsewhere (server : Server)

def step (u : PyData) (assistant : AssistantState) : Event → AssistantState
  | .message request environment => (respond u environment request assistant).1
  | .chatMessage request environment => (respondChat u environment request assistant).1
  | .updateCheck settings git => Update.checkForAvailableUpdates u settings git assistant
  | .elsewhere server => assistant.onServer server

def AsksIn (c : String) : Event → Prop
  | .message request _ => request.conversationId = c
  | .updateCheck _ _ => c = Update.defaultUpdateConversationId
  | .chatMessage _ _ => False
  | .elsewhere _ => False

theorem quiet_checkForAvailableUpdates (u : PyData) (settings : Settings) (git : Git)
    (assistant : AssistantState) :
    Quiet Update.defaultUpdateConversationId assistant
      (Update.checkForAvailableUpdates u settings git assistant) := by
  simp only [Update.checkForAvailableUpdates]
  split
  · exact .refl _ assistant
  · split
    · exact (Quiet.refl _ assistant).onUpdates _
    · split
      · exact (Quiet.refl _ assistant).onUpdates _
      · exact ((Quiet.refl _ assistant).onUpdates _).trans (quiet_offerUpdate _ _)

theorem quiet_respondChat (c : String) :
    Quiet c assistant (respondChat u environment request assistant).1 := by
  refine ⟨?_, fun c' _ => ?_, fun c' p hp _ => ?_⟩
  · rw [respondChat, actions_reply]
    rfl
  · rw [respondChat, pendingOf_reply]
    rfl
  · rwa [respondChat, pendingOf_reply] at hp

/-- An event that calls something is a confirmation. -/
theorem step_cases (assistant : AssistantState) (event : Event) :
    (∃ c, Quiet c assistant (step u assistant event) ∧
      ∀ c', ¬ AsksIn c' event → (step u assistant event).pendingOf c' = assistant.pendingOf c') ∨
    ∃ request environment p called, event = .message request environment ∧
      Confirmed u request p called assistant (step u assistant event) := by
  cases event with
  | message request environment =>
      cases handled_respond u environment request assistant with
      | quiet h => exact Or.inl ⟨_, h, fun c' hc' => h.others c' (Ne.symm hc')⟩
      | confirmed p called h => exact Or.inr ⟨request, environment, p, called, rfl, h⟩
  | chatMessage request environment =>
      refine Or.inl ⟨request.conversationId, quiet_respondChat _, fun c' _ => ?_⟩
      rw [step, respondChat, pendingOf_reply]
      rfl
  | updateCheck settings git =>
      have h := quiet_checkForAvailableUpdates u settings git assistant
      exact Or.inl ⟨_, h, fun c' hc' => h.others c' hc'⟩
  | elsewhere server => exact Or.inl ⟨"", (Quiet.refl _ assistant).onServer server, fun _ _ => rfl⟩

variable (u) (init : AssistantState) (events : List Event)

/-- The actions called while event `k` is handled. -/
def calledAt (k : Nat) : List Action :=
  (stateAt (step u) init events (k + 1)).actions.drop
    (stateAt (step u) init events k).actions.length

/-- The pending interaction `p` that event `k` finds in conversation `c` was set
there by the earlier event `j` and has stayed since. -/
structure PromptedBy (c : String) (p : PendingInteraction) (j k : Nat) : Prop where
  earlier : j < k
  asks : ∃ event, events[j]? = some event ∧ AsksIn c event
  absent : (stateAt (step u) init events j).pendingOf c ≠ some p
  kept : ∀ i, j < i → i ≤ k → (stateAt (step u) init events i).pendingOf c = some p

/-- Event `k` is a confirmation in conversation `c` of the interaction that event
`j` set, and calls at most what belongs to it. -/
structure AuthorisedBy (c : String) (p : PendingInteraction) (j k : Nat) : Prop where
  message : ∃ request environment, events[k]? = some (.message request environment) ∧
    request.conversationId = c ∧ isConfirmationMessage u request.message = true
  kinds : ∀ action ∈ calledAt u init events k, Authorises p.kind action
  once : (calledAt u init events k).Nodup
  prompted : PromptedBy u init events c p j k
  consumed : (stateAt (step u) init events (k + 1)).pendingOf c = none

variable {u init events}

theorem stateAt_cases (u : PyData) (init : AssistantState) (events : List Event) (k : Nat) :
    (calledAt u init events k = [] ∧
      (stateAt (step u) init events (k + 1)).actions = (stateAt (step u) init events k).actions) ∨
    ∃ request environment p called, events[k]? = some (.message request environment) ∧
      calledAt u init events k = called ∧
      Confirmed u request p called (stateAt (step u) init events k)
        (stateAt (step u) init events (k + 1)) := by
  cases hevent : events[k]? with
  | none =>
      left
      rw [calledAt, stateAt_succ_of_none hevent, List.drop_length]
      exact ⟨rfl, rfl⟩
  | some event =>
      rw [calledAt, stateAt_succ hevent]
      rcases step_cases (u := u) (stateAt (step u) init events k) event with
        ⟨c, hquiet, -⟩ | ⟨request, environment, p, called, rfl, hconfirmed⟩
      · left
        rw [hquiet.actions, List.drop_length]
        exact ⟨rfl, rfl⟩
      · exact Or.inr ⟨request, environment, p, called, rfl,
          by rw [hconfirmed.actions, List.drop_left], hconfirmed⟩

/-- A yes in a run: the message is stored, the calls logged for it act on the server
and nothing else does, and the reply is stored. -/
theorem performs_stateAt {k : Nat} {request : Request} {environment : Environment}
    (hevent : events[k]? = some (.message request environment))
    (hyes : isConfirmationMessage u request.message = true) {p : PendingInteraction}
    (hasked : (stateAt (step u) init events k).pendingOf request.conversationId = some p)
    {answer : Reply} (hkind : p.kind ≠ .timerDuration)
    (hanswer : Orchestrator.handlePending u environment p request
      (storeUserMessage request (stateAt (step u) init events k)) = some answer) :
    Performs (calledAt u init events k)
        (storeUserMessage request (stateAt (step u) init events k)) answer.1 ∧
      stateAt (step u) init events (k + 1) = (reply environment answer).1 := by
  have hnext : stateAt (step u) init events (k + 1) = (reply environment answer).1 := by
    rw [stateAt_succ hevent, step, respond_of_isConfirmationMessage hyes hasked hanswer]
  obtain ⟨called, hperforms⟩ := performs_handlePending hkind hanswer
  have hcalled : calledAt u init events k = called := by
    have hbefore : (storeUserMessage request (stateAt (step u) init events k)).actions =
        (stateAt (step u) init events k).actions := rfl
    rw [calledAt, hnext, actions_reply, hperforms.actions, hbefore, List.drop_left]
  rw [hcalled]
  exact ⟨hperforms, hnext⟩

/-- What is pending was set by an event that may ask. -/
theorem exists_promptedBy (hinit : ∀ c, init.pendingOf c = none) {c : String}
    {p : PendingInteraction} {k : Nat}
    (hp : (stateAt (step u) init events k).pendingOf c = some p) :
    ∃ j, PromptedBy u init events c p j k := by
  have hfirst : init.pendingOf c ≠ some p := by
    rw [hinit c]
    exact nofun
  obtain ⟨j, event, hj, hevent, habsent, hkept⟩ :=
    exists_last_change (f := (AssistantState.pendingOf · c)) hfirst hp
  refine ⟨j, hj, ⟨event, hevent, ?_⟩, habsent, hkept⟩
  by_contra hasks
  have hset := hkept (j + 1) (Nat.lt_succ_self j) hj
  rw [stateAt_succ hevent] at hset
  rcases step_cases (u := u) (stateAt (step u) init events j) event with
    ⟨-, -, hothers⟩ | ⟨request, environment, q, called, -, hconfirmed⟩
  · rw [hothers c hasks] at hset
    exact habsent hset
  · rcases hconfirmed.others c with hsame | hnone
    · rw [hsame] at hset
      exact habsent hset
    · rw [hnone] at hset
      exact nomatch hset

def WithoutPresenceCheck (assistant : AssistantState) : Prop :=
  ∀ c p, assistant.pendingOf c = some p → p.kind ≠ .presenceCheck

theorem withoutPresenceCheck_stateAt (hinit : ∀ c, init.pendingOf c = none) (k : Nat) :
    WithoutPresenceCheck (stateAt (step u) init events k) := by
  refine invariant_of_kept ?_ ?_ k
  · intro c p hp
    rw [hinit c] at hp
    exact nomatch hp
  · intro s event ih c p hp hkind
    rcases step_cases (u := u) s event with
      ⟨c', hquiet, -⟩ | ⟨request, environment, q, called, -, hconfirmed⟩
    · exact ih c p (hquiet.presence c p hp hkind) hkind
    · rcases hconfirmed.others c with hsame | hnone
      · exact ih c p (hsame ▸ hp) hkind
      · rw [hnone] at hp
        exact nomatch hp

theorem exists_authorisedBy (hinit : ∀ c, init.pendingOf c = none) {k : Nat}
    (hcalled : calledAt u init events k ≠ []) :
    ∃ c p j, AuthorisedBy u init events c p j k := by
  rcases stateAt_cases u init events k with
    ⟨hnil, -⟩ | ⟨request, environment, p, called, hevent, hcall, hconfirmed⟩
  · exact absurd hnil hcalled
  · obtain ⟨j, hj⟩ := exists_promptedBy hinit hconfirmed.asked
    exact ⟨request.conversationId, p, j, ⟨request, environment, hevent, rfl, hconfirmed.yes⟩,
      hcall ▸ hconfirmed.kinds, hcall ▸ hconfirmed.once, hj, hconfirmed.consumed⟩

/-- The interaction that one event set authorises in one later event at most. -/
theorem AuthorisedBy.unique {c : String} {p p' : PendingInteraction} {j k k' : Nat}
    (h : AuthorisedBy u init events c p j k) (h' : AuthorisedBy u init events c p' j k') :
    k = k' := by
  have hlt : ∀ {p p' : PendingInteraction} {k k' : Nat}, AuthorisedBy u init events c p j k →
      AuthorisedBy u init events c p' j k' → ¬ k < k' := by
    intro p p' k k' h h' hlt
    have hkept := h'.prompted.kept (k + 1) (Nat.lt_succ_of_lt h.prompted.earlier) hlt
    rw [h.consumed] at hkept
    exact nomatch hkept
  exact Nat.le_antisymm (Nat.not_lt.mp (hlt h' h)) (Nat.not_lt.mp (hlt h h'))

theorem confirmationProtocol (u : PyData) (init : AssistantState) (events : List Event)
    (hinit : ∀ c, init.pendingOf c = none) :
    (∀ k, (stateAt (step u) init events (k + 1)).actions =
      (stateAt (step u) init events k).actions ++ calledAt u init events k) ∧
    (∀ k, calledAt u init events k ≠ [] → ∃ c p j, AuthorisedBy u init events c p j k) ∧
    (∀ c p p' j k k', AuthorisedBy u init events c p j k →
      AuthorisedBy u init events c p' j k' → k = k') ∧
    ∀ k request environment, events[k]? = some (.message request environment) →
      isRejectionMessage u request.message = true →
      calledAt u init events k = [] ∧
        ∀ p, (stateAt (step u) init events k).pendingOf request.conversationId = some p →
          (stateAt (step u) init events (k + 1)).pendingOf request.conversationId = none := by
  refine ⟨fun k => ?_, fun k => exists_authorisedBy hinit, fun _ _ _ _ _ _ => AuthorisedBy.unique,
    fun k request environment hevent hrejection => ⟨?_, fun p hp => ?_⟩⟩
  · rcases stateAt_cases u init events k with
      ⟨hnil, hactions⟩ | ⟨_, _, _, _, -, hcall, hconfirmed⟩
    · rw [hnil, hactions, List.append_nil]
    · rw [hcall, hconfirmed.actions]
  · by_contra hcalled
    obtain ⟨c, p, j, hauthorised⟩ := exists_authorisedBy hinit hcalled
    obtain ⟨request', environment', hevent', -, hyes⟩ := hauthorised.message
    rw [hevent] at hevent'
    cases hevent'
    rw [isConfirmationMessage_of_isRejectionMessage hrejection] at hyes
    exact nomatch hyes
  · rw [stateAt_succ hevent]
    exact pendingOf_respond_of_isRejectionMessage hrejection hp
      (withoutPresenceCheck_stateAt hinit k _ p hp)

def wipeAndYes : List Event :=
  ["wipe your memory", "yes"].map fun message =>
    .message ⟨"default", message.toList⟩ (.offline {})

theorem confirmationProtocol_wipeAndYes :
    calledAt .ascii (.initial (.initial (.stopped 0))) wipeAndYes 1 = [.wipeDatabase] ∧
      ∃ c p j, AuthorisedBy .ascii (.initial (.initial (.stopped 0))) wipeAndYes c p j 1 := by
  have hcalled :
      calledAt .ascii (.initial (.initial (.stopped 0))) wipeAndYes 1 = [.wipeDatabase] := by
    decide +kernel
  refine ⟨hcalled, (confirmationProtocol .ascii (.initial (.initial (.stopped 0))) wipeAndYes
    fun _ => rfl).2.1 1 ?_⟩
  rw [hcalled]
  exact List.cons_ne_nil _ _

end NanoCore.Assistant.Confirmations
