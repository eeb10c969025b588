import NanoCore.Assistant.Pending
import NanoCore.Assistant.Rules.Intents
import NanoCore.Memory.Repository

namespace NanoCore.Assistant.AgentRouter

open NanoCore.Foundation.PythonText
open NanoCore.Assistant.Pending
open NanoCore.Assistant.Rules.Intents
open NanoCore.Memory.Models
open NanoCore.Memory.Repository
open NanoCore.Timers.Parsing

inductive Interaction where
  | timer
  | wipe
  | serviceRestart
  | update
  | reboot
  deriving DecidableEq, Repr

/-- The mode of a route with the data that the mode carries. -/
inductive RouteDecision where
  | tool (name : String) (args : PyDict)
  | direct (facts : Text)
  | interaction (name : Interaction)
  | pending
  | capabilities
  | identity
  | answer
  | planner
  | confused
  deriving DecidableEq, Repr

def multipleStopwatchesFacts : Text :=
  ("Multiple stopwatches are running. Say stop stopwatch and the stopwatch id, " ++
    "or stop stopwatches to clear all.").toList

def multipleTimersFacts : Text :=
  ("Multiple timers are running. Say cancel timer and the timer id, " ++
    "or cancel timers to clear all.").toList

variable (u : PyData)

def stopwatchStopRoute (message : Text) (db : Database) : Except PyError RouteDecision := do
  if (← isAmbiguousSingularStopwatchStop u message) && 1 < (listStopwatches db).length then
    return .direct multipleStopwatchesFacts
  return .tool "stop_stopwatches" []

def timerCancelRoute (message : Text) (db : Database) : Except PyError RouteDecision := do
  if (← isAmbiguousSingularTimerCancel u message) && 1 < (listCountdownTimers db).length then
    return .direct multipleTimersFacts
  return .tool "cancel_timers" []

/-- The routes of `decide` that clear the pending interaction.  The outer result
is of the tests made before the clearing, the inner one of those made after it. -/
def timerRoute (message : Text) (db : Database) :
    Except PyError (Option (Except PyError RouteDecision)) := do
  if isTimerStatusRequest u message then return some (.ok (.tool "list_timers" []))
  if isClearAllTimersRequest u message then return some (.ok (.tool "clear_all_timers" []))
  if let some args ← parseStopwatchRenameArgs u message then
    return some (.ok (.tool "rename_stopwatch" args))
  if let some args ← parseTimerRenameArgs u message then
    return some (.ok (.tool "rename_timer" args))
  if let some args ← parseStopwatchStopArgs u message then
    return some (.ok (.tool "stop_stopwatches" args))
  if isStopwatchStopRequest u message then return some (stopwatchStopRoute u message db)
  if let some args ← parseTimerCancelArgs u message then
    return some (.ok (.tool "cancel_timers" args))
  if isTimerCancelRequest u message then return some (timerCancelRoute u message db)
  return none

def freshRoute (message : Text) : Except PyError RouteDecision := do
  if isStopwatchStartRequest u message then return .tool "start_stopwatch" []
  if (← needsTimerDuration u message) || isTimerStartRequest u message then
    return .interaction .timer
  if needsWipeConfirmation u message then return .interaction .wipe
  if needsServiceRestartConfirmation u message then return .interaction .serviceRestart
  if needsUpdateConfirmation u message then return .interaction .update
  if needsRebootConfirmation u message then return .interaction .reboot
  if isHealthCheckRequest u message then return .tool "check_health" []
  if isSystemAnalysisRequest u message then return .tool "analyze_system" []
  if isInternalNoteListRequest u message then return .tool "list_internal_notes" []
  if isCapabilityQuestion u message then return .capabilities
  if isIdentityQuestion u message then return .identity
  if shouldAnswerWithoutTools u message then return .answer
  if ← messageMatchesAnyToolIntent u message then return .planner
  return .confused

/-- The decision, with the pending interactions it leaves. -/
def decide (message : Text) (conversationId : String) (db : Database) (pending : PendingStore) :
    Except PyError RouteDecision × PendingStore :=
  match timerRoute u message db with
  | .error e => (.error e, pending)
  | .ok (some decision) => (decision, PendingStore.clear pending conversationId)
  | .ok none =>
      if (PendingStore.get pending conversationId).isSome then (.ok .pending, pending)
      else (freshRoute u message, pending)

theorem decide_of_timerRoute {u : PyData} {message : Text} {db : Database}
    {decision : Except PyError RouteDecision}
    (hroute : timerRoute u message db = .ok (some decision)) (conversationId : String)
    (pending : PendingStore) :
    decide u message conversationId db pending =
      (decision, PendingStore.clear pending conversationId) := by
  rw [decide, hroute]

theorem decide_of_pending {u : PyData} {message : Text} {db : Database} {c : String}
    {pending : PendingStore} {interaction : PendingInteraction}
    (hroute : timerRoute u message db = .ok none)
    (hpending : PendingStore.get pending c = some interaction) :
    decide u message c db pending = (.ok .pending, pending) := by
  rw [decide, hroute]
  simp only [hpending, Option.isSome_some, if_true]

theorem decide_of_fresh {u : PyData} {message : Text} {db : Database} {c : String}
    {pending : PendingStore} (hroute : timerRoute u message db = .ok none)
    (hpending : PendingStore.get pending c = none) :
    decide u message c db pending = (freshRoute u message, pending) := by
  rw [decide, hroute]
  simp only [hpending, Option.isSome_none, Bool.false_eq_true, if_false]

example : (decide .ascii "cancel timer 3".toList "default" .empty .empty).1 =
    .ok (.tool "cancel_timers" [("timer_id", .int 3)]) := by decide +kernel

section Routes

variable (u : PyData) (message : Text)

/-- The message is no question about the timers, clears nothing and renames
nothing. -/
structure PassesRenames : Prop where
  status : isTimerStatusRequest u message = false
  clearAll : isClearAllTimersRequest u message = false
  renameStopwatch : parseStopwatchRenameArgs u message = .ok none
  renameTimer : parseTimerRenameArgs u message = .ok none

structure IsPlainStop : Prop extends PassesRenames u message where
  stopById : parseStopwatchStopArgs u message = .ok none
  stop : isStopwatchStopRequest u message = true

structure IsPlainCancel : Prop extends PassesRenames u message where
  stopById : parseStopwatchStopArgs u message = .ok none
  stop : isStopwatchStopRequest u message = false
  cancelById : parseTimerCancelArgs u message = .ok none
  cancel : isTimerCancelRequest u message = true

/-- None of the tests that clear the pending interaction takes the message. -/
structure NoTimerRequest : Prop extends PassesRenames u message where
  stopById : parseStopwatchStopArgs u message = .ok none
  stop : isStopwatchStopRequest u message = false
  cancelById : parseTimerCancelArgs u message = .ok none
  cancel : isTimerCancelRequest u message = false

inductive TimerRouted (db : Database) : Except PyError RouteDecision → Prop where
  | status : TimerRouted db (.ok (.tool "list_timers" []))
  | clearAll (h : isClearAllTimersRequest u message = true) :
      TimerRouted db (.ok (.tool "clear_all_timers" []))
  | renameStopwatch (args : PyDict) : TimerRouted db (.ok (.tool "rename_stopwatch" args))
  | renameTimer (args : PyDict) : TimerRouted db (.ok (.tool "rename_timer" args))
  | stopById {args : PyDict} (h : parseStopwatchStopArgs u message = .ok (some args)) :
      TimerRouted db (.ok (.tool "stop_stopwatches" args))
  | stop (h : IsPlainStop u message) : TimerRouted db (stopwatchStopRoute u message db)
  | cancelById {args : PyDict} (h : parseTimerCancelArgs u message = .ok (some args)) :
      TimerRouted db (.ok (.tool "cancel_timers" args))
  | cancel (h : IsPlainCancel u message) : TimerRouted db (timerCancelRoute u message db)

/-- What the tests that clear the pending interaction can give. -/
inductive TimerTested (db : Database) :
    Except PyError (Option (Except PyError RouteDecision)) → Prop where
  | raised (e : PyError) : TimerTested db (.error e)
  | passed (h : NoTimerRequest u message) : TimerTested db (.ok none)
  | routed {decision : Except PyError RouteDecision} (h : TimerRouted u message db decision) :
      TimerTested db (.ok (some decision))

end Routes

variable {u : PyData} {message : Text} {db : Database}

theorem timerTested_timerRoute : TimerTested u message db (timerRoute u message db) := by
  unfold timerRoute
  cases hstatus : isTimerStatusRequest u message with
  | true => exact .routed .status
  | false =>
      cases hclear : isClearAllTimersRequest u message with
      | true => exact .routed (.clearAll hclear)
      | false =>
          rcases hstopwatch : parseStopwatchRenameArgs u message with e | _ | args
          · exact .raised e
          · rcases htimer : parseTimerRenameArgs u message with e | _ | args
            · exact .raised e
            · have hpasses : PassesRenames u message := ⟨hstatus, hclear, hstopwatch, htimer⟩
              rcases hstopId : parseStopwatchStopArgs u message with e | _ | args
              · exact .raised e
              · cases hstop : isStopwatchStopRequest u message with
                | true => exact .routed (.stop ⟨hpasses, hstopId, hstop⟩)
                | false =>
                    rcases hcancelId : parseTimerCancelArgs u message with e | _ | args
                    · exact .raised e
                    · cases hcancel : isTimerCancelRequest u message with
                      | true =>
                          exact .routed (.cancel ⟨hpasses, hstopId, hstop, hcancelId, hcancel⟩)
                      | false => exact .passed ⟨hpasses, hstopId, hstop, hcancelId, hcancel⟩
                    · exact .routed (.cancelById hcancelId)
              · exact .routed (.stopById hstopId)
            · exact .routed (.renameTimer args)
          · exact .routed (.renameStopwatch args)

theorem timerRouted_of_timerRoute {decision : Except PyError RouteDecision}
    (h : timerRoute u message db = .ok (some decision)) :
    TimerRouted u message db decision := by
  have htested : TimerTested u message db (timerRoute u message db) := timerTested_timerRoute
  rw [h] at htested
  cases htested with
  | routed hrouted => exact hrouted

theorem noTimerRequest_of_timerRoute (h : timerRoute u message db = .ok none) :
    NoTimerRequest u message := by
  have htested : TimerTested u message db (timerRoute u message db) := timerTested_timerRoute
  rw [h] at htested
  cases htested with
  | passed hpassed => exact hpassed

theorem timerRoute_of_isPlainStop (h : IsPlainStop u message) :
    timerRoute u message db = .ok (some (stopwatchStopRoute u message db)) := by
  unfold timerRoute
  rw [h.status, h.clearAll, h.renameStopwatch, h.renameTimer, h.stopById, h.stop]
  rfl

theorem timerRoute_of_isPlainCancel (h : IsPlainCancel u message) :
    timerRoute u message db = .ok (some (timerCancelRoute u message db)) := by
  unfold timerRoute
  rw [h.status, h.clearAll, h.renameStopwatch, h.renameTimer, h.stopById, h.stop, h.cancelById,
    h.cancel]
  rfl

theorem timerRoute_of_noTimerRequest (h : NoTimerRequest u message) (db : Database) :
    timerRoute u message db = .ok none := by
  unfold timerRoute
  rw [h.status, h.clearAll, h.renameStopwatch, h.renameTimer, h.stopById, h.stop, h.cancelById,
    h.cancel]
  rfl

theorem stopwatchStopRoute_eq {ambiguous : Bool}
    (h : isAmbiguousSingularStopwatchStop u message = .ok ambiguous) :
    stopwatchStopRoute u message db =
      .ok (if ambiguous && 1 < (listStopwatches db).length then .direct multipleStopwatchesFacts
        else .tool "stop_stopwatches" []) := by
  unfold stopwatchStopRoute
  rw [h]
  cases hcount : ambiguous && Decidable.decide (1 < (listStopwatches db).length) <;>
    simp only [hcount, bind, Except.bind, pure, Except.pure, if_true, if_false,
      Bool.false_eq_true]

theorem timerCancelRoute_eq {ambiguous : Bool}
    (h : isAmbiguousSingularTimerCancel u message = .ok ambiguous) :
    timerCancelRoute u message db =
      .ok (if ambiguous && 1 < (listCountdownTimers db).length then .direct multipleTimersFacts
        else .tool "cancel_timers" []) := by
  unfold timerCancelRoute
  rw [h]
  cases hcount : ambiguous && Decidable.decide (1 < (listCountdownTimers db).length) <;>
    simp only [hcount, bind, Except.bind, pure, Except.pure, if_true, if_false,
      Bool.false_eq_true]

theorem tool_or_direct_of_timerRoute {routed : Except PyError RouteDecision}
    (h : timerRoute u message db = .ok (some routed)) {decision : RouteDecision}
    (hdecision : routed = .ok decision) :
    (∃ name args, decision = .tool name args) ∨ ∃ facts, decision = .direct facts := by
  have htool : ∀ {name args}, Except.ok (RouteDecision.tool name args) = routed →
      (∃ name args, decision = .tool name args) ∨ ∃ facts, decision = .direct facts := by
    rintro name args rfl
    cases hdecision
    exact Or.inl ⟨name, args, rfl⟩
  cases timerRouted_of_timerRoute h with
  | status => exact htool rfl
  | clearAll _ => exact htool rfl
  | renameStopwatch _ => exact htool rfl
  | renameTimer _ => exact htool rfl
  | stopById _ => exact htool rfl
  | cancelById _ => exact htool rfl
  | stop _ =>
      rcases hambiguous : isAmbiguousSingularStopwatchStop u message with e | ambiguous
      · rw [stopwatchStopRoute, hambiguous] at hdecision
        exact nomatch hdecision
      · rw [stopwatchStopRoute_eq hambiguous] at hdecision
        split at hdecision <;> cases hdecision
        · exact Or.inr ⟨_, rfl⟩
        · exact Or.inl ⟨_, _, rfl⟩
  | cancel _ =>
      rcases hambiguous : isAmbiguousSingularTimerCancel u message with e | ambiguous
      · rw [timerCancelRoute, hambiguous] at hdecision
        exact nomatch hdecision
      · rw [timerCancelRoute_eq hambiguous] at hdecision
        split at hdecision <;> cases hdecision
        · exact Or.inr ⟨_, rfl⟩
        · exact Or.inl ⟨_, _, rfl⟩

/-- Decisions for neither a tool nor a direct answer are made for messages without a
timer request, and leave the pending interactions as they are. -/
theorem of_decide {c : String} {pending : PendingStore} {decision : RouteDecision}
    (h : (decide u message c db pending).1 = .ok decision)
    (htool : ∀ name args, decision ≠ .tool name args)
    (hdirect : ∀ facts, decision ≠ .direct facts) :
    NoTimerRequest u message ∧ (decide u message c db pending).2 = pending ∧
      (PendingStore.get pending c = none ∧ freshRoute u message = .ok decision ∨
        (PendingStore.get pending c).isSome = true ∧ decision = .pending) := by
  rcases hroute : timerRoute u message db with e | _ | routed
  · rw [decide, hroute] at h
    cases h
  · refine ⟨noTimerRequest_of_timerRoute hroute, ?_⟩
    cases hpending : PendingStore.get pending c with
    | none =>
        rw [decide_of_fresh hroute hpending] at h ⊢
        exact ⟨rfl, .inl ⟨rfl, h⟩⟩
    | some interaction =>
        rw [decide_of_pending hroute hpending] at h ⊢
        exact ⟨rfl, .inr ⟨rfl, (Except.ok.inj h).symm⟩⟩
  · rw [decide_of_timerRoute hroute] at h
    rcases tool_or_direct_of_timerRoute hroute h with ⟨name, args, htaken⟩ | ⟨facts, htaken⟩
    · exact absurd htaken (htool name args)
    · exact absurd htaken (hdirect facts)

def RoutesWithin (tools : List String) (decision : Except PyError RouteDecision) : Prop :=
  ∀ name args, decision = .ok (.tool name args) → name ∈ tools

section RoutesWithin

variable {tools : List String} {a b : Except PyError RouteDecision}

theorem RoutesWithin.ite {c : Prop} [Decidable c] (ha : RoutesWithin tools a)
    (hb : RoutesWithin tools b) : RoutesWithin tools (if c then a else b) := by
  split
  · exact ha
  · exact hb

theorem RoutesWithin.bind {β : Type} {x : Except PyError β}
    {f : β → Except PyError RouteDecision} (hf : ∀ y, RoutesWithin tools (f y)) :
    RoutesWithin tools (x >>= f) := by
  cases x with
  | error e => exact nofun
  | ok y => exact hf y

theorem RoutesWithin.tool {name : String} (hname : name ∈ tools) (args : PyDict) :
    RoutesWithin tools (.ok (.tool name args)) := by
  intro other args' h
  cases h
  exact hname

end RoutesWithin

theorem routesWithin_freshRoute : RoutesWithin
    ["start_stopwatch", "check_health", "analyze_system", "list_internal_notes"]
    (freshRoute u message) := by
  refine .ite (.tool (by simp) []) (.bind fun _ => ?_)
  refine .ite nofun (.ite nofun (.ite nofun (.ite nofun (.ite nofun ?_))))
  refine .ite (.tool (by simp) []) (.ite (.tool (by simp) []) (.ite (.tool (by simp) []) ?_))
  exact .ite nofun (.ite nofun (.ite nofun (.bind fun _ => .ite nofun nofun)))

end NanoCore.Assistant.AgentRouter
