import NanoCore.Assistant.AgentRouter
import NanoCore.Timers.MassWords
import NanoCore.Timers.Removal

namespace NanoCore.Assistant.MassDeletion

open NanoCore.Foundation.KeyedTable
open NanoCore.Foundation.PythonDatetime
open NanoCore.Foundation.PythonText
open NanoCore.Foundation.RegexSearch
open NanoCore.Foundation.PythonRegex
open NanoCore.Assistant.AgentRouter
open NanoCore.Assistant.Pending
open NanoCore.Common.Duration
open NanoCore.Memory.Models
open NanoCore.Memory.Repository
open NanoCore.Runtime.State
open NanoCore.Timers.Labels
open NanoCore.Timers.MassWords
open NanoCore.Timers.Operations
open NanoCore.Timers.Parsing
open NanoCore.Timers.Removal

/-- The rows of a kind that are stored before and not after. -/
def removedRows (kind : TimerKind) (before after : Server) : List Timer :=
  (before.database.timers.filter fun timer =>
    timer.kind = kind && timer ∉ after.database.timers.rows).rows

def RemovesSeveral (before after : Server) : Prop :=
  1 < (removedRows .countdown before after).length ∨
    1 < (removedRows .stopwatch before after).length

theorem mem_removedRows {kind : TimerKind} {before after : Server} {timer : Timer} :
    timer ∈ removedRows kind before after ↔
      timer ∈ before.database.timers ∧ timer.kind = kind ∧ timer ∉ after.database.timers := by
  rw [removedRows, Table.mem_rows, Table.mem_filter, Bool.and_eq_true, decide_eq_true_eq,
    decide_eq_true_eq]
  rfl

theorem length_removedRows_le_one {kind : TimerKind} {before after : Server} {id : Int}
    (h : ∀ timer ∈ removedRows kind before after, timer.id = id) :
    (removedRows kind before after).length ≤ 1 := by
  have hnodup : ((removedRows kind before after).map Timer.id).Nodup :=
    (before.database.timers.filter _).keys_nodup
  rcases hrows : removedRows kind before after with _ | ⟨a, _ | ⟨b, rest⟩⟩
  · exact Nat.zero_le 1
  · exact le_rfl
  · rw [hrows] at hnodup h
    have ha := h a (by simp)
    have hb := h b (by simp)
    simp [ha, hb] at hnodup

theorem removedRows_eq_nil {kind : TimerKind} {before after : Server}
    (h : ∀ timer ∈ before.database.timers, timer.kind = kind → timer ∈ after.database.timers) :
    removedRows kind before after = [] := by
  rw [List.eq_nil_iff_forall_not_mem]
  intro timer hmem
  obtain ⟨hbefore, hkind, hafter⟩ := mem_removedRows.mp hmem
  exact hafter (h timer hbefore hkind)

theorem length_removedRows_le (kind : TimerKind) (before after : Server) :
    (removedRows kind before after).length ≤
      (before.database.timers.filter fun timer => timer.kind = kind).rows.length := by
  refine List.Sublist.length_le ?_
  refine List.monotone_filter_right _ fun timer h => ?_
  rw [Bool.and_eq_true] at h
  exact h.1

variable {u : PyData} {server : Server}

theorem removedRows_stopwatch_cancelTimers (args : PyDict) :
    removedRows .stopwatch server (cancelTimers u args server).1 = [] := by
  refine removedRows_eq_nil fun timer hmem hkind => mem_cancelTimers.mpr ⟨hmem, fun hlisted => ?_⟩
  rw [hlisted.1] at hkind
  exact TimerKind.noConfusion hkind

theorem removedRows_countdown_stopStopwatches (args : PyDict) :
    removedRows .countdown server (stopStopwatches u args server).1 = [] := by
  refine removedRows_eq_nil fun timer hmem hkind =>
    mem_stopStopwatches.mpr ⟨hmem, fun hlisted => ?_⟩
  rw [hlisted.1] at hkind
  exact TimerKind.noConfusion hkind

theorem not_removesSeveral_cancelById (n : Int) :
    ¬ RemovesSeveral server (cancelTimers u [("timer_id", .int n)] server).1 := by
  rintro (hseveral | hseveral)
  · suffices hid : ∀ timer ∈ removedRows _ server _, timer.id = n from
      Nat.not_le_of_lt hseveral (length_removedRows_le_one hid)
    intro timer h
    obtain ⟨hmem, -, hgone⟩ := mem_removedRows.mp h
    rw [mem_cancelTimers, not_and_not_right] at hgone
    obtain ⟨-, hid⟩ := hgone hmem
    obtain ⟨other, hother, hsame⟩ := List.mem_map.mp hid
    rw [selectedTimers, List.mem_filter, requestedLabel_of_lookup rfl] at hother
    have hmatch := hother.2
    rw [show ([("timer_id", PyScalar.int n)] : PyDict).lookup "timer_id" = some (.int n) from rfl,
      timerMatchesCancelRequest_int, decide_eq_true_eq] at hmatch
    exact hsame ▸ hmatch
  · rw [removedRows_stopwatch_cancelTimers] at hseveral
    exact absurd hseveral (by decide)

theorem not_removesSeveral_stopById (n : Int) :
    ¬ RemovesSeveral server (stopStopwatches u [("stopwatch_id", .int n)] server).1 := by
  rintro (hseveral | hseveral)
  · rw [removedRows_countdown_stopStopwatches] at hseveral
    exact absurd hseveral (by decide)
  · suffices hid : ∀ timer ∈ removedRows _ server _, timer.id = n from
      Nat.not_le_of_lt hseveral (length_removedRows_le_one hid)
    intro timer h
    obtain ⟨hmem, -, hgone⟩ := mem_removedRows.mp h
    rw [mem_stopStopwatches, not_and_not_right] at hgone
    obtain ⟨-, hid⟩ := hgone hmem
    obtain ⟨other, hother, hsame⟩ := List.mem_map.mp hid
    rw [selectedStopwatches, List.mem_filter, requestedLabel_of_lookup rfl] at hother
    have hmatch := hother.2
    rw [show ([("stopwatch_id", PyScalar.int n)] : PyDict).lookup "stopwatch_id" =
      some (.int n) from rfl, timerMatchesCancelRequest_int, decide_eq_true_eq] at hmatch
    exact hsame ▸ hmatch

theorem selectedTimers_nil (db : Database) : selectedTimers u [] db = activeCountdownTimers db := by
  rw [selectedTimers, requestedLabel_of_lookup rfl]
  exact List.filter_eq_self.mpr fun timer _ => timerMatchesCancelRequest_none timer.id timer.label

theorem selectedStopwatches_nil (db : Database) :
    selectedStopwatches u [] db = activeStopwatches db := by
  rw [selectedStopwatches, requestedLabel_of_lookup rfl]
  exact List.filter_eq_self.mpr fun timer _ => timerMatchesCancelRequest_none timer.id timer.label

/-- The words of a message as the plural and singular tests read them. -/
def singularText (u : PyData) (message : Text) : Text :=
  u.lower (normalizeRenameCommandMessage message)

/-- A request to stop stopwatches without an id in which `stopwatch` is no word
of its own. -/
def UnrefusedStop (u : PyData) (message : Text) : Prop :=
  IsPlainStop u message ∧
    occurs (wholeWord u "stopwatch") (normalizeStopwatchSpelling u (singularText u message)) =
      false

/-- A request to cancel countdowns without an id that names a duration, or in
which `timer` is no word of its own. -/
def UnrefusedCancel (u : PyData) (message : Text) : Prop :=
  IsPlainCancel u message ∧
    ((∃ seconds, extractDurationSeconds u (u.lower message) = .ok (some seconds)) ∨
      extractDurationSeconds u (u.lower message) = .ok none ∧
        occurs (wholeWord u "timer") (singularText u message) = false)

variable {message : Text}

theorem isAmbiguousSingularStopwatchStop_of_plain (h : IsPlainStop u message) :
    isAmbiguousSingularStopwatchStop u message =
      .ok (!isPluralStopwatchStopRequest u message &&
        occurs (wholeWord u "stopwatch")
          (normalizeStopwatchSpelling u (singularText u message))) := by
  unfold isAmbiguousSingularStopwatchStop
  rw [h.stopById, h.stop]
  cases isPluralStopwatchStopRequest u message <;> rfl

theorem isAmbiguousSingularTimerCancel_of_plain (h : IsPlainCancel u message) :
    isAmbiguousSingularTimerCancel u message =
      if isPluralTimerCancelRequest u message then .ok false
      else (extractDurationSeconds u (u.lower message)).map fun seconds =>
        seconds.isNone && occurs (wholeWord u "timer") (singularText u message) := by
  unfold isAmbiguousSingularTimerCancel
  rw [h.cancelById, h.cancel]
  cases isPluralTimerCancelRequest u message with
  | true => rfl
  | false => rcases extractDurationSeconds u (u.lower message) with e | _ | seconds <;> rfl

section Run

variable {args : PyDict} {server' : Server} {result : Except PyError Text}

theorem eq_of_runTimerTool_stop
    (h : runTimerTool u "stop_stopwatches" args server = some (server', result)) :
    server' = (stopStopwatches u args server).1 := by
  have hrun : runTimerTool u "stop_stopwatches" args server =
      some (stopStopwatches u args server) := rfl
  exact congrArg Prod.fst (Option.some.inj (h.symm.trans hrun))

theorem eq_of_runTimerTool_cancel
    (h : runTimerTool u "cancel_timers" args server = some (server', result)) :
    server' = (cancelTimers u args server).1 := by
  have hrun : runTimerTool u "cancel_timers" args server = some (cancelTimers u args server) := rfl
  exact congrArg Prod.fst (Option.some.inj (h.symm.trans hrun))

end Run

/-- A plain stop that takes several stopwatches is a mass request or goes
unrefused. -/
theorem of_stop_removesSeveral (h : IsPlainStop u message) {args : PyDict} {name : String}
    (hroute : stopwatchStopRoute u message server.database = .ok (.tool name args))
    {server' : Server} {result : Except PyError Text}
    (hrun : runTimerTool u name args server = some (server', result))
    (hseveral : RemovesSeveral server server') :
    isMassRequest u message = true ∨ UnrefusedStop u message := by
  have hambiguous := isAmbiguousSingularStopwatchStop_of_plain h
  rw [stopwatchStopRoute_eq hambiguous] at hroute
  split at hroute
  · exact nomatch hroute
  · rename_i hplain
    cases hroute
    obtain rfl := eq_of_runTimerTool_stop hrun
    have hcount : 1 < (listStopwatches server.database).length := by
      rcases hseveral with hseveral | hseveral
      · rw [removedRows_countdown_stopStopwatches] at hseveral
        exact absurd hseveral (by decide)
      · refine Nat.lt_of_lt_of_le hseveral ((length_removedRows_le _ _ _).trans_eq ?_)
        rw [listStopwatches, List.length_insertionSort]
    rw [decide_eq_true hcount, Bool.and_true] at hplain
    cases hplural : isPluralStopwatchStopRequest u message with
    | true => exact Or.inl (isMassRequest_of_plural (Or.inr hplural))
    | false =>
        rw [hplural, Bool.not_false, Bool.true_and, Bool.not_eq_true] at hplain
        exact Or.inr ⟨h, hplain⟩

theorem of_cancel_removesSeveral (h : IsPlainCancel u message) {args : PyDict} {name : String}
    (hroute : timerCancelRoute u message server.database = .ok (.tool name args))
    {server' : Server} {result : Except PyError Text}
    (hrun : runTimerTool u name args server = some (server', result))
    (hseveral : RemovesSeveral server server') :
    isMassRequest u message = true ∨ UnrefusedCancel u message := by
  cases hplural : isPluralTimerCancelRequest u message with
  | true => exact Or.inl (isMassRequest_of_plural (Or.inl hplural))
  | false =>
      have hambiguous := isAmbiguousSingularTimerCancel_of_plain h
      rw [hplural] at hambiguous
      rcases hduration : extractDurationSeconds u (u.lower message) with e | seconds
      · rw [hduration] at hambiguous
        unfold timerCancelRoute at hroute
        rw [hambiguous] at hroute
        exact nomatch hroute
      · rw [hduration] at hambiguous
        rw [timerCancelRoute_eq hambiguous] at hroute
        split at hroute
        · exact nomatch hroute
        · rename_i hplain
          cases hroute
          obtain rfl := eq_of_runTimerTool_cancel hrun
          have hcount : 1 < (listCountdownTimers server.database).length := by
            rcases hseveral with hseveral | hseveral
            · refine Nat.lt_of_lt_of_le hseveral ((length_removedRows_le _ _ _).trans_eq ?_)
              rw [listCountdownTimers, List.length_insertionSort]
            · rw [removedRows_stopwatch_cancelTimers] at hseveral
              exact absurd hseveral (by decide)
          rw [decide_eq_true hcount, Bool.and_true] at hplain
          refine Or.inr ⟨h, ?_⟩
          cases seconds with
          | some n => exact Or.inl ⟨n, hduration⟩
          | none =>
              simp only [Option.isNone_none, Bool.true_and, Bool.not_eq_true] at hplain
              exact Or.inr ⟨hduration, hplain⟩

def twoRows (kind : TimerKind) : Server where
  clock := .stopped 0
  database :=
    { Database.empty with
      timers := ⟨[{ id := 1, kind, createdAt := 0 }, { id := 2, kind, createdAt := 0 }], by simp⟩ }
  jobs := .empty
  activity := []
  history := []

theorem removesSeveral_twoRows {kind : TimerKind} {after : Server}
    (h : ∀ timer ∈ (twoRows kind).database.timers, timer ∉ after.database.timers) :
    RemovesSeveral (twoRows kind) after := by
  have hlength : (removedRows kind (twoRows kind) after).length = 2 := by
    have hgone : ∀ timer ∈ (twoRows kind).database.timers.rows,
        (timer.kind = kind && timer ∉ after.database.timers.rows) = true := by
      intro timer hmem
      have hkind : timer.kind = kind := by
        simp only [twoRows, List.mem_cons, List.not_mem_nil, or_false] at hmem
        rcases hmem with rfl | rfl <;> rfl
      rw [decide_eq_true hkind, Bool.true_and, decide_eq_true_eq]
      exact h timer hmem
    have hall : removedRows kind (twoRows kind) after = (twoRows kind).database.timers.rows :=
      List.filter_eq_self.mpr hgone
    rw [hall]
    rfl
  cases kind with
  | countdown => exact Or.inl (hlength ▸ Nat.one_lt_two)
  | stopwatch => exact Or.inr (hlength ▸ Nat.one_lt_two)

theorem listed_twoRows {kind : TimerKind} {items : List Timer}
    (hitems : ∀ {timer : Timer}, timer ∈ items ↔
      timer ∈ (twoRows kind).database.timers ∧ timer.kind = kind) {timer : Timer}
    (hmem : timer ∈ (twoRows kind).database.timers) : Listed kind items timer := by
  have hkind : timer.kind = kind := by
    rw [← Table.mem_rows] at hmem
    simp only [twoRows, List.mem_cons, List.not_mem_nil, or_false] at hmem
    rcases hmem with rfl | rfl <;> rfl
  exact ⟨hkind, List.mem_map_of_mem (hitems.mpr ⟨hmem, hkind⟩)⟩

def deletionTools : List String := ["cancel_timers", "stop_stopwatches", "clear_all_timers"]

/-- Whatever runs, the message makes the router delete several countdowns or
several stopwatches only if it is a mass request. -/
def DeletesSeveralOnlyIfAsked (u : PyData) (message : Text) : Prop :=
  ∀ (conversationId : String) (pending : PendingStore) (server server' : Server)
    (name : String) (args : PyDict) (result : Except PyError Text),
    (AgentRouter.decide u message conversationId server.database pending).1 =
      .ok (.tool name args) → name ∈ deletionTools →
    runTimerTool u name args server = some (server', result) →
    RemovesSeveral server server' → isMassRequest u message = true

theorem exists_args_of_parseCommandArgs {pattern : Regex} {idGroup : String} {s : Text}
    {args : PyDict} (h : parseCommandArgs u pattern idGroup s = .ok (some args)) :
    ∃ id : Int, args = [(idGroup, .int id)] := by
  unfold parseCommandArgs at h
  split at h
  · exact nomatch h
  · rename_i found _
    cases hid : u.intOfDigits (groupText found.groups idGroup) with
    | error e =>
        rw [hid] at h
        exact nomatch h
    | ok n =>
        rw [hid] at h
        cases h
        exact ⟨n, rfl⟩

theorem decide_of_unrefusedStop (h : UnrefusedStop u message) :
    (AgentRouter.decide u message "default" (twoRows .stopwatch).database .empty).1 =
      .ok (.tool "stop_stopwatches" []) := by
  obtain ⟨hplain, hword⟩ := h
  have hroute : stopwatchStopRoute u message (twoRows .stopwatch).database =
      .ok (.tool "stop_stopwatches" []) := by
    rw [stopwatchStopRoute_eq (isAmbiguousSingularStopwatchStop_of_plain hplain), hword,
      Bool.and_false]
    rfl
  rw [decide_of_timerRoute (timerRoute_of_isPlainStop hplain), hroute]

theorem decide_of_unrefusedCancel (h : UnrefusedCancel u message) :
    (AgentRouter.decide u message "default" (twoRows .countdown).database .empty).1 =
      .ok (.tool "cancel_timers" []) := by
  obtain ⟨hplain, hword⟩ := h
  have hambiguous : isAmbiguousSingularTimerCancel u message = .ok false := by
    rw [isAmbiguousSingularTimerCancel_of_plain hplain]
    split
    · rfl
    · rcases hword with ⟨seconds, hduration⟩ | ⟨hduration, hword⟩
      · rw [hduration]
        rfl
      · rw [hduration, hword]
        rfl
  have hroute : timerCancelRoute u message (twoRows .countdown).database =
      .ok (.tool "cancel_timers" []) := by
    rw [timerCancelRoute_eq hambiguous]
    rfl
  rw [decide_of_timerRoute (timerRoute_of_isPlainCancel hplain), hroute]

theorem removesSeveral_stopStopwatches_nil :
    RemovesSeveral (twoRows .stopwatch) (stopStopwatches u [] (twoRows .stopwatch)).1 := by
  refine removesSeveral_twoRows fun timer hmem hafter => ?_
  rw [mem_stopStopwatches, selectedStopwatches_nil] at hafter
  exact hafter.2 (listed_twoRows mem_activeStopwatches hmem)

theorem removesSeveral_cancelTimers_nil :
    RemovesSeveral (twoRows .countdown) (cancelTimers u [] (twoRows .countdown)).1 := by
  refine removesSeveral_twoRows fun timer hmem hafter => ?_
  rw [mem_cancelTimers, selectedTimers_nil] at hafter
  exact hafter.2 (listed_twoRows mem_activeCountdownTimers hmem)

section Decided

variable {conversationId : String} {pending : PendingStore} {db : Database}
variable {server' : Server} {name : String} {args : PyDict} {result : Except PyError Text}

/-- Only the routes that clear the pending interaction run a tool that deletes. -/
theorem timerRoute_of_decide (hname : name ∈ deletionTools)
    (hdecide : (AgentRouter.decide u message conversationId db pending).1 =
      .ok (.tool name args)) :
    timerRoute u message db = .ok (some (.ok (.tool name args))) := by
  rcases hroute : timerRoute u message db with e | _ | decision
  · rw [AgentRouter.decide, hroute] at hdecide
    cases hdecide
  · cases hpending : PendingStore.get pending conversationId with
    | some interaction =>
        rw [decide_of_pending hroute hpending] at hdecide
        cases hdecide
    | none =>
        rw [decide_of_fresh hroute hpending] at hdecide
        have hfresh := routesWithin_freshRoute name args hdecide
        simp only [deletionTools, List.mem_cons, List.not_mem_nil, or_false] at hname
        rcases hname with rfl | rfl | rfl <;> exact absurd hfresh (by decide)
  · rw [decide_of_timerRoute hroute] at hdecide
    rw [show decision = .ok (.tool name args) from hdecide]

theorem of_timerRoute_removesSeveral (hname : name ∈ deletionTools)
    (hroute : timerRoute u message server.database = .ok (some (.ok (.tool name args))))
    (hrun : runTimerTool u name args server = some (server', result))
    (hseveral : RemovesSeveral server server') :
    isMassRequest u message = true ∨ UnrefusedStop u message ∨ UnrefusedCancel u message := by
  have hrouted := timerRouted_of_timerRoute hroute
  generalize hd : Except.ok (RouteDecision.tool name args) = routed at hrouted
  cases hrouted with
  | status =>
      cases hd
      exact absurd hname (by decide)
  | clearAll h => exact .inl (isMassRequest_of_clearAll h)
  | renameStopwatch args' =>
      cases hd
      exact absurd hname (by simp [deletionTools])
  | renameTimer args' =>
      cases hd
      exact absurd hname (by simp [deletionTools])
  | stopById h =>
      cases hd
      obtain ⟨id, rfl⟩ := exists_args_of_parseCommandArgs h
      obtain rfl := eq_of_runTimerTool_stop hrun
      exact absurd hseveral (not_removesSeveral_stopById id)
  | stop h => exact (of_stop_removesSeveral h hd.symm hrun hseveral).imp_right .inl
  | cancelById h =>
      cases hd
      obtain ⟨id, rfl⟩ := exists_args_of_parseCommandArgs h
      obtain rfl := eq_of_runTimerTool_cancel hrun
      exact absurd hseveral (not_removesSeveral_cancelById id)
  | cancel h => exact (of_cancel_removesSeveral h hd.symm hrun hseveral).imp_right .inr

end Decided

theorem deletesSeveralOnlyIfAsked_iff (u : PyData) (message : Text) :
    DeletesSeveralOnlyIfAsked u message ↔
      isMassRequest u message = true ∨ ¬ (UnrefusedStop u message ∨ UnrefusedCancel u message) := by
  constructor
  · intro hsafe
    rw [or_iff_not_imp_left]
    rintro hmass (hstop | hcancel)
    · exact hmass (hsafe "default" .empty _ _ "stop_stopwatches" [] _
        (decide_of_unrefusedStop hstop) (by simp [deletionTools]) rfl
        removesSeveral_stopStopwatches_nil)
    · exact hmass (hsafe "default" .empty _ _ "cancel_timers" [] _
        (decide_of_unrefusedCancel hcancel) (by simp [deletionTools]) rfl
        (removesSeveral_cancelTimers_nil (u := u)))
  · rintro hcondition conversationId pending server server' name args result hdecide hname hrun
      hseveral
    have hroute := timerRoute_of_decide hname hdecide
    rcases of_timerRoute_removesSeveral hname hroute hrun hseveral with hmass | hunrefused
    · exact hmass
    · exact hcondition.resolve_right (not_not_intro hunrefused)

/-- A countdown named by its duration is cancelled together with every other. -/
theorem not_deletesSeveralOnlyIfAsked_five_minutes :
    ¬ DeletesSeveralOnlyIfAsked .ascii "cancel my 5 minute timer".toList := by
  intro hsafe
  have hmass := hsafe "default" .empty (twoRows .countdown)
    (cancelTimers .ascii [] (twoRows .countdown)).1 "cancel_timers" [] (.ok _)
    (by decide +kernel) (by decide) rfl
    (Or.inl (by decide +kernel : 1 < (removedRows .countdown (twoRows .countdown)
      (cancelTimers .ascii [] (twoRows .countdown)).1).length))
  exact absurd hmass (by decide +kernel)

end NanoCore.Assistant.MassDeletion
