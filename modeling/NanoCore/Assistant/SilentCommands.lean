import NanoCore.Assistant.AgentRouter
import NanoCore.Timers.CommandShapes

namespace NanoCore.Assistant.SilentCommands

open NanoCore.Foundation.PythonText
open NanoCore.Assistant.AgentRouter
open NanoCore.Assistant.Pending
open NanoCore.Memory.Models
open NanoCore.Timers.Parsing
open NanoCore.Timers.CommandShapes

inductive NamesAction (u : PyData) (message : Text) : String → PyDict → Prop where
  | renameTimer {args : PyDict} (h : parseTimerRenameArgs u message = .ok (some args)) :
      NamesAction u message "rename_timer" args
  | renameStopwatch {args : PyDict} (h : parseStopwatchRenameArgs u message = .ok (some args)) :
      NamesAction u message "rename_stopwatch" args
  | cancelTimer {args : PyDict} (h : parseTimerCancelArgs u message = .ok (some args)) :
      NamesAction u message "cancel_timers" args
  | stopStopwatch {args : PyDict} (h : parseStopwatchStopArgs u message = .ok (some args)) :
      NamesAction u message "stop_stopwatches" args

variable {u : PyData} {message : Text}

theorem NamesAction.tool_mem {tool : String} {args : PyDict}
    (h : NamesAction u message tool args) :
    tool ∈ ["rename_timer", "rename_stopwatch", "cancel_timers", "stop_stopwatches"] := by
  cases h <;> simp

theorem exists_namesAction_of_silent (h : isSilentUiCommand u message = .ok true) :
    ∃ tool args, NamesAction u message tool args := by
  unfold isSilentUiCommand isSilentRenameCommand isTimerRenameRequest isStopwatchRenameRequest
    isSilentTimerCancelCommand isSilentStopwatchStopCommand at h
  rcases htimer : parseTimerRenameArgs u message with e | _ | args
  · rw [htimer] at h
    exact nomatch h
  · rcases hstopwatch : parseStopwatchRenameArgs u message with e | _ | args
    · rw [htimer, hstopwatch] at h
      exact nomatch h
    · rcases hcancel : parseTimerCancelArgs u message with e | _ | args
      · rw [htimer, hstopwatch, hcancel] at h
        exact nomatch h
      · rcases hstop : parseStopwatchStopArgs u message with e | _ | args
        · rw [htimer, hstopwatch, hcancel, hstop] at h
          exact nomatch h
        · rw [htimer, hstopwatch, hcancel, hstop] at h
          exact nomatch h
        · exact ⟨_, args, .stopStopwatch hstop⟩
      · exact ⟨_, args, .cancelTimer hcancel⟩
    · exact ⟨_, args, .renameStopwatch hstopwatch⟩
  · exact ⟨_, args, .renameTimer htimer⟩

theorem timerRoute_of_namesAction {tool : String} {args : PyDict}
    (hstatus : isTimerStatusRequest u message = false)
    (hclear : isClearAllTimersRequest u message = false)
    (haction : NamesAction u message tool args) (db : Database) :
    timerRoute u message db = .ok (some (.ok (.tool tool args))) := by
  unfold timerRoute
  rw [hstatus, hclear]
  cases haction with
  | renameStopwatch h =>
      rw [h]
      rfl
  | renameTimer h =>
      have hne : parseTimerRenameArgs u message ≠ .ok none := by
        rw [h]
        exact nofun
      rw [parseStopwatchRenameArgs_of_timer hne, h]
      rfl
  | stopStopwatch h =>
      have hne : parseStopwatchStopArgs u message ≠ .ok none := by
        rw [h]
        exact nofun
      obtain ⟨c, rest, hs, hfold⟩ := exists_cons_of_parseStopwatchStopArgs hne
      have hrename : parseStopwatchRenameArgs u message = .ok none :=
        parseRenameArgs_of_first (by decide) hs (by decide) (by decide) hfold
      have hrename' : parseTimerRenameArgs u message = .ok none :=
        parseRenameArgs_of_first (by decide) hs (by decide) (by decide) hfold
      rw [hrename, hrename', h]
      rfl
  | cancelTimer h =>
      have hne : parseTimerCancelArgs u message ≠ .ok none := by
        rw [h]
        exact nofun
      obtain ⟨c, rest, hs, hfold⟩ := exists_cons_of_parseTimerCancelArgs hne
      have hrename : parseStopwatchRenameArgs u message = .ok none :=
        parseRenameArgs_of_first (by decide) hs (by decide) (by decide) hfold
      have hrename' : parseTimerRenameArgs u message = .ok none :=
        parseRenameArgs_of_first (by decide) hs (by decide) (by decide) hfold
      rw [hrename, hrename', parseStopwatchStopArgs_of_cancel hne,
        isStopwatchStopRequest_of_cancel hne, h]
      rfl

theorem timerRoute_of_status (h : isTimerStatusRequest u message = true) (db : Database) :
    timerRoute u message db = .ok (some (.ok (.tool "list_timers" []))) := by
  unfold timerRoute
  rw [h]
  rfl

theorem timerRoute_of_clearAll (h : isTimerStatusRequest u message = false)
    (hclear : isClearAllTimersRequest u message = true) (db : Database) :
    timerRoute u message db = .ok (some (.ok (.tool "clear_all_timers" []))) := by
  unfold timerRoute
  rw [h, hclear]
  rfl

def RoutedAsNamed (u : PyData) (message : Text) : Prop :=
  ∀ (tool : String) (args : PyDict), NamesAction u message tool args →
    ∀ (conversationId : String) (db : Database) (pending : PendingStore),
      (decide u message conversationId db pending).1 = .ok (.tool tool args)

/-- A command of the user interface is routed as the command it is exactly when
its text is not taken for a question about the timers or a request to clear
them all. -/
theorem routedAsNamed_iff (h : isSilentUiCommand u message = .ok true) :
    RoutedAsNamed u message ↔
      isTimerStatusRequest u message = false ∧ isClearAllTimersRequest u message = false := by
  constructor
  · intro hrouted
    obtain ⟨tool, args, haction⟩ := exists_namesAction_of_silent h
    have hdecide := hrouted tool args haction "default" .empty .empty
    have hother : ∀ other, timerRoute u message .empty = .ok (some (.ok (.tool other []))) →
        tool = other := by
      intro other hroute
      rw [decide_of_timerRoute hroute] at hdecide
      injection hdecide with hdecide
      injection hdecide with htool
      exact htool.symm
    cases hstatus : isTimerStatusRequest u message with
    | true =>
        obtain rfl := hother _ (timerRoute_of_status hstatus .empty)
        exact absurd haction.tool_mem (by decide)
    | false =>
        refine ⟨rfl, ?_⟩
        cases hclear : isClearAllTimersRequest u message with
        | true =>
            obtain rfl := hother _ (timerRoute_of_clearAll hstatus hclear .empty)
            exact absurd haction.tool_mem (by decide)
        | false => rfl
  · rintro ⟨hstatus, hclear⟩ tool args haction conversationId db pending
    rw [decide_of_timerRoute (timerRoute_of_namesAction hstatus hclear haction db)]

theorem routedAsNamed_cancel_timer_three :
    isSilentUiCommand .ascii "cancel timer 3".toList = .ok true ∧
      RoutedAsNamed .ascii "cancel timer 3".toList :=
  ⟨by decide +kernel, (routedAsNamed_iff (by decide +kernel)).mpr (by decide +kernel)⟩

/-- A new label that says `clear all` clears all timers. -/
theorem not_routedAsNamed_rename_to_clear_all :
    ¬ ∀ (u : PyData) (message : Text), isSilentUiCommand u message = .ok true →
      RoutedAsNamed u message := by
  intro h
  have haction : NamesAction .ascii "rename timer 3 to \"clear all\"".toList "rename_timer"
      [("timer_id", .int 3), ("new_label", .text "clear all".toList)] :=
    .renameTimer (by decide +kernel)
  have hdecide := h .ascii _ (by decide +kernel) _ _ haction "default" .empty .empty
  revert hdecide
  decide +kernel

end NanoCore.Assistant.SilentCommands
