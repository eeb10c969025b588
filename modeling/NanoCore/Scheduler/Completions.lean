import NanoCore.Timers.Removal

namespace NanoCore.Scheduler.Completions

open NanoCore.Foundation.KeyedTable
open NanoCore.Foundation.PythonDatetime
open NanoCore.Memory.Models
open NanoCore.Memory.Repository
open NanoCore.Runtime.State
open NanoCore.Scheduler.Jobs
open NanoCore.Timers.Removal

variable {server : Server} {timerId : Int} {timer : Timer}

/-- The three outcomes of `complete_timer`. -/
inductive CompleteTimerCase (timerId : Int) (server : Server) : Server → Prop where
  | idle (h : ∀ timer ∈ server.database.timers, timer.id = timerId →
      timer.kind = .countdown → timer.dueAt = none) :
      CompleteTimerCase timerId server (unscheduleTimer timerId server)
  | early (timer : Timer) (dueAt : Int)
      (hfound : getTimer timerId server.database = some timer) (hdue : timer.dueAt = some dueAt)
      (hearly : server.clock.now < dueAt) :
      CompleteTimerCase timerId server
        (scheduleTimer timerId (some (.stored dueAt)) server.tick)
  | completed (timer : Timer) (dueAt : Int)
      (hfound : getTimer timerId server.database = some timer)
      (hkind : timer.kind = .countdown) (hdue : timer.dueAt = some dueAt)
      (hreached : dueAt ≤ server.clock.now) :
      CompleteTimerCase timerId server (unscheduleTimer timerId
        (deleteTimer timerId (logCompletion timer dueAt server.clock.now server.tick)).1)

theorem completeTimer_case (timerId : Int) (server : Server) :
    CompleteTimerCase timerId server (completeTimer timerId server) := by
  cases hfound : getTimer timerId server.database with
  | none =>
      simp only [completeTimer, hfound]
      apply CompleteTimerCase.idle
      intro timer htimer hid
      exact absurd hid (Table.find?_eq_none_iff.mp hfound timer htimer)
  | some row =>
      obtain ⟨hrow, hid⟩ := Table.find?_eq_some_iff.mp hfound
      have hidle (h : row.kind = .countdown → row.dueAt = none) :
          CompleteTimerCase timerId server (unscheduleTimer timerId server) := by
        apply CompleteTimerCase.idle
        intro timer htimer hid'
        obtain rfl := Table.eq_of_key htimer hrow (hid'.trans hid.symm)
        exact h
      cases hkind : row.kind with
      | stopwatch =>
          simp only [completeTimer, hfound, hkind]
          apply hidle
          intro h
          rw [hkind] at h
          cases h
      | countdown =>
          cases hdue : row.dueAt with
          | none =>
              simp only [completeTimer, hfound, hkind, hdue]
              exact hidle fun _ => hdue
          | some dueAt =>
              by_cases hearly : server.clock.now < dueAt
              · simp only [completeTimer, hfound, hkind, hdue, if_pos hearly]
                exact .early row dueAt hfound hdue hearly
              · simp only [completeTimer, hfound, hkind, hdue, if_neg hearly]
                exact .completed row dueAt hfound hkind hdue (Int.not_lt.mp hearly)

/-- The calls of the activity hub for what happens to a row. -/
def eventCalls : TimerEvent → List ActivityCall
  | .created _ => []
  | .completed timer _ => timer.dueAt.elim [] (completionCalls timer)

/-- A change in which rows go by a logged completion only, of a countdown that is
due, and in which no row comes or changes. -/
structure OnlyCompletes (server : Server) (logged : List TimerEvent) (server' : Server) : Prop where
  clock : server.clock.latest ≤ server'.clock.latest
  history : server'.history = logged ++ server.history
  /-- The hub is told of the logged completions, and of no other. -/
  told : toldCompletions server' = toldCompletions server ++ logged.reverse.flatMap eventCalls
  rows : ∀ timer, timer ∈ server'.database.timers ↔
    timer ∈ server.database.timers ∧ ∀ event ∈ logged, event.timer.id ≠ timer.id
  due : ∀ event ∈ logged, ∃ timer now, event = .completed timer now ∧
    timer ∈ server.database.timers ∧ isDue now timer = true ∧
      server.clock.latest ≤ now ∧ now ≤ server'.clock.latest
  once : (logged.map fun event => event.timer.id).Nodup

namespace OnlyCompletes

variable {a b c : Server} {logged logged' : List TimerEvent}

theorem none (hclock : a.clock.latest ≤ b.clock.latest) (hhistory : b.history = a.history)
    (hactivity : b.activity = a.activity) (htimers : b.database.timers = a.database.timers) :
    OnlyCompletes a [] b where
  clock := hclock
  history := hhistory
  told := (congrArg (List.filter tellsOfCompletion) hactivity).trans (List.append_nil _).symm
  rows timer := by
    rw [htimers]
    exact ⟨fun h => ⟨h, fun _ h' => absurd h' List.not_mem_nil⟩, And.left⟩
  due _ h := absurd h List.not_mem_nil
  once := List.nodup_nil

theorem refl (a : Server) : OnlyCompletes a [] a := none (Int.le_refl _) rfl rfl rfl

theorem trans (h : OnlyCompletes a logged b) (h' : OnlyCompletes b logged' c) :
    OnlyCompletes a (logged' ++ logged) c where
  clock := h.clock.trans h'.clock
  history := by rw [h'.history, h.history, List.append_assoc]
  told := by
    rw [h'.told, h.told, List.append_assoc, List.reverse_append, List.flatMap_append]
  rows timer := by
    rw [h'.rows, h.rows]
    simp only [List.mem_append]
    constructor
    · rintro ⟨⟨hmem, hfirst⟩, hthen⟩
      exact ⟨hmem, fun event hevent => hevent.elim (hthen event) (hfirst event)⟩
    · rintro ⟨hmem, hall⟩
      exact ⟨⟨hmem, fun event hevent => hall event (Or.inr hevent)⟩,
        fun event hevent => hall event (Or.inl hevent)⟩
  due event hevent := by
    rcases List.mem_append.mp hevent with hevent | hevent
    · obtain ⟨timer, now, rfl, htimer, hdue, hfrom, hto⟩ := h'.due event hevent
      exact ⟨timer, now, rfl, ((h.rows timer).mp htimer).1, hdue, h.clock.trans hfrom, hto⟩
    · obtain ⟨timer, now, rfl, htimer, hdue, hfrom, hto⟩ := h.due event hevent
      exact ⟨timer, now, rfl, htimer, hdue, hfrom, hto.trans h'.clock⟩
  once := by
    rw [List.map_append, List.nodup_append]
    refine ⟨h'.once, h.once, ?_⟩
    -- a row that is completed later is still stored after the first completions
    intro i hi j hj hij
    obtain ⟨later, hlater, rfl⟩ := List.mem_map.mp hi
    obtain ⟨earlier, hearlier, rfl⟩ := List.mem_map.mp hj
    obtain ⟨timer, now, rfl, htimer, -⟩ := h'.due later hlater
    exact ((h.rows timer).mp htimer).2 earlier hearlier hij.symm

/-- A row that goes was a due countdown and its completion is logged. -/
theorem exists_logged (h : OnlyCompletes a logged b) (hbefore : timer ∈ a.database.timers)
    (hafter : timer ∉ b.database.timers) :
    ∃ now, .completed timer now ∈ logged ∧ isDue now timer = true ∧ now ≤ b.clock.latest := by
  by_contra hnone
  apply hafter
  rw [h.rows]
  refine ⟨hbefore, fun event hevent hid => ?_⟩
  obtain ⟨other, now, rfl, hother, hdue, -, hto⟩ := h.due event hevent
  obtain rfl : other = timer := Table.eq_of_key hother hbefore hid
  exact hnone ⟨now, hevent, hdue, hto⟩

end OnlyCompletes

theorem onlyCompletes_completeTimer (timerId : Int) (server : Server) :
    ∃ logged, OnlyCompletes server logged (completeTimer timerId server) ∧
      ∀ event ∈ logged, event.timer.id = timerId := by
  have hcase := completeTimer_case timerId server
  generalize completeTimer timerId server = server' at hcase
  cases hcase with
  | idle h => exact ⟨[], .none (Int.le_refl _) rfl rfl rfl, fun _ h => absurd h List.not_mem_nil⟩
  | early timer dueAt hfound hdue hearly =>
      refine ⟨[], .none ?_ rfl rfl rfl, fun _ h => absurd h List.not_mem_nil⟩
      exact server.clock.latest_le_now.trans server.clock.tick.latest_le_now
  | completed timer dueAt hfound hkind hdue hreached =>
      obtain ⟨hrow, hid⟩ := Table.find?_eq_some_iff.mp hfound
      refine ⟨[.completed timer server.clock.now],
        ⟨?_, ?_, ?_, ?_, ?_, List.nodup_singleton _⟩, ?_⟩
      · change server.clock.latest ≤
          (deleteTimer timerId (logCompletion timer dueAt _ server.tick)).1.clock.latest
        rw [deleteTimer_clock]
        exact server.clock.latest_le_now
      · exact deleteTimer_history
      · have htold : toldCompletions (deleteTimer timerId
            (logCompletion timer dueAt server.clock.now server.tick)).1 =
            toldCompletions server ++ completionCalls timer dueAt :=
          toldCompletions_deleteTimer.trans (toldCompletions_logCompletion timer dueAt _ _)
        rw [List.reverse_singleton, List.flatMap_singleton, eventCalls, hdue]
        exact htold
      · intro other
        change other ∈
          (deleteTimer timerId (logCompletion timer dueAt _ server.tick)).1.database.timers ↔ _
        rw [mem_deleteTimer]
        refine and_congr_right fun _ => ?_
        rw [List.forall_mem_singleton, ← hid]
        exact ne_comm
      · rw [List.forall_mem_singleton]
        refine ⟨timer, server.clock.now, rfl, hrow, ?_, server.clock.latest_le_now, ?_⟩
        · exact isDue_iff.mpr ⟨hkind, dueAt, hdue, hreached⟩
        · change server.clock.now ≤
            (deleteTimer timerId (logCompletion timer dueAt _ server.tick)).1.clock.latest
          rw [deleteTimer_clock]
          exact Int.le_refl _
      · rw [List.forall_mem_singleton]
        exact hid

theorem not_mem_completeTimer (hmem : timer ∈ server.database.timers)
    (hdue : isDue server.clock.latest timer = true) :
    timer ∉ (completeTimer timer.id server).database.timers := by
  obtain ⟨hkind, dueAt, hdueAt, hreached⟩ := isDue_iff.mp hdue
  have hfind := Table.find?_key_of_mem hmem
  have hcase := completeTimer_case timer.id server
  generalize completeTimer timer.id server = server' at hcase
  cases hcase with
  | idle h =>
      have hnone := h timer hmem rfl hkind
      rw [hdueAt] at hnone
      cases hnone
  | early other dueAt' hfound hdue' hearly =>
      obtain rfl : timer = other := Option.some.inj (hfind.symm.trans hfound)
      obtain rfl : dueAt = dueAt' := Option.some.inj (hdueAt.symm.trans hdue')
      exact absurd hearly (Int.not_lt.mpr (hreached.trans server.clock.latest_le_now))
  | completed other dueAt' hfound hkind' hdue' hreached' =>
      intro hafter
      exact (mem_deleteTimer.mp hafter).2 rfl

theorem isDue_mono {now now' : Int} (h : now ≤ now') (hdue : isDue now timer = true) :
    isDue now' timer = true := by
  obtain ⟨hkind, dueAt, hdueAt, hreached⟩ := isDue_iff.mp hdue
  exact isDue_iff.mpr ⟨hkind, dueAt, hdueAt, hreached.trans h⟩

theorem onlyCompletes_foldl (timers : List Timer) (server : Server) :
    ∃ logged, OnlyCompletes server logged
        (timers.foldl (fun server timer => completeTimer timer.id server) server) ∧
      ∀ timer ∈ timers, timer ∈ server.database.timers →
        isDue server.clock.latest timer = true →
        timer ∉ (timers.foldl (fun server timer => completeTimer timer.id server)
          server).database.timers := by
  induction timers generalizing server with
  | nil => exact ⟨[], .refl server, fun _ h => absurd h List.not_mem_nil⟩
  | cons first rest ih =>
      obtain ⟨logged, hfirst, -⟩ := onlyCompletes_completeTimer first.id server
      obtain ⟨logged', hrest, hgone⟩ := ih (completeTimer first.id server)
      refine ⟨logged' ++ logged, hfirst.trans hrest, fun timer htimer hmem hdue hafter => ?_⟩
      have hkept := ((hrest.rows timer).mp hafter).1
      rcases List.mem_cons.mp htimer with rfl | htimer
      · exact not_mem_completeTimer hmem hdue hkept
      · exact hgone timer htimer hkept (isDue_mono hfirst.clock hdue) hafter

theorem onlyCompletes_checkDueTimers (server : Server) :
    ∃ logged, OnlyCompletes server logged (checkDueTimers server) ∧
      ∀ timer ∈ server.database.timers, isDue server.clock.now timer = true →
        timer ∉ (checkDueTimers server).database.timers := by
  obtain ⟨logged, hfold, hgone⟩ := onlyCompletes_foldl
    (listDueTimers server.clock.now server.database) server.tick
  have htick : OnlyCompletes server [] server.tick :=
    .none server.clock.latest_le_now rfl rfl rfl
  refine ⟨logged ++ [], htick.trans hfold, ?_⟩
  intro timer hmem hdue
  exact hgone timer (mem_listDueTimers.mpr ⟨hmem, hdue⟩) hmem hdue

theorem onlyCompletes_runTimerJob (timerId : Int) (server : Server) :
    ∃ logged, OnlyCompletes server logged (runTimerJob timerId server) ∧
      ∀ event ∈ logged, event.timer.id = timerId := by
  have hclock := server.clock.latest_le_now
  simp only [runTimerJob]
  split
  · exact ⟨[], .refl server, fun _ h => absurd h List.not_mem_nil⟩
  · split
    · exact ⟨[], .none hclock rfl rfl rfl, fun _ h => absurd h List.not_mem_nil⟩
    · have htwice := hclock.trans server.clock.tick.latest_le_now
      split
      · exact ⟨[], .none htwice rfl rfl rfl, fun _ h => absurd h List.not_mem_nil⟩
      · obtain ⟨logged, hcompletes, hid⟩ := onlyCompletes_completeTimer timerId
          (unscheduleTimer timerId server.tick).tick
        have hticks : OnlyCompletes server [] (unscheduleTimer timerId server.tick).tick :=
          .none htwice rfl rfl rfl
        refine ⟨logged ++ [], hticks.trans hcompletes, ?_⟩
        rwa [List.append_nil]

/-- The hub was told of the completions of the history, in order, and of no other. -/
def Heard (server : Server) : Prop :=
  toldCompletions server = server.history.reverse.flatMap eventCalls

theorem Heard.completes {server' : Server} {logged : List TimerEvent} (h : Heard server)
    (hcompletes : OnlyCompletes server logged server') : Heard server' := by
  rw [Heard, hcompletes.told, hcompletes.history, List.reverse_append, List.flatMap_append, ← h]

theorem Heard.of_told {server' : Server} (h : Heard server)
    (htold : toldCompletions server' = toldCompletions server)
    (hhistory : server'.history = server.history) : Heard server' := by
  rw [Heard, htold, hhistory]
  exact h

def lastEvent (timerId : Int) (history : List TimerEvent) : Option TimerEvent :=
  history.find? fun event => event.timer.id = timerId

def WasCompleted (timerId : Int) (history : List TimerEvent) : Prop :=
  ∃ timer now, lastEvent timerId history = some (.completed timer now)

/-- A completion of an id is no repetition: a row of that id was created since
the completion before. -/
def CompletedOnce (history : List TimerEvent) : Prop :=
  ∀ timer now earlier, (.completed timer now :: earlier) <:+ history →
    ¬ WasCompleted timer.id earlier

/-- No row was completed twice, and the stored rows not at all. -/
structure Recorded (server : Server) : Prop where
  once : CompletedOnce server.history
  stored : ∀ timer ∈ server.database.timers, ¬ WasCompleted timer.id server.history

section History

variable {history : List TimerEvent} {event : TimerEvent}

theorem completedOnce_nil : CompletedOnce [] := by
  intro timer now earlier hsuffix
  rw [List.suffix_nil] at hsuffix
  cases hsuffix

theorem completedOnce_cons :
    CompletedOnce (event :: history) ↔
      (∀ timer now, event = .completed timer now → ¬ WasCompleted timer.id history) ∧
        CompletedOnce history := by
  constructor
  · intro h
    refine ⟨?_, fun timer now earlier hsuffix => ?_⟩
    · rintro timer now rfl
      exact h timer now history (List.suffix_refl _)
    · exact h timer now earlier (hsuffix.trans (List.suffix_cons event history))
  · rintro ⟨hfirst, hrest⟩ timer now earlier hsuffix
    rcases List.suffix_cons_iff.mp hsuffix with heq | hsuffix
    · cases heq
      exact hfirst timer now rfl
    · exact hrest timer now earlier hsuffix

theorem wasCompleted_append {logged : List TimerEvent}
    (h : ∀ event ∈ logged, event.timer.id ≠ timerId) :
    WasCompleted timerId (logged ++ history) ↔ WasCompleted timerId history := by
  have hnone : (logged.find? fun event => event.timer.id = timerId) = none := by
    rw [List.find?_eq_none]
    exact fun event hevent => by simpa using h event hevent
  unfold WasCompleted lastEvent
  rw [List.find?_append, hnone, Option.none_or]

theorem lastEvent_created (hid : timer.id = timerId) :
    lastEvent timerId (.created timer :: history) = some (.created timer) :=
  List.find?_cons_of_pos (decide_eq_true hid)

theorem not_wasCompleted_created (h : ¬ WasCompleted timerId history) :
    ¬ WasCompleted timerId (.created timer :: history) := by
  by_cases hid : timer.id = timerId
  · rintro ⟨other, now, hlast⟩
    rw [lastEvent_created hid] at hlast
    cases hlast
  · intro hcompleted
    have hother : ∀ event ∈ [TimerEvent.created timer], event.timer.id ≠ timerId := by
      rw [List.forall_mem_singleton]
      exact hid
    exact h ((wasCompleted_append hother).mp hcompleted)

theorem not_wasCompleted_created_self : ¬ WasCompleted timer.id (.created timer :: history) := by
  rintro ⟨other, now, hlast⟩
  rw [lastEvent_created rfl] at hlast
  cases hlast

end History

namespace Recorded

variable {server' : Server}

theorem of_history_eq (h : Recorded server) (hhistory : server'.history = server.history)
    (hrows : ∀ timer ∈ server'.database.timers, ∃ old ∈ server.database.timers,
      old.id = timer.id) : Recorded server' where
  once := by
    rw [hhistory]
    exact h.once
  stored timer htimer := by
    obtain ⟨old, hold, hid⟩ := hrows timer htimer
    rw [hhistory, ← hid]
    exact h.stored old hold

theorem created (h : Recorded server)
    (hhistory : server'.history = .created timer :: server.history)
    (hrows : ∀ other ∈ server'.database.timers, other = timer ∨ other ∈ server.database.timers) :
    Recorded server' where
  once := by
    rw [hhistory, completedOnce_cons]
    refine ⟨fun other now hevent => ?_, h.once⟩
    cases hevent
  stored other hother := by
    rw [hhistory]
    rcases hrows other hother with rfl | hbefore
    · exact not_wasCompleted_created_self
    · exact not_wasCompleted_created (h.stored other hbefore)

theorem completes {logged : List TimerEvent} (h : Recorded server)
    (hcompletes : OnlyCompletes server logged server') : Recorded server' where
  once := by
    have hnew : ∀ event ∈ logged, ¬ WasCompleted event.timer.id server.history := by
      intro event hevent
      obtain ⟨timer, now, rfl, htimer, -⟩ := hcompletes.due event hevent
      exact h.stored timer htimer
    have honce := hcompletes.once
    rw [hcompletes.history]
    clear hcompletes
    induction logged with
    | nil => exact h.once
    | cons event logged ih =>
        rw [List.map_cons, List.nodup_cons] at honce
        rw [List.forall_mem_cons] at hnew
        refine completedOnce_cons.mpr ⟨?_, ih hnew.2 honce.2⟩
        rintro timer now rfl hcompleted
        have hothers : ∀ event ∈ logged, event.timer.id ≠ timer.id := fun event hevent hid =>
          honce.1 (List.mem_map.mpr ⟨event, hevent, hid⟩)
        exact hnew.1 ((wasCompleted_append hothers).mp hcompleted)
  stored timer htimer := by
    obtain ⟨hbefore, hothers⟩ := (hcompletes.rows timer).mp htimer
    rw [hcompletes.history, wasCompleted_append hothers]
    exact h.stored timer hbefore

end Recorded

end NanoCore.Scheduler.Completions
