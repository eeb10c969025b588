import NanoCore.Timers.Operations

namespace NanoCore.Timers.Removal

open NanoCore.Foundation.KeyedTable
open NanoCore.Foundation.PythonText
open NanoCore.Memory.Models
open NanoCore.Memory.Repository
open NanoCore.Runtime.State
open NanoCore.Scheduler.Jobs
open NanoCore.Timers.Labels
open NanoCore.Timers.Operations

def Needed (server : Server) (id : JobId) : Prop :=
  ∃ timer ∈ server.database.timers, timer.kind = .countdown ∧ id = .timer timer.id

structure OnlyRemoves (server server' : Server) : Prop where
  clock : server'.clock = server.clock
  history : server'.history = server.history
  told : toldCompletions server' = toldCompletions server
  rows : ∀ timer ∈ server'.database.timers, timer ∈ server.database.timers
  jobs : ∀ job ∈ server'.jobs, job ∈ server.jobs
  keeps : ∀ job ∈ server.jobs, Needed server' job.id → job ∈ server'.jobs

theorem OnlyRemoves.refl (server : Server) : OnlyRemoves server server :=
  ⟨rfl, rfl, rfl, fun _ h => h, fun _ h => h, fun _ h _ => h⟩

theorem OnlyRemoves.trans {a b c : Server} (h : OnlyRemoves a b) (h' : OnlyRemoves b c) :
    OnlyRemoves a c where
  clock := h'.clock.trans h.clock
  history := h'.history.trans h.history
  told := h'.told.trans h.told
  rows timer ht := h.rows timer (h'.rows timer ht)
  jobs job hj := h.jobs job (h'.jobs job hj)
  keeps job hj hneeded := by
    obtain ⟨timer, ht, hkind, hid⟩ := hneeded
    exact h'.keeps job (h.keeps job hj ⟨timer, h'.rows timer ht, hkind, hid⟩)
      ⟨timer, ht, hkind, hid⟩

variable {server : Server} {timerId : Int} {timer : Timer} {kind : TimerKind}

theorem mem_deleteTimer :
    timer ∈ (deleteTimer timerId server).1.database.timers ↔
      timer ∈ server.database.timers ∧ timer.id ≠ timerId := by
  unfold deleteTimer
  cases hget : getTimer timerId server.database with
  | none =>
      have habsent := Table.find?_eq_none_iff.mp hget
      exact ⟨fun h => ⟨h, habsent timer h⟩, And.left⟩
  | some row => exact Table.mem_erase

@[simp] theorem deleteTimer_clock : (deleteTimer timerId server).1.clock = server.clock := by
  unfold deleteTimer
  split <;> rfl

@[simp] theorem deleteTimer_jobs : (deleteTimer timerId server).1.jobs = server.jobs := by
  unfold deleteTimer
  split <;> rfl

@[simp] theorem deleteTimer_history : (deleteTimer timerId server).1.history = server.history := by
  unfold deleteTimer
  split <;> rfl

@[simp] theorem deleteTimer_activity :
    (deleteTimer timerId server).1.activity = server.activity := by
  unfold deleteTimer
  split <;> rfl

theorem toldCompletions_deleteTimer :
    toldCompletions (deleteTimer timerId server).1 = toldCompletions server :=
  congrArg (List.filter tellsOfCompletion) deleteTimer_activity

theorem onlyRemoves_deleteTimer : OnlyRemoves server
    (deleteTimer timerId (unscheduleTimer timerId server)).1 where
  clock := deleteTimer_clock
  history := deleteTimer_history
  told := toldCompletions_deleteTimer
  rows timer h := (mem_deleteTimer.mp h).1
  jobs job h := by
    rw [deleteTimer_jobs] at h
    exact (Table.mem_erase.mp h).1
  keeps job h hneeded := by
    obtain ⟨timer, ht, -, hid⟩ := hneeded
    rw [deleteTimer_jobs]
    refine Table.mem_erase.mpr ⟨h, fun heq => (mem_deleteTimer.mp ht).2 ?_⟩
    rw [hid] at heq
    exact JobId.timer.inj heq

theorem onlyRemoves_deleteTimer_alone : OnlyRemoves server (deleteTimer timerId server).1 where
  clock := deleteTimer_clock
  history := deleteTimer_history
  told := toldCompletions_deleteTimer
  rows timer h := (mem_deleteTimer.mp h).1
  jobs job h := by rwa [deleteTimer_jobs] at h
  keeps job h _ := by rwa [deleteTimer_jobs]

theorem mem_removeOfKind {remove : Server → Server × Bool}
    (hremove : ∀ timer, timer ∈ (remove server).1.database.timers ↔
      timer ∈ server.database.timers ∧ timer.id ≠ timerId) :
    timer ∈ (removeOfKind kind remove timerId server).1.database.timers ↔
      timer ∈ server.database.timers ∧ ¬ (timer.kind = kind ∧ timer.id = timerId) := by
  unfold removeOfKind
  cases hget : getTimer timerId server.database with
  | none =>
      have habsent := Table.find?_eq_none_iff.mp hget
      exact ⟨fun h => ⟨h, fun hid => habsent timer h hid.2⟩, And.left⟩
  | some row =>
      obtain ⟨hrow, hid⟩ := Table.find?_eq_some_iff.mp hget
      have hsame : ∀ other ∈ server.database.timers, other.id = timerId → other = row :=
        fun other hother h => Table.eq_of_key hother hrow (h.trans hid.symm)
      by_cases hkind : row.kind ≠ kind
      · simp only [if_pos hkind]
        refine ⟨fun h => ⟨h, ?_⟩, And.left⟩
        rintro ⟨hkind', hid'⟩
        exact hkind (hsame timer h hid' ▸ hkind')
      · simp only [if_neg hkind, hremove]
        rw [not_not] at hkind
        refine and_congr_right fun h => ⟨fun hne hboth => hne hboth.2, fun hboth hid' => ?_⟩
        exact hboth ⟨hsame timer h hid' ▸ hkind, hid'⟩

theorem mem_removeCountdownTimer :
    timer ∈ (removeCountdownTimer timerId server).1.database.timers ↔
      timer ∈ server.database.timers ∧ ¬ (timer.kind = .countdown ∧ timer.id = timerId) :=
  mem_removeOfKind fun _ => mem_deleteTimer

theorem mem_removeStopwatch :
    timer ∈ (removeStopwatch timerId server).1.database.timers ↔
      timer ∈ server.database.timers ∧ ¬ (timer.kind = .stopwatch ∧ timer.id = timerId) :=
  mem_removeOfKind fun _ => mem_deleteTimer

theorem onlyRemoves_removeOfKind {remove : Server → Server × Bool}
    (hremove : OnlyRemoves server (remove server).1) :
    OnlyRemoves server (removeOfKind kind remove timerId server).1 := by
  unfold removeOfKind
  split
  · exact .refl server
  · split
    · exact .refl server
    · exact hremove

def Listed (kind : TimerKind) (timers : List Timer) (timer : Timer) : Prop :=
  timer.kind = kind ∧ timer.id ∈ timers.map Timer.id

theorem mem_removeCountdownTimers {timers : List Timer} :
    timer ∈ (removeCountdownTimers timers server).database.timers ↔
      timer ∈ server.database.timers ∧ ¬ Listed .countdown timers timer := by
  induction timers generalizing server with
  | nil => simp [removeCountdownTimers, Listed]
  | cons first rest ih =>
      change timer ∈ (removeCountdownTimers rest
        (removeCountdownTimer first.id server).1).database.timers ↔ _
      rw [ih, mem_removeCountdownTimer, Listed, Listed, List.map_cons, List.mem_cons]
      tauto

theorem mem_removeStopwatches {stopwatches : List Timer} :
    timer ∈ (removeStopwatches stopwatches server).database.timers ↔
      timer ∈ server.database.timers ∧ ¬ Listed .stopwatch stopwatches timer := by
  induction stopwatches generalizing server with
  | nil => simp [removeStopwatches, Listed]
  | cons first rest ih =>
      change timer ∈ (removeStopwatches rest
        (removeStopwatch first.id server).1).database.timers ↔ _
      rw [ih, mem_removeStopwatch, Listed, Listed, List.map_cons, List.mem_cons]
      tauto

theorem onlyRemoves_foldl {remove : Timer → Server → Server × Bool}
    (hremove : ∀ timer server, OnlyRemoves server (remove timer server).1) (timers : List Timer)
    (server : Server) :
    OnlyRemoves server (timers.foldl (fun server timer => (remove timer server).1) server) := by
  induction timers generalizing server with
  | nil => exact .refl server
  | cons first rest ih => exact (hremove first server).trans (ih _)

theorem onlyRemoves_removeCountdownTimers (timers : List Timer) (server : Server) :
    OnlyRemoves server (removeCountdownTimers timers server) :=
  onlyRemoves_foldl (fun _ _ => onlyRemoves_removeOfKind onlyRemoves_deleteTimer) timers server

theorem onlyRemoves_removeStopwatches (stopwatches : List Timer) (server : Server) :
    OnlyRemoves server (removeStopwatches stopwatches server) :=
  onlyRemoves_foldl (fun _ _ => onlyRemoves_removeOfKind onlyRemoves_deleteTimer_alone)
    stopwatches server

variable {u : PyData} {args : PyDict}

theorem mem_activeCountdownTimers {db : Database} :
    timer ∈ activeCountdownTimers db ↔ timer ∈ db.timers ∧ timer.kind = .countdown := by
  rw [activeCountdownTimers, List.mem_insertionSort, mem_listCountdownTimers]

theorem mem_activeStopwatches {db : Database} :
    timer ∈ activeStopwatches db ↔ timer ∈ db.timers ∧ timer.kind = .stopwatch :=
  mem_listStopwatches

theorem not_listed_nil : ¬ Listed kind [] timer := by
  rintro ⟨-, hid⟩
  exact List.not_mem_nil hid

theorem mem_cancelTimers :
    timer ∈ (cancelTimers u args server).1.database.timers ↔ timer ∈ server.database.timers ∧
      ¬ Listed .countdown (selectedTimers u args server.database) timer := by
  simp only [cancelTimers]
  split
  · rename_i hnone
    rw [hnone]
    exact ⟨fun h => ⟨h, not_listed_nil⟩, And.left⟩
  · exact mem_removeCountdownTimers

theorem mem_stopStopwatches :
    timer ∈ (stopStopwatches u args server).1.database.timers ↔
      timer ∈ server.database.timers ∧
        ¬ Listed .stopwatch (selectedStopwatches u args server.database) timer := by
  simp only [stopStopwatches]
  split
  · rename_i hnone
    rw [hnone]
    exact ⟨fun h => ⟨h, not_listed_nil⟩, And.left⟩
  · exact mem_removeStopwatches

theorem onlyRemoves_logStopwatchStopped (server : Server) :
    OnlyRemoves server (logStopwatchStopped server) where
  clock := rfl
  history := rfl
  told := toldCompletions_addActivity (by decide) server
  rows _ h := h
  jobs _ h := h
  keeps _ h _ := h

theorem onlyRemoves_cancelTimers (u : PyData) (args : PyDict) (server : Server) :
    OnlyRemoves server (cancelTimers u args server).1 := by
  simp only [cancelTimers]
  split
  · exact .refl server
  · exact onlyRemoves_removeCountdownTimers _ server

theorem onlyRemoves_stopStopwatches (u : PyData) (args : PyDict) (server : Server) :
    OnlyRemoves server (stopStopwatches u args server).1 := by
  simp only [stopStopwatches]
  split
  · exact .refl server
  · exact (onlyRemoves_removeStopwatches _ server).trans (onlyRemoves_logStopwatchStopped _)

theorem onlyRemoves_clearAllTimers (server : Server) :
    OnlyRemoves server (clearAllTimers server).1 := by
  simp only [clearAllTimers]
  split
  · exact .refl server
  · have hremoves := (onlyRemoves_removeCountdownTimers (activeCountdownTimers server.database)
      server).trans (onlyRemoves_removeStopwatches (activeStopwatches server.database) _)
    split
    · exact hremoves
    · exact hremoves.trans (onlyRemoves_logStopwatchStopped _)

theorem not_mem_clearAllTimers :
    timer ∉ (clearAllTimers server).1.database.timers := by
  intro h
  have hbefore := (onlyRemoves_clearAllTimers server).rows timer h
  simp only [clearAllTimers] at h
  split at h
  · rename_i hnone
    cases hkind : timer.kind with
    | countdown =>
        have hmem := mem_activeCountdownTimers.mpr ⟨hbefore, hkind⟩
        rw [hnone.1] at hmem
        exact List.not_mem_nil hmem
    | stopwatch =>
        have hmem := mem_activeStopwatches.mpr ⟨hbefore, hkind⟩
        rw [hnone.2] at hmem
        exact List.not_mem_nil hmem
  · have hremoved : timer ∈ (removeStopwatches (activeStopwatches server.database)
        (removeCountdownTimers (activeCountdownTimers server.database)
          server)).database.timers := by
      split at h <;> exact h
    rw [mem_removeStopwatches, mem_removeCountdownTimers] at hremoved
    obtain ⟨⟨-, hcountdown⟩, hstopwatch⟩ := hremoved
    cases hkind : timer.kind with
    | countdown =>
        exact hcountdown ⟨hkind,
          List.mem_map_of_mem (mem_activeCountdownTimers.mpr ⟨hbefore, hkind⟩)⟩
    | stopwatch =>
        exact hstopwatch ⟨hkind,
          List.mem_map_of_mem (mem_activeStopwatches.mpr ⟨hbefore, hkind⟩)⟩

theorem requestedLabel_of_lookup (h : args.lookup "label" = none) : requestedLabel u args = [] := by
  rw [requestedLabel, textArg, h]
  rfl

theorem timerMatchesCancelRequest_none (timerId : Int) (label : Text) :
    timerMatchesCancelRequest u timerId label none [] = true :=
  rfl

theorem timerMatchesCancelRequest_int {n timerId : Int} {label : Text} :
    timerMatchesCancelRequest u timerId label (some (.int n)) [] = decide (timerId = n) := by
  simp [timerMatchesCancelRequest, givenId, PyData.intOfScalar]

end NanoCore.Timers.Removal
