import NanoCore.Foundation.Runs
import NanoCore.Scheduler.Completions

namespace NanoCore.Timers.Lifecycle

open NanoCore.Foundation.KeyedTable
open NanoCore.Foundation.PythonDatetime
open NanoCore.Foundation.PythonText
open NanoCore.Foundation.Runs
open NanoCore.Memory.Models
open NanoCore.Memory.Repository
open NanoCore.Runtime.State
open NanoCore.Scheduler
open NanoCore.Scheduler.Completions
open NanoCore.Scheduler.Jobs
open NanoCore.Timers.Operations
open NanoCore.Timers.Removal

variable {server server' : Server} {timer : Timer} {timerId : Int}

def HasJob (server : Server) (timer : Timer) : Prop :=
  timer.kind = .countdown → ∀ dueAt, timer.dueAt = some dueAt → server.clock.latest < dueAt →
    ⟨.timer timer.id, dueAt⟩ ∈ server.jobs

def Scheduled (server : Server) : Prop := ∀ timer ∈ server.database.timers, HasJob server timer

theorem HasJob.mono (h : HasJob server timer)
    (hclock : server.clock.latest ≤ server'.clock.latest)
    (hjobs : ∀ job ∈ server.jobs, job.id = .timer timer.id → job ∈ server'.jobs) :
    HasJob server' timer := by
  intro hkind dueAt hdueAt hlater
  exact hjobs _ (h hkind dueAt hdueAt (Int.lt_of_le_of_lt hclock hlater)) rfl

theorem HasJob.scheduleTimer (h : HasJob server timer) (hne : timer.id ≠ timerId)
    (dueAt : Option Datetime) : HasJob (scheduleTimer timerId dueAt server) timer := by
  have hjob : JobId.timer timer.id ≠ .timer timerId := fun heq => hne (JobId.timer.inj heq)
  cases dueAt with
  | none =>
      refine h.mono (Int.le_refl _) fun job hmem hid => ?_
      exact Table.mem_erase.mpr ⟨hmem, hid ▸ hjob⟩
  | some due =>
      refine h.mono server.clock.latest_le_now fun job hmem hid => ?_
      exact Table.mem_put.mpr (Or.inr ⟨hmem, hid ▸ hjob⟩)

theorem hasJob_scheduleTimer_self {due : Datetime} (hdue : timer.dueAt = some due.instant) :
    HasJob (scheduleTimer timer.id (some due) server) timer := by
  intro _ dueAt hdueAt hlater
  obtain rfl := Option.some.inj (hdue.symm.trans hdueAt)
  have hmax : max due.normalizeTimestamp.instant server.clock.now = due.instant := by
    rw [Datetime.instant_normalizeTimestamp]
    exact Int.max_eq_left (Int.le_of_lt hlater)
  apply Table.mem_put.mpr
  left
  rw [hmax]

theorem scheduled_completeTimer (h : Scheduled server) (timerId : Int) :
    Scheduled (completeTimer timerId server) := by
  have hcase := completeTimer_case timerId server
  generalize completeTimer timerId server = after at hcase
  cases hcase with
  | idle hidle =>
      intro timer htimer hkind dueAt hdueAt hlater
      refine Table.mem_erase.mpr ⟨h timer htimer hkind dueAt hdueAt hlater, fun hid => ?_⟩
      have hnone := hidle timer htimer (JobId.timer.inj hid) hkind
      rw [hdueAt] at hnone
      cases hnone
  | early row dueAt hfound hdue hearly =>
      obtain ⟨hrow, rfl⟩ := Table.find?_eq_some_iff.mp hfound
      intro timer htimer
      by_cases hid : timer.id = row.id
      · obtain rfl : timer = row := Table.eq_of_key htimer hrow hid
        apply hasJob_scheduleTimer_self
        rw [hdue, Datetime.instant_stored]
      · apply HasJob.scheduleTimer _ hid
        exact (h timer htimer).mono server.clock.latest_le_now fun _ hmem _ => hmem
  | completed row dueAt hfound hkind hdue hreached =>
      intro timer htimer
      obtain ⟨hbefore, hne⟩ := mem_deleteTimer.mp htimer
      refine (h timer hbefore).mono ?_ fun job hmem hid => ?_
      · change server.clock.latest ≤
          (deleteTimer timerId (logCompletion row dueAt _ server.tick)).1.clock.latest
        rw [deleteTimer_clock]
        exact server.clock.latest_le_now
      · refine Table.mem_erase.mpr ⟨?_, ?_⟩
        · rw [deleteTimer_jobs]
          exact hmem
        · rw [hid]
          exact fun heq => hne (JobId.timer.inj heq)

theorem scheduled_of_clock (h : Scheduled server)
    (hclock : server.clock.latest ≤ server'.clock.latest)
    (htimers : server'.database.timers = server.database.timers)
    (hjobs : server'.jobs = server.jobs) : Scheduled server' := by
  intro timer htimer
  rw [htimers] at htimer
  refine (h timer htimer).mono hclock fun job hmem _ => ?_
  rwa [hjobs]

theorem scheduled_checkDueTimers (h : Scheduled server) : Scheduled (checkDueTimers server) := by
  apply List.foldlRecOn
  · exact scheduled_of_clock h server.clock.latest_le_now rfl rfl
  · intro server' h' timer _
    exact scheduled_completeTimer h' timer.id

theorem scheduled_runTimerJob (h : Scheduled server) (timerId : Int) :
    Scheduled (runTimerJob timerId server) := by
  simp only [runTimerJob]
  split
  · exact h
  · rename_i job hfound
    split
    · exact scheduled_of_clock h server.clock.latest_le_now rfl rfl
    · rename_i hreached
      obtain ⟨hjob, hid⟩ := Table.find?_eq_some_iff.mp hfound
      have htaken : Scheduled (unscheduleTimer timerId server.tick) := by
        intro timer htimer hkind dueAt hdueAt hlater
        have hmem := h timer htimer hkind dueAt hdueAt
          (Int.lt_of_le_of_lt server.clock.latest_le_now hlater)
        refine Table.mem_erase.mpr ⟨hmem, fun heq => hreached ?_⟩
        obtain rfl := Table.eq_of_key hmem hjob (heq.trans hid.symm)
        exact hlater
      have hticked : Scheduled (unscheduleTimer timerId server.tick).tick :=
        scheduled_of_clock htaken (unscheduleTimer timerId server.tick).clock.latest_le_now rfl rfl
      split
      · exact hticked
      · exact scheduled_completeTimer hticked timerId

theorem hasJob_syncTimerSchedule_self (server : Server) (timer : Timer) :
    HasJob (syncTimerSchedule server timer) timer := by
  unfold syncTimerSchedule
  cases hdue : timer.dueAt with
  | none =>
      intro _ dueAt hdueAt
      rw [hdue] at hdueAt
      cases hdueAt
  | some dueAt =>
      apply hasJob_scheduleTimer_self
      rw [hdue, Datetime.instant_stored]

theorem HasJob.syncTimerSchedule {row : Timer} (h : HasJob server timer) (hne : timer.id ≠ row.id) :
    HasJob (syncTimerSchedule server row) timer := by
  unfold Jobs.syncTimerSchedule
  split
  · exact h
  · exact h.scheduleTimer hne _

theorem hasJob_foldl_syncTimerSchedule {timers : List Timer}
    (hstored : ∀ row ∈ timers, row ∈ server.database.timers)
    (htimer : timer ∈ server.database.timers) (h : timer ∈ timers ∨ HasJob server timer) :
    HasJob (timers.foldl syncTimerSchedule server) timer := by
  induction timers generalizing server with
  | nil => exact h.resolve_left List.not_mem_nil
  | cons first rest ih =>
      rw [List.forall_mem_cons] at hstored
      rw [List.foldl_cons]
      apply ih
      · rw [(onlySchedules_syncTimerSchedule server first).database]
        exact hstored.2
      · rw [(onlySchedules_syncTimerSchedule server first).database]
        exact htimer
      · by_cases hid : timer.id = first.id
        · obtain rfl : timer = first := Table.eq_of_key htimer hstored.1 hid
          exact Or.inr (hasJob_syncTimerSchedule_self server timer)
        · rcases h with hmem | hjob
          · rcases List.mem_cons.mp hmem with rfl | hrest
            · exact absurd rfl hid
            · exact Or.inl hrest
          · exact Or.inr (hjob.syncTimerSchedule hid)

theorem mem_jobs_syncReminderSchedules {job : Job} (hmem : job ∈ server.jobs)
    (hid : job.id = .timer timerId) : job ∈ (syncReminderSchedules server).jobs := by
  refine List.foldlRecOn (motive := fun server : Server => job ∈ server.jobs) _ _ hmem ?_
  intro server' hmem' reminder _
  refine Table.mem_put.mpr (Or.inr ⟨hmem', ?_⟩)
  rw [hid]
  exact JobId.noConfusion

theorem scheduled_registerJobs (clock : Clock) (db : Database) :
    Scheduled (registerJobs clock db) := by
  intro timer htimer
  rw [(onlySchedules_registerJobs clock db).database] at htimer
  by_cases hkind : timer.kind = .countdown
  · refine HasJob.mono ?_ ((OnlySchedules.tick _).trans
      (onlySchedules_syncReminderSchedules _)).clock fun _ => mem_jobs_syncReminderSchedules
    apply hasJob_foldl_syncTimerSchedule
    · exact fun row hrow => (mem_listCountdownTimers.mp hrow).1
    · exact htimer
    · exact Or.inl (mem_listCountdownTimers.mpr ⟨htimer, hkind⟩)
  · exact fun h => absurd h hkind

theorem recorded_registerJobs (clock : Clock) (db : Database) :
    Recorded (registerJobs clock db) where
  once := by
    rw [(onlySchedules_registerJobs clock db).history]
    exact completedOnce_nil
  stored timer _ := by
    rw [(onlySchedules_registerJobs clock db).history]
    rintro ⟨other, now, hlast⟩
    cases hlast

theorem heard_registerJobs (clock : Clock) (db : Database) : Heard (registerJobs clock db) := by
  have hschedules := onlySchedules_registerJobs clock db
  rw [Heard, toldCompletions, hschedules.activity, hschedules.history]
  rfl

structure OnlyReads (server server' : Server) : Prop where
  clock : server.clock.latest ≤ server'.clock.latest
  timers : server'.database.timers = server.database.timers
  jobs : server'.jobs = server.jobs
  history : server'.history = server.history
  activity : server'.activity = server.activity

theorem OnlyReads.refl (server : Server) : OnlyReads server server :=
  ⟨Int.le_refl _, rfl, rfl, rfl, rfl⟩

theorem OnlyReads.tick (server : Server) : OnlyReads server server.tick :=
  ⟨server.clock.latest_le_now, rfl, rfl, rfl, rfl⟩

theorem OnlyReads.told (h : OnlyReads server server') :
    toldCompletions server' = toldCompletions server :=
  congrArg (List.filter tellsOfCompletion) h.activity

theorem OnlyReads.trans {a b c : Server} (h : OnlyReads a b) (h' : OnlyReads b c) :
    OnlyReads a c :=
  ⟨h.clock.trans h'.clock, h'.timers.trans h.timers, h'.jobs.trans h.jobs,
    h'.history.trans h.history, h'.activity.trans h.activity⟩

structure Creates (server : Server) (timer : Timer) (server' : Server) : Prop where
  clock : server.clock.latest ≤ server'.clock.latest
  fresh : ∀ other ∈ server.database.timers, other.id ≠ timer.id
  rows : ∀ other, other ∈ server'.database.timers ↔
    other = timer ∨ other ∈ server.database.timers
  jobs : ∀ job ∈ server.jobs, job.id ≠ .timer timer.id → job ∈ server'.jobs
  hasJob : HasJob server' timer
  history : server'.history = .created timer :: server.history
  told : toldCompletions server' = toldCompletions server

inductive Adds (server server' : Server) : Prop where
  | reads (h : OnlyReads server server')
  | creates (timer : Timer) (h : Creates server timer server')

structure OnlyRenames (server server' : Server) : Prop where
  clock : server'.clock = server.clock
  rows : ∀ timer ∈ server'.database.timers, ∃ old ∈ server.database.timers,
    ∃ label, timer = setLabel label old
  kept : ∀ old ∈ server.database.timers, ∃ label, setLabel label old ∈ server'.database.timers
  jobs : server'.jobs = server.jobs
  history : server'.history = server.history
  activity : server'.activity = server.activity

theorem OnlyRenames.refl (server : Server) : OnlyRenames server server :=
  ⟨rfl, fun timer h => ⟨timer, h, timer.label, rfl⟩, fun old h => ⟨old.label, h⟩, rfl, rfl, rfl⟩

inductive Effect (server server' : Server) : Prop where
  | adds (h : Adds server server')
  | renames (h : OnlyRenames server server')
  | removes (h : OnlyRemoves server server')
  | completes (logged : List TimerEvent) (h : OnlyCompletes server logged server')
      (hjobs : Scheduled server → Scheduled server')

theorem Adds.scheduled (h : Adds server server') (hscheduled : Scheduled server) :
    Scheduled server' := by
  cases h with
  | reads h => exact scheduled_of_clock hscheduled h.clock h.timers h.jobs
  | creates timer h =>
      intro other hother
      rcases (h.rows other).mp hother with rfl | hbefore
      · exact h.hasJob
      · refine (hscheduled other hbefore).mono h.clock fun job hmem hid => ?_
        apply h.jobs job hmem
        rw [hid]
        exact fun heq => h.fresh other hbefore (JobId.timer.inj heq)

theorem Adds.recorded (h : Adds server server') (hrecorded : Recorded server) :
    Recorded server' := by
  cases h with
  | reads h =>
      apply hrecorded.of_history_eq h.history
      intro timer htimer
      rw [h.timers] at htimer
      exact ⟨timer, htimer, rfl⟩
  | creates timer h => exact hrecorded.created h.history fun other => (h.rows other).mp

namespace Effect

theorem scheduled (h : Effect server server') (hscheduled : Scheduled server) :
    Scheduled server' := by
  cases h with
  | adds h => exact h.scheduled hscheduled
  | renames h =>
      intro timer htimer
      obtain ⟨old, hold, label, rfl⟩ := h.rows timer htimer
      intro hkind dueAt hdueAt hlater
      rw [h.clock] at hlater
      rw [h.jobs]
      exact hscheduled old hold hkind dueAt hdueAt hlater
  | removes h =>
      intro timer htimer hkind dueAt hdueAt hlater
      rw [h.clock] at hlater
      exact h.keeps _ (hscheduled timer (h.rows timer htimer) hkind dueAt hdueAt hlater)
        ⟨timer, htimer, hkind, rfl⟩
  | completes logged h hjobs => exact hjobs hscheduled

theorem recorded (h : Effect server server') (hrecorded : Recorded server) :
    Recorded server' := by
  cases h with
  | adds h => exact h.recorded hrecorded
  | renames h =>
      apply hrecorded.of_history_eq h.history
      intro timer htimer
      obtain ⟨old, hold, label, rfl⟩ := h.rows timer htimer
      exact ⟨old, hold, rfl⟩
  | removes h =>
      apply hrecorded.of_history_eq h.history
      exact fun timer htimer => ⟨timer, h.rows timer htimer, rfl⟩
  | completes logged h hjobs => exact hrecorded.completes h

theorem heard (h : Effect server server') (hheard : Heard server) : Heard server' := by
  cases h with
  | adds h =>
      cases h with
      | reads h => exact hheard.of_told h.told h.history
      | creates timer h =>
          rw [Heard, h.told, h.history, List.reverse_cons, List.flatMap_append, ← hheard]
          exact (List.append_nil _).symm
  | renames h =>
      exact hheard.of_told (congrArg (List.filter tellsOfCompletion) h.activity) h.history
  | removes h => exact hheard.of_told h.told h.history
  | completes logged h hjobs => exact hheard.completes h

end Effect

theorem onlyReads_resolveTimerStartTime (startedAt : Option Datetime) (server : Server) :
    OnlyReads server (resolveTimerStartTime startedAt server).1 := by
  have hclock (r : Server × Except PyError Datetime)
      (h : r = if isPlausibleTimerStart (.utc server.clock.now) then
        (server.tick, .ok (.utc server.clock.now)) else (server.tick, .error .valueError)) :
      OnlyReads server r.1 := by
    rw [h]
    split <;> exact .tick server
  simp only [resolveTimerStartTime]
  split
  · exact hclock _ rfl
  · split
    · exact .refl server
    · split
      · exact .refl server
      · exact hclock _ rfl

structure Inserts (server : Server) (timer : Timer) (server' : Server) : Prop where
  nextId : timer.id = nextRowid (server.database.timers.rows.map Timer.id)
  clock : server.clock.latest ≤ server'.clock.latest
  fresh : ∀ other ∈ server.database.timers, other.id ≠ timer.id
  rows : ∀ other, other ∈ server'.database.timers ↔
    other = timer ∨ other ∈ server.database.timers
  jobs : server'.jobs = server.jobs
  history : server'.history = .created timer :: server.history
  activity : server'.activity = server.activity

theorem inserts_insertTimer {row : Int → Timer} (hid : ∀ id, (row id).id = id)
    (hreads : OnlyReads server server') :
    Inserts server (insertTimer row server').2 (insertTimer row server').1 := by
  have hfresh : ∀ other ∈ server'.database.timers,
      other.id ≠ (insertTimer row server').2.id := by
    intro other hother
    change other.id ≠ (row _).id
    rw [hid]
    exact Int.ne_of_lt (lt_nextRowid (List.mem_map_of_mem hother))
  refine ⟨?_, hreads.clock, ?_, fun other => ?_, hreads.jobs, congrArg _ hreads.history,
    hreads.activity⟩
  · rw [← hreads.timers]
    exact hid _
  · rwa [← hreads.timers]
  · change other ∈ server'.database.timers.put (insertTimer row server').2 ↔ _
    rw [Table.mem_put, ← hreads.timers]
    exact or_congr_right (and_iff_left_of_imp (hfresh other))

namespace Inserts

theorem creates_of_kind (h : Inserts server timer server') (hkind : timer.kind ≠ .countdown) :
    Creates server timer server' where
  clock := h.clock
  fresh := h.fresh
  rows := h.rows
  jobs _ hjob _ := h.jobs.symm ▸ hjob
  hasJob hcountdown := absurd hcountdown hkind
  history := h.history
  told := congrArg (List.filter tellsOfCompletion) h.activity

theorem creates_scheduleTimer (h : Inserts server timer server') {due : Datetime}
    (hdue : timer.dueAt = some due.instant) :
    Creates server timer (scheduleTimer timer.id (some due) server') where
  clock := h.clock.trans server'.clock.latest_le_now
  fresh := h.fresh
  rows := h.rows
  jobs _ hjob hne := Table.mem_put.mpr (Or.inr ⟨h.jobs.symm ▸ hjob, hne⟩)
  hasJob := hasJob_scheduleTimer_self hdue
  history := h.history
  told := congrArg (List.filter tellsOfCompletion) h.activity

end Inserts

theorem onlyReads_countdownStart (startedAt : Option Datetime) (server : Server) :
    OnlyReads server (countdownStart startedAt server).1 := by
  cases startedAt with
  | none => exact .tick server
  | some value => exact .refl server

theorem isUtc_countdownStart {startedAt : Option Datetime}
    (h : ∀ value, startedAt = some value → value.IsUtc) (server : Server) :
    (countdownStart startedAt server).2.IsUtc := by
  cases startedAt with
  | none => exact Datetime.isUtc_utc _
  | some value => exact Datetime.isUtc_normalizeTimestamp.mpr (h value rfl)

theorem Creates.addActivity (h : Creates server timer server') {call : ActivityCall}
    (hcall : tellsOfCompletion call = false) : Creates server timer (server'.addActivity call) :=
  ⟨h.clock, h.fresh, h.rows, h.jobs, h.hasJob, h.history,
    (toldCompletions_addActivity hcall server').trans h.told⟩

theorem Inserts.of_reads {a b c : Server} (hreads : OnlyReads a b) (h : Inserts b timer c) :
    Inserts a timer c where
  nextId := by rw [h.nextId, hreads.timers]
  clock := hreads.clock.trans h.clock
  fresh other hother := h.fresh other (hreads.timers ▸ hother)
  rows other := by rw [h.rows, hreads.timers]
  jobs := h.jobs.trans hreads.jobs
  history := by rw [h.history, hreads.history]
  activity := h.activity.trans hreads.activity

section Add

variable {label : Text} {dueAt : Datetime} {durationSeconds : Int} {startedAt : Option Datetime}

theorem onlyReads_of_addTimer {e : PyError}
    (h : addTimer label dueAt durationSeconds startedAt server = (server', .error e)) :
    OnlyReads server server' := by
  have hreads := onlyReads_resolveTimerStartTime startedAt server
  unfold addTimer at h
  rcases hstart : resolveTimerStartTime startedAt server with ⟨after, e' | startTime⟩ <;>
    rw [hstart] at h hreads <;> cases h
  exact hreads

theorem inserts_of_addTimer
    (h : addTimer label dueAt durationSeconds startedAt server = (server', .ok timer)) :
    Inserts server timer server' ∧ timer.dueAt = some dueAt.wall := by
  have hreads := onlyReads_resolveTimerStartTime startedAt server
  unfold addTimer at h
  rcases hstart : resolveTimerStartTime startedAt server with ⟨after, e' | startTime⟩ <;>
    rw [hstart] at h hreads
  · cases h
  · simp only at h
    cases h
    exact ⟨inserts_insertTimer (fun _ => rfl) hreads, rfl⟩

theorem onlyReads_of_addStopwatch {e : PyError}
    (h : addStopwatch label startedAt server = (server', .error e)) :
    OnlyReads server server' := by
  have hreads := onlyReads_resolveTimerStartTime startedAt server
  unfold addStopwatch at h
  rcases hstart : resolveTimerStartTime startedAt server with ⟨after, e' | startTime⟩ <;>
    rw [hstart] at h hreads <;> cases h
  exact hreads

theorem inserts_of_addStopwatch
    (h : addStopwatch label startedAt server = (server', .ok timer)) :
    Inserts server timer server' ∧ timer.kind = .stopwatch := by
  have hreads := onlyReads_resolveTimerStartTime startedAt server
  unfold addStopwatch at h
  rcases hstart : resolveTimerStartTime startedAt server with ⟨after, e' | startTime⟩ <;>
    rw [hstart] at h hreads
  · cases h
  · simp only at h
    cases h
    exact ⟨inserts_insertTimer (fun _ => rfl) hreads, rfl⟩

theorem onlyReads_of_insertCountdownTimer {e : PyError}
    (h : insertCountdownTimer durationSeconds label startedAt server = (server', .error e)) :
    OnlyReads server server' := by
  have hreads := onlyReads_countdownStart startedAt server
  unfold insertCountdownTimer at h
  split at h
  · cases h
    exact .refl server
  · rcases hcountdown : countdownStart startedAt server with ⟨started, startTime⟩
    rw [hcountdown] at h hreads
    cases hdue : startTime.add (durationSeconds * second) with
    | error e' =>
        simp only [hdue] at h
        cases h
        exact hreads
    | ok due =>
        simp only [hdue] at h
        rcases hadd : addTimer label due durationSeconds (some startTime) started with
          ⟨added, e' | row⟩ <;> rw [hadd] at h <;> cases h
        exact hreads.trans (onlyReads_of_addTimer hadd)

theorem inserts_of_insertCountdownTimer
    (h : insertCountdownTimer durationSeconds label startedAt server =
      (server', .ok (timer, dueAt))) :
    Inserts server timer server' ∧ timer.dueAt = some dueAt.wall ∧
      ((∀ value, startedAt = some value → value.IsUtc) → dueAt.IsUtc) := by
  have hreads := onlyReads_countdownStart startedAt server
  have hutc (hstart : ∀ value, startedAt = some value → value.IsUtc) :=
    isUtc_countdownStart hstart server
  unfold insertCountdownTimer at h
  split at h
  · cases h
  · rcases hcountdown : countdownStart startedAt server with ⟨started, startTime⟩
    rw [hcountdown] at h hreads hutc
    cases hdue : startTime.add (durationSeconds * second) with
    | error e =>
        simp only [hdue] at h
        cases h
    | ok due =>
        simp only [hdue] at h
        rcases hadd : addTimer label due durationSeconds (some startTime) started with
          ⟨added, e | row⟩ <;> rw [hadd] at h <;> cases h
        obtain ⟨hinserts, htimer⟩ := inserts_of_addTimer hadd
        refine ⟨.of_reads hreads hinserts, htimer, fun hstart => ?_⟩
        rw [Datetime.IsUtc, (Datetime.add_eq_ok hdue).2]
        exact hutc hstart

end Add

theorem not_tellsOfCompletion_started (duration : String) (label : Text) :
    tellsOfCompletion (.log ("Timer started (" ++ duration ++ ")").toList label
      "scheduler.timers".toList) = false := by
  rw [tellsOfCompletion, decide_eq_false_iff_not, String.toList_append, String.toList_append,
    List.append_assoc]
  intro h
  have hfront := congrArg (List.take 7) h
  rw [List.take_append_of_le_length (by decide)] at hfront
  exact absurd hfront (by decide)

theorem adds_createCountdownTimer (durationSeconds : Int) (label : Text)
    {startedAt : Option Datetime} (hstart : ∀ value, startedAt = some value → value.IsUtc)
    (server : Server) :
    Adds server (createCountdownTimer durationSeconds label startedAt server).1 := by
  unfold createCountdownTimer
  rcases hinsert : insertCountdownTimer durationSeconds label startedAt server with
    ⟨inserted, e | ⟨timer, dueAt⟩⟩
  · exact .reads (onlyReads_of_insertCountdownTimer hinsert)
  · obtain ⟨hinserts, hdue, hutc⟩ := inserts_of_insertCountdownTimer hinsert
    rw [← Datetime.isUtc_iff.mp (hutc hstart)] at hdue
    exact .creates timer
      ((hinserts.creates_scheduleTimer hdue).addActivity (not_tellsOfCompletion_started _ _))

theorem adds_createStopwatch (label : Text) (startedAt : Option Datetime) (server : Server) :
    Adds server (createStopwatch label startedAt server).1 := by
  unfold createStopwatch
  rcases hadd : addStopwatch label startedAt server with ⟨added, e | timer⟩
  · exact .reads (onlyReads_of_addStopwatch hadd)
  · obtain ⟨hinserts, hkind⟩ := inserts_of_addStopwatch hadd
    refine .creates timer ((hinserts.creates_of_kind ?_).addActivity ?_)
    · rw [hkind]
      decide
    · rw [tellsOfCompletion]
      decide

theorem onlyRenames_updateTimerLabel (timerId : Int) (label : Text) (server : Server) :
    OnlyRenames server (updateTimerLabel timerId label server).1 := by
  unfold updateTimerLabel
  split
  · exact .refl server
  · refine ⟨rfl, fun timer htimer => ?_, fun old hold => ?_, rfl, rfl, rfl⟩
    · change timer ∈ server.database.timers.modify timerId (setLabel label) fun _ => rfl at htimer
      obtain ⟨old, hold, rfl⟩ := Table.mem_modify.mp htimer
      refine ⟨old, hold, ?_⟩
      split
      · exact ⟨label, rfl⟩
      · exact ⟨old.label, rfl⟩
    · have hrow : (if old.id = timerId then setLabel label old else old) ∈
          server.database.timers.modify timerId (setLabel label) fun _ => rfl :=
        Table.mem_modify.mpr ⟨old, hold, rfl⟩
      split at hrow
      · exact ⟨label, hrow⟩
      · exact ⟨old.label, hrow⟩

theorem onlyRenames_renameRow (u : PyData) (items : Database → List Timer)
    (idName itemNoun default : String) (args : PyDict) (server : Server) :
    OnlyRenames server (renameRow u items idName itemNoun default args server).1 := by
  unfold renameRow
  split
  · exact .refl server
  · split
    · exact .refl server
    · split
      · exact .refl server
      · rename_i target _ _ newLabel _
        have hrenames := onlyRenames_updateTimerLabel target.id newLabel server
        split <;> rename_i hupdate <;> rw [hupdate] at hrenames <;> exact hrenames

theorem onlyRemoves_wipeDatabase (server : Server) : OnlyRemoves server (wipeDatabase server) where
  clock := rfl
  history := rfl
  told := rfl
  rows timer h := by
    change timer ∈ server.database.timers.eraseAll (server.database.timers.rows.map Timer.id) at h
    rw [Table.eraseAll_keys] at h
    exact absurd h (Table.not_mem_empty timer)
  jobs _ h := h
  keeps _ h _ := h

inductive Event where
  /-- The callers pass a start time of zone UTC or none. -/
  | createCountdownTimer (durationSeconds : Int) (label : Text) (startedAt : Option Datetime.Utc)
  | createStopwatch (label : Text) (startedAt : Option Datetime)
  | cancelTimers (args : PyDict)
  | stopStopwatches (args : PyDict)
  | clearAllTimers
  | removeCountdownTimer (timerId : Int)
  | removeStopwatch (stopwatchId : Int)
  | renameTimer (args : PyDict)
  | renameStopwatch (args : PyDict)
  | updateTimerLabel (timerId : Int) (label : Text)
  | wipeDatabase
  /-- The scheduler takes up the job of an id. -/
  | runTimerJob (timerId : Int)
  /-- A call of `complete_timer` for any id. -/
  | completeTimer (timerId : Int)
  | checkDueTimers

def step (u : PyData) (server : Server) : Event → Server
  | .createCountdownTimer durationSeconds label startedAt =>
      (createCountdownTimer durationSeconds label (startedAt.map Subtype.val) server).1
  | .createStopwatch label startedAt => (createStopwatch label startedAt server).1
  | .cancelTimers args => (cancelTimers u args server).1
  | .stopStopwatches args => (stopStopwatches u args server).1
  | .clearAllTimers => (clearAllTimers server).1
  | .removeCountdownTimer timerId => (removeCountdownTimer timerId server).1
  | .removeStopwatch stopwatchId => (removeStopwatch stopwatchId server).1
  | .renameTimer args => (renameTimer u args server).1
  | .renameStopwatch args => (renameStopwatch u args server).1
  | .updateTimerLabel timerId label => (updateTimerLabel timerId label server).1
  | .wipeDatabase => wipeDatabase server
  | .runTimerJob timerId => runTimerJob timerId server
  | .completeTimer timerId => completeTimer timerId server
  | .checkDueTimers => checkDueTimers server

theorem effect_step (u : PyData) (server : Server) (event : Event) :
    Effect server (step u server event) := by
  cases event with
  | createCountdownTimer durationSeconds label startedAt =>
      refine .adds (adds_createCountdownTimer durationSeconds label ?_ server)
      intro value hvalue
      obtain ⟨start, -, rfl⟩ := Option.map_eq_some_iff.mp hvalue
      exact start.property
  | createStopwatch label startedAt => 
      exact .adds (adds_createStopwatch label startedAt server)
  | cancelTimers args => exact .removes (onlyRemoves_cancelTimers u args server)
  | stopStopwatches args => exact .removes (onlyRemoves_stopStopwatches u args server)
  | clearAllTimers => exact .removes (onlyRemoves_clearAllTimers server)
  | removeCountdownTimer timerId =>
      exact .removes (onlyRemoves_removeOfKind onlyRemoves_deleteTimer)
  | removeStopwatch stopwatchId =>
      exact .removes (onlyRemoves_removeOfKind onlyRemoves_deleteTimer_alone)
  | renameTimer args => exact .renames (onlyRenames_renameRow u _ _ _ _ args server)
  | renameStopwatch args => exact .renames (onlyRenames_renameRow u _ _ _ _ args server)
  | updateTimerLabel timerId label =>
      exact .renames (onlyRenames_updateTimerLabel timerId label server)
  | wipeDatabase => exact .removes (onlyRemoves_wipeDatabase server)
  | runTimerJob timerId =>
      obtain ⟨logged, h, -⟩ := onlyCompletes_runTimerJob timerId server
      exact .completes logged h fun h => scheduled_runTimerJob h timerId
  | completeTimer timerId =>
      obtain ⟨logged, h, -⟩ := onlyCompletes_completeTimer timerId server
      exact .completes logged h fun h => scheduled_completeTimer h timerId
  | checkDueTimers =>
      obtain ⟨logged, h, -⟩ := onlyCompletes_checkDueTimers server
      exact .completes logged h scheduled_checkDueTimers

def LoggedDue (timer : Timer) (server server' : Server) : Prop :=
  ∃ logged now, server'.history = logged ++ server.history ∧ .completed timer now ∈ logged ∧
    isDue now timer = true

/-- An operation that takes the row of a countdown: its completion, a cancel or a
clear that selects it, or a wipe. -/
def TakenBy (u : PyData) (timer : Timer) (server server' : Server) : Event → Prop
  | .runTimerJob timerId => timerId = timer.id ∧ LoggedDue timer server server'
  | .completeTimer timerId => timerId = timer.id ∧ LoggedDue timer server server'
  | .checkDueTimers => LoggedDue timer server server'
  | .cancelTimers args => timer ∈ selectedTimers u args server.database
  | .removeCountdownTimer timerId => timerId = timer.id
  | .clearAllTimers => True
  | .wipeDatabase => True
  | .createCountdownTimer _ _ _ | .createStopwatch _ _ | .stopStopwatches _
  | .removeStopwatch _ | .renameTimer _ | .renameStopwatch _ | .updateTimerLabel _ _ => False

def Gone (timer : Timer) (server : Server) : Prop :=
  ∀ other ∈ server.database.timers, other.id ≠ timer.id

theorem Gone.not_mem (h : Gone timer server) : timer ∉ server.database.timers :=
  fun hmem => h timer hmem rfl

theorem not_gone_of_adds (h : Adds server server') (hmem : timer ∈ server.database.timers) :
    ¬ Gone timer server' := by
  intro hgone
  apply hgone.not_mem
  cases h with
  | reads h => rwa [h.timers]
  | creates other h => exact (h.rows timer).mpr (Or.inr hmem)

theorem not_gone_of_onlyRenames (h : OnlyRenames server server')
    (hmem : timer ∈ server.database.timers) : ¬ Gone timer server' := by
  intro hgone
  obtain ⟨label, hkept⟩ := h.kept timer hmem
  exact hgone _ hkept rfl

theorem mem_of_listed {timers : List Timer} {kind : TimerKind}
    (hstored : ∀ row ∈ timers, row ∈ server.database.timers)
    (hmem : timer ∈ server.database.timers) (h : Listed kind timers timer) : timer ∈ timers := by
  obtain ⟨row, hrow, hid⟩ := List.mem_map.mp h.2
  exact Table.eq_of_key (hstored row hrow) hmem hid ▸ hrow

theorem loggedDue_of_gone {logged : List TimerEvent} (h : OnlyCompletes server logged server')
    (hmem : timer ∈ server.database.timers) (hgone : Gone timer server') :
    ∃ now, .completed timer now ∈ logged ∧ LoggedDue timer server server' := by
  obtain ⟨now, hlogged, hdue, -⟩ := h.exists_logged hmem hgone.not_mem
  exact ⟨now, hlogged, logged, now, h.history, hlogged, hdue⟩

/-- The row of a countdown goes only in the ways that are meant to take it. -/
theorem takenBy_of_gone (u : PyData) {event : Event} (hmem : timer ∈ server.database.timers)
    (hkind : timer.kind = .countdown) (hgone : Gone timer (step u server event)) :
    TakenBy u timer server (step u server event) event := by
  have hnone := hgone.not_mem
  cases event with
  | createCountdownTimer durationSeconds label startedAt =>
      refine not_gone_of_adds (adds_createCountdownTimer durationSeconds label ?_ server) hmem hgone
      intro value hvalue
      obtain ⟨start, -, rfl⟩ := Option.map_eq_some_iff.mp hvalue
      exact start.property
  | createStopwatch label startedAt =>
      exact not_gone_of_adds (adds_createStopwatch label startedAt server) hmem hgone
  | cancelTimers args =>
      have hlisted : Listed .countdown (selectedTimers u args server.database) timer := by
        by_contra h
        exact hnone (mem_cancelTimers.mpr ⟨hmem, h⟩)
      apply mem_of_listed _ hmem hlisted
      intro row hrow
      exact (mem_activeCountdownTimers.mp (List.mem_filter.mp hrow).1).1
  | stopStopwatches args =>
      apply hnone
      refine mem_stopStopwatches.mpr ⟨hmem, fun h => ?_⟩
      rw [Listed, hkind] at h
      cases h.1
  | clearAllTimers => trivial
  | removeCountdownTimer timerId =>
      by_contra hne
      exact hnone (mem_removeCountdownTimer.mpr ⟨hmem, fun h => hne h.2.symm⟩)
  | removeStopwatch stopwatchId =>
      apply hnone
      refine mem_removeStopwatch.mpr ⟨hmem, fun h => ?_⟩
      rw [hkind] at h
      cases h.1
  | renameTimer args =>
      exact not_gone_of_onlyRenames (onlyRenames_renameRow u _ _ _ _ args server) hmem hgone
  | renameStopwatch args =>
      exact not_gone_of_onlyRenames (onlyRenames_renameRow u _ _ _ _ args server) hmem hgone
  | updateTimerLabel timerId label =>
      exact not_gone_of_onlyRenames (onlyRenames_updateTimerLabel timerId label server) hmem hgone
  | wipeDatabase => trivial
  | runTimerJob timerId =>
      obtain ⟨logged, h, hid⟩ := onlyCompletes_runTimerJob timerId server
      obtain ⟨now, hlogged, hdue⟩ := loggedDue_of_gone h hmem hgone
      exact ⟨(hid _ hlogged).symm, hdue⟩
  | completeTimer timerId =>
      obtain ⟨logged, h, hid⟩ := onlyCompletes_completeTimer timerId server
      obtain ⟨now, hlogged, hdue⟩ := loggedDue_of_gone h hmem hgone
      exact ⟨(hid _ hlogged).symm, hdue⟩
  | checkDueTimers =>
      obtain ⟨logged, h, -⟩ := onlyCompletes_checkDueTimers server
      obtain ⟨now, hlogged, hdue⟩ := loggedDue_of_gone h hmem hgone
      exact hdue

theorem checkDueTimers_takes (hmem : timer ∈ server.database.timers)
    (hdue : isDue server.clock.now timer = true) :
    Gone timer (checkDueTimers server) ∧ ∃ logged now,
      (checkDueTimers server).history = logged ++ server.history ∧
      (logged.filter fun event => event.timer.id = timer.id) = [.completed timer now] := by
  obtain ⟨logged, h, hgone⟩ := onlyCompletes_checkDueTimers server
  have hnone := hgone timer hmem hdue
  constructor
  · intro other hother hid
    obtain ⟨hbefore, -⟩ := (h.rows other).mp hother
    exact hnone (Table.eq_of_key hbefore hmem hid ▸ hother)
  · obtain ⟨now, hlogged, -⟩ := h.exists_logged hmem hnone
    exact ⟨logged, now, h.history, filter_key_eq_singleton h.once hlogged⟩

variable (u : PyData) (init : Server) (events : List Event)

/-- The promises about the timers in a run. -/
structure WellRun : Prop where
  /-- The hub gets the log and the announcement of each completion in the history, and no
  other that tells of a completion. -/
  heard : ∀ k, Heard (stateAt (step u) init events k)
  /-- A call of `complete_timer` for any id takes and logs due countdowns only. -/
  completes : ∀ k timerId, ∃ logged,
    OnlyCompletes (stateAt (step u) init events k) logged
      (completeTimer timerId (stateAt (step u) init events k)) ∧
    ∀ event ∈ logged, event.timer.id = timerId
  taken : ∀ k event timer, events[k]? = some event →
    timer ∈ (stateAt (step u) init events k).database.timers → timer.kind = .countdown →
    Gone timer (stateAt (step u) init events (k + 1)) →
    TakenBy u timer (stateAt (step u) init events k) (stateAt (step u) init events (k + 1)) event
  once : ∀ k, CompletedOnce (stateAt (step u) init events k).history
  scheduled : ∀ k, Scheduled (stateAt (step u) init events k)
  checked : ∀ k timer, events[k]? = some .checkDueTimers →
    timer ∈ (stateAt (step u) init events k).database.timers →
    isDue (stateAt (step u) init events k).clock.now timer = true →
    Gone timer (stateAt (step u) init events (k + 1)) ∧ ∃ logged now,
      (stateAt (step u) init events (k + 1)).history =
        logged ++ (stateAt (step u) init events k).history ∧
      (logged.filter fun event => event.timer.id = timer.id) = [.completed timer now]

variable {init} in
theorem recorded_stateAt (h : Recorded init) (k : Nat) :
    Recorded (stateAt (step u) init events k) :=
  invariant_of_kept h (fun server event h => (effect_step u server event).recorded h) k

variable {init} in
theorem scheduled_stateAt (h : Scheduled init) (k : Nat) :
    Scheduled (stateAt (step u) init events k) :=
  invariant_of_kept h (fun server event h => (effect_step u server event).scheduled h) k

variable {init} in
theorem heard_stateAt (h : Heard init) (k : Nat) : Heard (stateAt (step u) init events k) :=
  invariant_of_kept h (fun server event h => (effect_step u server event).heard h) k

/-- The promises hold in every run after the start of the scheduler. -/
theorem wellRun_registerJobs (clock : Clock) (db : Database) :
    WellRun u (registerJobs clock db) events where
  heard := heard_stateAt u events (heard_registerJobs clock db)
  completes k timerId := onlyCompletes_completeTimer timerId _
  taken k event timer hevent hmem hkind hgone := by
    rw [stateAt_succ hevent] at hgone ⊢
    exact takenBy_of_gone u hmem hkind hgone
  once k := (recorded_stateAt u events (recorded_registerJobs clock db) k).once
  scheduled k := scheduled_stateAt u events (scheduled_registerJobs clock db) k
  checked k timer hevent hmem hdue := by
    rw [stateAt_succ hevent]
    exact checkDueTimers_takes hmem hdue

end NanoCore.Timers.Lifecycle
