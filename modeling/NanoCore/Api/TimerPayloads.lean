import NanoCore.Api.TimerCreation
import NanoCore.Foundation.Runs

namespace NanoCore.Api.TimerPayloads

open NanoCore.Api.TimerCreation
open NanoCore.Api.Timers
open NanoCore.Foundation.KeyedTable
open NanoCore.Foundation.PythonDatetime
open NanoCore.Foundation.PythonText
open NanoCore.Foundation.Runs
open NanoCore.Memory.Models
open NanoCore.Memory.Repository
open NanoCore.Runtime.State
open NanoCore.Timers.Lifecycle
open NanoCore.Timers.Serialization

variable {body : TimerCreate} {clock : Clock} {server : Server}

/-- The payload gives the start from which the countdown was scheduled, and its
due time is the duration later. -/
structure Consistent (body : TimerCreate) (clock : Clock) (payload : CountdownPayload) : Prop where
  duration : payload.durationSeconds = body.durationSeconds
  started : payload.startedAt = .utc (scheduledStart body clock)
  due : payload.dueAt.instant - payload.startedAt.instant = payload.durationSeconds * second

theorem resolveStopwatchStartedAt_of_valid {value now : Int} (h : minValidTimerStart ≤ value) :
    resolveStopwatchStartedAt value now =
      if now + maxFutureStart < value then .utc now else .utc value := by
  have hstarted : (Datetime.stored value).normalizeTimestamp = .utc value := rfl
  simp only [resolveStopwatchStartedAt, hstarted, Datetime.instant_utc]
  rw [if_neg (Int.not_lt.mpr h)]

theorem started_iff {value now : Int} (h : minValidTimerStart ≤ value) :
    resolveStopwatchStartedAt value now = .utc value ↔ value ≤ now + maxFutureStart := by
  rw [resolveStopwatchStartedAt_of_valid h]
  constructor
  · intro heq
    by_contra hfuture
    rw [if_pos (Int.not_le.mp hfuture)] at heq
    have hnow : now = value := congrArg Datetime.wall heq
    have hpositive : 0 < maxFutureStart := by decide
    omega
  · intro hle
    rw [if_neg (Int.not_lt.mpr hle)]

/-- The row of a countdown for the request, whatever its label. -/
def IsRowOf (body : TimerCreate) (clock : Clock) (timer : Timer) : Prop :=
  timer.createdAt = scheduledStart body clock ∧
    timer.dueAt = some (scheduledStart body clock + body.durationSeconds * second) ∧
    timer.durationSeconds = some body.durationSeconds

theorem consistent_iff {timer : Timer} (now : Int) (hrow : IsRowOf body clock timer)
    (hpasses : PassesChecks body clock) :
    Consistent body clock (countdownPayload timer
        (scheduledStart body clock + body.durationSeconds * second) body.durationSeconds now) ↔
      scheduledStart body clock ≤ now + maxFutureStart := by
  have hvalid := valid_scheduledStart hpasses
  rw [← started_iff hvalid]
  constructor
  · intro h
    have hstarted : resolveStopwatchStartedAt timer.createdAt now =
        .utc (scheduledStart body clock) := h.started
    rwa [hrow.1] at hstarted
  · intro hstarted
    rw [← hrow.1] at hstarted
    have hresolved : resolveStopwatchStartedAt timer.createdAt now =
        .utc (scheduledStart body clock) := by
      rw [hstarted, hrow.1]
    refine ⟨rfl, hresolved, ?_⟩
    show (Datetime.stored _).normalizeTimestamp.instant -
      (resolveStopwatchStartedAt timer.createdAt now).instant = body.durationSeconds * second
    rw [hresolved]
    show (Datetime.utc (scheduledStart body clock + body.durationSeconds * second)).instant -
      (Datetime.utc (scheduledStart body clock)).instant = body.durationSeconds * second
    rw [Datetime.instant_utc, Datetime.instant_utc]
    omega

theorem onlyReads_serializeCountdown (timer : Timer) (server : Server) :
    OnlyReads server (serializeCountdown timer server).1 := by
  unfold serializeCountdown
  split
  · split
    · exact .refl server
    · exact .tick server
  · exact .refl server

theorem onlyReads_serializeCountdowns (timers : List Timer) (server : Server) :
    OnlyReads server (serializeCountdowns timers server).1 := by
  induction timers generalizing server with
  | nil => exact .refl server
  | cons timer rest ih => exact (onlyReads_serializeCountdown timer server).trans (ih _)

theorem onlyReads_serializeActiveTimers (server : Server) :
    OnlyReads server (serializeActiveTimers server).1 :=
  onlyReads_serializeCountdowns _ server

theorem eq_of_serializeCountdown {timer : Timer} {payload : CountdownPayload}
    (h : (serializeCountdown timer server).2 = some payload) :
    ∃ dueAt durationSeconds, timer.dueAt = some dueAt ∧
      timer.durationSeconds = some durationSeconds ∧
      payload = countdownPayload timer dueAt durationSeconds server.clock.now := by
  unfold serializeCountdown at h
  split at h
  · rename_i dueAt durationSeconds hdue hduration
    split at h
    · cases h
    · cases h
      exact ⟨dueAt, durationSeconds, hdue, hduration, rfl⟩
  · cases h

/-- Every payload of a snapshot is read from a stored countdown, at a reading of the
clock that is not behind the readings before. -/
theorem exists_of_mem_serializeCountdowns {timers : List Timer} {payload : CountdownPayload}
    (h : payload ∈ (serializeCountdowns timers server).2) :
    ∃ timer ∈ timers, ∃ dueAt durationSeconds now, timer.dueAt = some dueAt ∧
      timer.durationSeconds = some durationSeconds ∧ server.clock.latest ≤ now ∧
      payload = countdownPayload timer dueAt durationSeconds now := by
  induction timers generalizing server with
  | nil => exact absurd h List.not_mem_nil
  | cons timer rest ih =>
      rcases List.mem_append.mp h with hfirst | hrest
      · obtain ⟨dueAt, durationSeconds, hdue, hduration, rfl⟩ :=
          eq_of_serializeCountdown (Option.mem_toList.mp hfirst)
        exact ⟨timer, List.mem_cons_self, dueAt, durationSeconds, _, hdue, hduration,
          server.clock.latest_le_now, rfl⟩
      · obtain ⟨other, hother, dueAt, durationSeconds, now, hdue, hduration, hnow, rfl⟩ := ih hrest
        exact ⟨other, List.mem_cons_of_mem _ hother, dueAt, durationSeconds, now, hdue, hduration,
          (onlyReads_serializeCountdown timer server).clock.trans hnow, rfl⟩

/-- What may happen after the request: the events of the timers, and the snapshots. -/
inductive Moment where
  | event (event : Event)
  | snapshot

def advance (u : PyData) (server : Server) : Moment → Server
  | .event event => step u server event
  | .snapshot => (serializeActiveTimers server).1

theorem effect_advance (u : PyData) (server : Server) (moment : Moment) :
    Effect server (advance u server moment) := by
  cases moment with
  | event event => exact effect_step u server event
  | snapshot => exact .adds (.reads (onlyReads_serializeActiveTimers server))

theorem clock_of_effect {server' : Server} (h : Effect server server') :
    server.clock.latest ≤ server'.clock.latest := by
  cases h with
  | adds h =>
      cases h with
      | reads h => exact h.clock
      | creates timer h => exact h.clock
  | renames h => exact Int.le_of_eq (congrArg Clock.latest h.clock).symm
  | removes h => exact Int.le_of_eq (congrArg Clock.latest h.clock).symm
  | completes logged h hjobs => exact h.clock

/-- As long as a row of the id is stored, it is the row of the request. -/
def KeepsRow (body : TimerCreate) (clock : Clock) (id : Int) (server : Server) : Prop :=
  ∀ row ∈ server.database.timers, row.id = id → IsRowOf body clock row

theorem keepsRow_of_effect {id : Int} {server' : Server} (h : Effect server server')
    (hstored : ∃ row ∈ server.database.timers, row.id = id)
    (hkeeps : KeepsRow body clock id server) : KeepsRow body clock id server' := by
  intro row hrow hid
  cases h with
  | adds h =>
      cases h with
      | reads h =>
          rw [h.timers] at hrow
          exact hkeeps row hrow hid
      | creates timer h =>
          obtain ⟨stored, hmem, hstoredId⟩ := hstored
          rcases (h.rows row).mp hrow with rfl | hbefore
          · exact absurd (hstoredId.trans hid.symm) (h.fresh stored hmem)
          · exact hkeeps row hbefore hid
  | renames h =>
      obtain ⟨old, hold, label, rfl⟩ := h.rows row hrow
      exact hkeeps old hold hid
  | removes h => exact hkeeps row (h.rows row hrow) hid
  | completes logged h hjobs => exact hkeeps row ((h.rows row).mp hrow).1 hid

variable {u : PyData} {moments : List Moment}

theorem clock_stateAt (k : Nat) :
    server.clock.latest ≤ (stateAt (advance u) server moments k).clock.latest :=
  invariant_of_kept (P := fun later : Server => server.clock.latest ≤ later.clock.latest)
    (Int.le_refl _)
    (fun later moment h => h.trans (clock_of_effect (effect_advance u later moment))) k

theorem keepsRow_stateAt {id : Int} (hkeeps : KeepsRow body clock id server) (k : Nat)
    (hstored : ∀ j < k, ∃ row ∈ (stateAt (advance u) server moments j).database.timers,
      row.id = id) :
    KeepsRow body clock id (stateAt (advance u) server moments k) := by
  induction k with
  | zero => exact hkeeps
  | succ k ih =>
      have hbefore := ih fun j hj => hstored j (Nat.lt_succ_of_lt hj)
      cases hmoment : moments[k]? with
      | none => rwa [stateAt_succ_of_none hmoment]
      | some moment =>
          rw [stateAt_succ hmoment]
          exact keepsRow_of_effect (effect_advance u _ moment) (hstored k (Nat.lt_succ_self k))
            hbefore

/-- The payload that is returned is consistent, and so is each payload of the timer
in the snapshots of any run after the request. -/
structure StaysConsistent (u : PyData) (body : TimerCreate) (server : Server)
    (payload : CountdownPayload) : Prop where
  returned : Consistent body server.clock payload
  later : ∀ moments k,
    (∀ j < k, ∃ row ∈
      (stateAt (advance u) (postTimer body server).1 moments j).database.timers,
        row.id = payload.id) →
    ∀ later ∈ (serializeActiveTimers
        (stateAt (advance u) (postTimer body server).1 moments k)).2,
      later.id = payload.id → Consistent body server.clock later

/-- The reading of the clock for the payload that is returned. -/
def readAt (body : TimerCreate) (server : Server) : Int :=
  (startedServer body server).clock.tick.now

theorem readAt_of_given {value : Datetime} (hstart : body.startAt = some value) :
    readAt body server = server.clock.tick.tick.now := by
  rw [readAt, startedServer, hstart]
  rfl

/-- A countdown without a given start starts before the payload is read. -/
theorem scheduledStart_le_readAt (hstart : body.startAt = none) :
    scheduledStart body server.clock ≤ readAt body server := by
  rw [readAt, startedServer, scheduledStart, hstart]
  exact (server.clock.tick.tick.latest_le_now).trans (server.clock.tick.tick.tick.latest_le_now)

theorem isRowOf_withCountdown (body : TimerCreate) (label : Text) (server started : Server) :
    IsRowOf body server.clock
      (withCountdown body.durationSeconds label (scheduledStart body server.clock) started).2 :=
  ⟨rfl, rfl, rfl⟩

theorem keepsRow_withCountdown (body : TimerCreate) (label : Text) (server started : Server) :
    KeepsRow body server.clock
      (withCountdown body.durationSeconds label (scheduledStart body server.clock) started).2.id
      (withCountdown body.durationSeconds label (scheduledStart body server.clock)
        started).1.tick := by
  intro row hrow hid
  have hstores : Stores started
      (withCountdown body.durationSeconds label (scheduledStart body server.clock) started).2
      (withCountdown body.durationSeconds label (scheduledStart body server.clock) started).1 :=
    stores_withCountdown
  rcases (hstores.rows row).mp hrow with rfl | hbefore
  · exact isRowOf_withCountdown body label server started
  · exact absurd hid (hstores.fresh row hbefore)

theorem consistent_of_snapshot {later : CountdownPayload} {id read : Int}
    (hpasses : PassesChecks body clock) (hkeeps : KeepsRow body clock id server)
    (hread : scheduledStart body clock ≤ read + maxFutureStart)
    (hclock : read ≤ server.clock.latest) (hmem : later ∈ (serializeActiveTimers server).2)
    (hid : later.id = id) : Consistent body clock later := by
  obtain ⟨timer, hlisted, dueAt, durationSeconds, now, hdue, hduration, hnow, rfl⟩ :=
    exists_of_mem_serializeCountdowns hmem
  have hrow : IsRowOf body clock timer := hkeeps timer (mem_listCountdownTimers.mp hlisted).1 hid
  rw [hrow.2.1] at hdue
  rw [hrow.2.2] at hduration
  cases hdue
  cases hduration
  rw [consistent_iff now hrow hpasses]
  omega

/-- The payloads agree with the schedule exactly when a given start is at most five
minutes ahead of the clock. -/
theorem staysConsistent_iff (u : PyData) {body : TimerCreate} {server : Server}
    {payload : CountdownPayload} (hpost : (postTimer body server).2 = .ok payload) :
    StaysConsistent u body server payload ↔
      ∀ value, body.startAt = some value →
        value.instant ≤ server.clock.tick.tick.now + maxFutureStart := by
  obtain ⟨label, haccepted⟩ := exists_accepted hpost
  have hanswer := postTimer_of_accepted haccepted
  rw [hanswer] at hpost
  cases hpost
  have hconsistent := consistent_iff (readAt body server)
    (isRowOf_withCountdown body label server (startedServer body server)) haccepted.passes
  constructor
  · intro h value hstart
    have hle := hconsistent.mp h.returned
    rw [scheduledStart, hstart, readAt_of_given hstart] at hle
    exact hle
  · intro h
    have hread : scheduledStart body server.clock ≤ readAt body server + maxFutureStart := by
      rcases hstart : body.startAt with _ | value
      · have hpositive : 0 < maxFutureStart := by decide
        have hle : scheduledStart body server.clock ≤ readAt body server :=
          scheduledStart_le_readAt hstart
        omega
      · rw [scheduledStart, hstart, readAt_of_given hstart]
        exact h value hstart
    refine ⟨hconsistent.mpr hread, fun moments k hstored later hmem hid => ?_⟩
    rw [hanswer] at hstored hmem
    have hkeeps := keepsRow_stateAt
      (keepsRow_withCountdown body label server (startedServer body server)) k hstored
    exact consistent_of_snapshot haccepted.passes hkeeps hread (clock_stateAt k) hmem hid

/-- A minute from a start that is given. -/
def minuteFrom (start : Int) (h : minWall ≤ start ∧ start ≤ maxWall) : TimerCreate where
  durationSeconds := 60
  startAt := some (.utc start)
  duration_pos := by decide
  start_range := by
    intro value hvalue
    cases hvalue
    exact h

/-- A minute from a start two minutes ahead of the clock. -/
def minuteSoon : TimerCreate := minuteFrom (minValidTimerStart + 2 * minute) (by decide)

def minuteSoonPayload : CountdownPayload where
  id := 1
  label := "Timer".toList
  durationSeconds := 60
  startedAt := .utc (minValidTimerStart + 2 * minute)
  dueAt := .utc (minValidTimerStart + 3 * minute)
  remainingSeconds := 180

theorem staysConsistent_soon : StaysConsistent .ascii minuteSoon
    (.initial (.stopped minValidTimerStart)) minuteSoonPayload := by
  rw [staysConsistent_iff .ascii (by decide)]
  intro value hvalue
  cases hvalue
  decide

/-- A minute from a start six minutes ahead of the clock: the request is accepted, and
its payload gives the time of the request as the start. -/
theorem not_staysConsistent_later : ¬ ∀ (u : PyData) (body : TimerCreate) (server : Server)
    (payload : CountdownPayload), (postTimer body server).2 = .ok payload →
    StaysConsistent u body server payload := by
  intro h
  have hpost : (postTimer (minuteFrom (minValidTimerStart + 6 * minute) (by decide))
      (.initial (.stopped minValidTimerStart))).2 = .ok
        { id := 1, label := "Timer".toList, durationSeconds := 60,
          startedAt := .utc minValidTimerStart,
          dueAt := .utc (minValidTimerStart + 7 * minute), remainingSeconds := 420 } := by decide
  have hstarted := (h .ascii _ _ _ hpost).returned.started
  exact absurd hstarted (by decide)

end NanoCore.Api.TimerPayloads
