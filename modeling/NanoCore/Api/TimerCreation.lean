import NanoCore.Api.Timers

namespace NanoCore.Api.TimerCreation

open NanoCore.Api.Timers
open NanoCore.Foundation.KeyedTable
open NanoCore.Foundation.PythonDatetime
open NanoCore.Foundation.PythonText
open NanoCore.Memory.Models
open NanoCore.Memory.Repository
open NanoCore.Runtime.State
open NanoCore.Scheduler.Jobs
open NanoCore.Timers.Labels
open NanoCore.Timers.Lifecycle
open NanoCore.Timers.Operations
open NanoCore.Timers.Serialization

/-- The row of a countdown from `start`. -/
def countdownRow (durationSeconds : Int) (label : Text) (start id : Int) : Timer where
  id := id
  kind := .countdown
  label := if label = [] then "Timer".toList else label
  dueAt := some (start + durationSeconds * second)
  durationSeconds := some durationSeconds
  createdAt := start

/-- The server with the row stored and its job scheduled. -/
def withCountdown (durationSeconds : Int) (label : Text) (start : Int) (server : Server) :
    Server × Timer :=
  let (inserted, timer) := insertTimer (countdownRow durationSeconds label start) server
  (scheduleCountdownTimer durationSeconds label timer.id
    (.utc (start + durationSeconds * second)) inserted, timer)

variable {durationSeconds start : Int} {label : Text} {server : Server}

theorem normalizeUtc_utc (h : minWall ≤ start ∧ start ≤ maxWall) :
    normalizeUtc (.utc start) = .ok (.utc start) := by
  have hinstant : (Datetime.utc start).instant = start := Datetime.instant_utc start
  show Datetime.astimezoneUtc (.utc start) = _
  rw [Datetime.astimezoneUtc, hinstant, if_pos h]

theorem addTimer_of_valid {dueAt : Datetime} (hvalid : minValidTimerStart ≤ start)
    (hmax : start ≤ maxWall) (hdue : dueAt.wall = start + durationSeconds * second) :
    addTimer label dueAt durationSeconds (some (.utc start)) server =
      ((insertTimer (countdownRow durationSeconds label start) server).1,
        .ok (insertTimer (countdownRow durationSeconds label start) server).2) := by
  have hmin : minWall ≤ start := Int.le_trans (by decide) hvalid
  have hstart : resolveTimerStartTime (some (.utc start)) server = (server, .ok (.utc start)) := by
    simp only [resolveTimerStartTime, normalizeUtc_utc ⟨hmin, hmax⟩,
      isPlausibleTimerStart_utc_iff.mpr hvalid, if_true]
  rw [addTimer, hstart]
  simp only [hdue]
  rfl

theorem second_pos : 0 < second := by decide

/-- A start that fits the calendar together with the duration gives a countdown. -/
theorem createCountdownTimer_of_fits {startedAt : Option Datetime} {started : Server}
    (hpos : 0 < durationSeconds)
    (hstarted : countdownStart startedAt server = (started, .utc start))
    (hvalid : minValidTimerStart ≤ start)
    (hfits : start + durationSeconds * second ≤ maxWall) :
    createCountdownTimer durationSeconds label startedAt server =
      ((withCountdown durationSeconds label start started).1,
        .ok (withCountdown durationSeconds label start started).2) := by
  have hlater : start < start + durationSeconds * second :=
    Int.lt_add_of_pos_right start (Int.mul_pos hpos second_pos)
  have hmin : minWall ≤ start + durationSeconds * second :=
    Int.le_trans (by decide) (Int.le_trans hvalid (Int.le_of_lt hlater))
  have hadd : (Datetime.utc start).add (durationSeconds * second) =
      .ok (.utc (start + durationSeconds * second)) := if_pos ⟨hmin, hfits⟩
  have hinsert : insertCountdownTimer durationSeconds label startedAt server =
      ((insertTimer (countdownRow durationSeconds label start) started).1,
        .ok ((insertTimer (countdownRow durationSeconds label start) started).2,
          .utc (start + durationSeconds * second))) := by
    rw [insertCountdownTimer, if_neg (Int.not_le.mpr hpos), hstarted]
    simp only [hadd]
    rw [addTimer_of_valid hvalid (Int.le_trans (Int.le_of_lt hlater) hfits) rfl]
  rw [createCountdownTimer, hinsert]
  rfl

/-- A due time behind the end of the calendar raises. -/
theorem createCountdownTimer_of_overflow {startedAt : Option Datetime} {started : Server}
    (hpos : 0 < durationSeconds)
    (hstarted : countdownStart startedAt server = (started, .utc start))
    (hover : maxWall < start + durationSeconds * second) :
    createCountdownTimer durationSeconds label startedAt server =
      (started, .error .overflowError) := by
  have hadd : (Datetime.utc start).add (durationSeconds * second) = .error .overflowError :=
    if_neg fun h => Int.not_le.mpr hover h.2
  have hinsert : insertCountdownTimer durationSeconds label startedAt server =
      (started, .error .overflowError) := by
    rw [insertCountdownTimer, if_neg (Int.not_le.mpr hpos), hstarted]
    simp only [hadd]
  rw [createCountdownTimer, hinsert]

theorem timers_withCountdown :
    (withCountdown durationSeconds label start server).1.database.timers =
      server.database.timers.put (withCountdown durationSeconds label start server).2 :=
  rfl

theorem clock_withCountdown :
    (withCountdown durationSeconds label start server).1.clock = server.clock.tick :=
  rfl

/-- The payload that is sent is read from the stored row. -/
theorem answerCreated_withCountdown (hpos : 0 < durationSeconds) :
    answerCreated ((withCountdown durationSeconds label start server).1,
        .ok (withCountdown durationSeconds label start server).2) =
      ((withCountdown durationSeconds label start server).1.tick,
        .ok (countdownPayload (withCountdown durationSeconds label start server).2
          (start + durationSeconds * second) durationSeconds server.clock.tick.now)) := by
  have hget : getTimer (withCountdown durationSeconds label start server).2.id
      (withCountdown durationSeconds label start server).1.database =
        some (withCountdown durationSeconds label start server).2 := by
    rw [getTimer, timers_withCountdown]
    exact Table.find?_put_self _ _
  have hserialize : serializeCountdown (withCountdown durationSeconds label start server).2
      (withCountdown durationSeconds label start server).1 =
        ((withCountdown durationSeconds label start server).1.tick,
          some (countdownPayload (withCountdown durationSeconds label start server).2
            (start + durationSeconds * second) durationSeconds
            (withCountdown durationSeconds label start server).1.clock.now)) :=
    serializeCountdown_eq rfl rfl hpos
  have hkind : (withCountdown durationSeconds label start server).2.kind = .countdown := rfl
  simp only [answerCreated, serializeTimerById, hget, hkind, ne_eq, not_true_eq_false, if_false,
    hserialize]
  rw [clock_withCountdown]

/-- The countdown is stored under a new id and its job is scheduled; every other row
and job is as it was. -/
structure Stores (server : Server) (timer : Timer) (server' : Server) : Prop where
  kind : timer.kind = .countdown
  fresh : ∀ other ∈ server.database.timers, other.id ≠ timer.id
  rows : ∀ other, other ∈ server'.database.timers ↔
    other = timer ∨ other ∈ server.database.timers
  job : ∃ dueAt job, timer.dueAt = some dueAt ∧ job ∈ server'.jobs ∧ job.id = .timer timer.id ∧
    dueAt ≤ job.runDate
  otherJobs : ∀ job, job.id ≠ .timer timer.id → (job ∈ server'.jobs ↔ job ∈ server.jobs)

theorem stores_withCountdown : Stores server (withCountdown durationSeconds label start server).2
    (withCountdown durationSeconds label start server).1 := by
  have hinserts : Inserts server
      (insertTimer (countdownRow durationSeconds label start) server).2
      (insertTimer (countdownRow durationSeconds label start) server).1 :=
    inserts_insertTimer (fun _ => rfl) (.refl server)
  refine ⟨rfl, hinserts.fresh, hinserts.rows, ?_, ?_⟩
  · have hdue : (Datetime.utc (start + durationSeconds * second)).normalizeTimestamp.instant =
        start + durationSeconds * second := Datetime.instant_utc _
    refine ⟨start + durationSeconds * second, _, rfl, Table.mem_put.mpr (.inl rfl), rfl, ?_⟩
    simp only [hdue]
    exact Int.le_max_left _ _
  · intro job hne
    show job ∈ server.jobs.put _ ↔ _
    rw [Table.mem_put]
    constructor
    · rintro (rfl | ⟨hmem, -⟩)
      · exact absurd rfl hne
      · exact hmem
    · exact fun hmem => .inr ⟨hmem, hne⟩

theorem Stores.tick {timer : Timer} {server' : Server} (h : Stores server timer server') :
    Stores server timer server'.tick :=
  ⟨h.kind, h.fresh, h.rows, h.job, h.otherJobs⟩

theorem normalizeUtc_of_range {value : Datetime}
    (h : minWall ≤ value.instant ∧ value.instant ≤ maxWall) :
    normalizeUtc value = .ok (.utc value.instant) := by
  rcases hoffset : value.utcoffset with _ | offset
  · have hinstant : value.instant = value.wall := by
      rw [Datetime.instant, hoffset]
      exact Int.sub_zero _
    rw [hinstant]
    simp only [normalizeUtc, hoffset]
    rfl
  · simp only [normalizeUtc, hoffset]
    rw [Datetime.astimezoneUtc, if_pos h]

theorem normalizeUtc_of_not_range {value : Datetime}
    (hwall : minWall ≤ value.wall ∧ value.wall ≤ maxWall)
    (h : ¬ (minWall ≤ value.instant ∧ value.instant ≤ maxWall)) :
    normalizeUtc value = .error .overflowError := by
  rcases hoffset : value.utcoffset with _ | offset
  · have hinstant : value.instant = value.wall := by
      rw [Datetime.instant, hoffset]
      exact Int.sub_zero _
    rw [hinstant] at h
    exact absurd hwall h
  · simp only [normalizeUtc, hoffset]
    rw [Datetime.astimezoneUtc, if_neg h]

variable {body : TimerCreate}

/-- The given start has a UTC reading in the calendar. -/
def Representable (body : TimerCreate) : Prop :=
  ∀ value, body.startAt = some value → minWall ≤ value.instant ∧ value.instant ≤ maxWall

/-- The given start is neither implausible nor past; without one the clock is set. -/
def PassesChecks (body : TimerCreate) (clock : Clock) : Prop :=
  match body.startAt with
  | none => minValidTimerStart ≤ clock.now
  | some value =>
      minValidTimerStart ≤ value.instant ∧ clock.now - startAtPastGrace ≤ value.instant

/-- The start of the countdown: the given one, or the clock's second reading. -/
def scheduledStart (body : TimerCreate) (clock : Clock) : Int :=
  match body.startAt with
  | none => clock.tick.now
  | some value => value.instant

/-- The server when the start is known. -/
def startedServer (body : TimerCreate) (server : Server) : Server :=
  match body.startAt with
  | none => server.tick.tick
  | some _ => server.tick

theorem postTimer_of_label_error {message : Text}
    (hlabel : normalizeTimerLabel body.label "Timer" = .error message) :
    postTimer body server = (server, .error (.http 400 message)) := by
  rw [postTimer, hlabel]

/-- What `_normalize_request_start_at` makes of a start in the calendar. -/
theorem normalizeRequestStartAt_some (server : Server) {value : Datetime}
    (hrange : minWall ≤ value.instant ∧ value.instant ≤ maxWall) :
    normalizeRequestStartAt (some value) server =
      if value.instant < minValidTimerStart then
        (server, .error (.http 400 "start_at is not a valid timestamp.".toList))
      else if value.instant < server.clock.now - startAtPastGrace then
        (server.tick, .error (.http 400 "start_at cannot be in the past.".toList))
      else (server.tick, .ok (some (.utc value.instant))) := by
  simp only [normalizeRequestStartAt, normalizeUtc_of_range hrange, Datetime.instant_utc,
    Bool.not_eq_true', Bool.eq_false_iff, ne_eq, isPlausibleTimerStart_utc_iff, Int.not_le]

theorem postTimer_of_not_representable (hlabel : normalizeTimerLabel body.label "Timer" = .ok label)
    (h : ¬ Representable body) :
    postTimer body server = (server, .error (.raised .overflowError)) := by
  obtain ⟨value, hstart, hrange⟩ : ∃ value, body.startAt = some value ∧
      ¬ (minWall ≤ value.instant ∧ value.instant ≤ maxWall) := by
    simpa only [Representable, not_forall, exists_prop] using h
  have hnormalize : normalizeUtc value = .error .overflowError :=
    normalizeUtc_of_not_range (body.start_range value hstart) hrange
  rw [postTimer, hlabel]
  simp only [hstart, normalizeRequestStartAt, hnormalize]

theorem postTimer_of_not_passes (hlabel : normalizeTimerLabel body.label "Timer" = .ok label)
    (hrange : Representable body) (h : ¬ PassesChecks body server.clock) :
    ∃ server' statusCode detail,
      postTimer body server = (server', .error (.http statusCode detail)) ∧
        OnlyReads server server' := by
  rw [PassesChecks] at h
  rcases hstart : body.startAt with _ | value
  · rw [hstart] at h
    have hanswer : postTimer body server = (server.tick, .error (.http 503
        "System clock is not set. Wait for network time sync, then try again.".toList)) := by
      rw [postTimer, hlabel]
      simp only [hstart, normalizeRequestStartAt, requireUsableSystemClockWhenNeeded,
        requireUsableSystemClockWhenNeeded.requireUsable, Int.not_le.mp h, if_true]
    exact ⟨_, _, _, hanswer, .tick server⟩
  · rw [hstart] at h
    have hnormalize := normalizeRequestStartAt_some server (hrange value hstart)
    by_cases hvalid : minValidTimerStart ≤ value.instant
    · have hpast : value.instant < server.clock.now - startAtPastGrace :=
        Int.not_le.mp fun hle => h ⟨hvalid, hle⟩
      rw [if_neg (Int.not_lt.mpr hvalid), if_pos hpast] at hnormalize
      have hanswer : postTimer body server = (server.tick, .error (.http 400
          "start_at cannot be in the past.".toList)) := by
        rw [postTimer, hlabel]
        simp only [hstart, hnormalize]
      exact ⟨_, _, _, hanswer, .tick server⟩
    · rw [if_pos (Int.not_le.mp hvalid)] at hnormalize
      have hanswer : postTimer body server = (server, .error (.http 400
          "start_at is not a valid timestamp.".toList)) := by
        rw [postTimer, hlabel]
        simp only [hstart, hnormalize]
      exact ⟨_, _, _, hanswer, .refl server⟩

theorem postTimer_of_passes (hlabel : normalizeTimerLabel body.label "Timer" = .ok label)
    (hrange : Representable body) (h : PassesChecks body server.clock) :
    ∃ startedAt, countdownStart startedAt server.tick =
        (startedServer body server, .utc (scheduledStart body server.clock)) ∧
      postTimer body server =
        answerCreated (createCountdownTimer body.durationSeconds label startedAt server.tick) := by
  rw [PassesChecks] at h
  rw [startedServer, scheduledStart, postTimer, hlabel]
  rcases hstart : body.startAt with _ | value
  · rw [hstart] at h
    refine ⟨none, rfl, ?_⟩
    simp only [normalizeRequestStartAt, requireUsableSystemClockWhenNeeded,
      requireUsableSystemClockWhenNeeded.requireUsable, Int.not_lt.mpr h, if_false]
  · rw [hstart] at h
    have hnormalize := normalizeRequestStartAt_some server (hrange value hstart)
    rw [if_neg (Int.not_lt.mpr h.1), if_neg (Int.not_lt.mpr h.2)] at hnormalize
    refine ⟨some (.utc value.instant), rfl, ?_⟩
    simp only [hnormalize, requireUsableSystemClockWhenNeeded,
      isPlausibleTimerStart_utc_iff.mpr h.1, if_true]

theorem valid_scheduledStart {clock : Clock} (h : PassesChecks body clock) :
    minValidTimerStart ≤ scheduledStart body clock := by
  rw [PassesChecks] at h
  rw [scheduledStart]
  rcases hstart : body.startAt with _ | value
  · rw [hstart] at h
    exact h.trans clock.tick.latest_le_now
  · rw [hstart] at h
    exact h.1

/-- A request that passes every check. -/
structure Accepted (body : TimerCreate) (clock : Clock) (label : Text) : Prop where
  label : normalizeTimerLabel body.label "Timer" = .ok label
  representable : Representable body
  passes : PassesChecks body clock
  fits : scheduledStart body clock + body.durationSeconds * second ≤ maxWall

theorem postTimer_of_accepted (h : Accepted body server.clock label) :
    postTimer body server =
      ((withCountdown body.durationSeconds label (scheduledStart body server.clock)
          (startedServer body server)).1.tick,
        .ok (countdownPayload
          (withCountdown body.durationSeconds label (scheduledStart body server.clock)
            (startedServer body server)).2
          (scheduledStart body server.clock + body.durationSeconds * second) body.durationSeconds
          (startedServer body server).clock.tick.now)) := by
  obtain ⟨startedAt, hstarted, hpost⟩ := postTimer_of_passes h.label h.representable h.passes
  rw [hpost, createCountdownTimer_of_fits body.duration_pos hstarted
    (valid_scheduledStart h.passes) h.fits, answerCreated_withCountdown body.duration_pos]

theorem postTimer_of_not_fits (hlabel : normalizeTimerLabel body.label "Timer" = .ok label)
    (hrange : Representable body) (hpasses : PassesChecks body server.clock)
    (hover : maxWall < scheduledStart body server.clock + body.durationSeconds * second) :
    postTimer body server =
      (startedServer body server, .error (.raised .overflowError)) := by
  obtain ⟨startedAt, hstarted, hpost⟩ := postTimer_of_passes hlabel hrange hpasses
  rw [hpost, createCountdownTimer_of_overflow body.duration_pos hstarted hover]
  rfl

theorem exists_accepted {payload : CountdownPayload}
    (hpost : (postTimer body server).2 = .ok payload) :
    ∃ label, Accepted body server.clock label := by
  rcases hlabel : normalizeTimerLabel body.label "Timer" with message | label
  · rw [postTimer_of_label_error hlabel] at hpost
    cases hpost
  by_cases hrange : Representable body
  · by_cases hpasses : PassesChecks body server.clock
    · by_cases hfits :
          scheduledStart body server.clock + body.durationSeconds * second ≤ maxWall
      · exact ⟨label, hlabel, hrange, hpasses, hfits⟩
      · rw [postTimer_of_not_fits hlabel hrange hpasses (Int.not_le.mp hfits)] at hpost
        cases hpost
    · obtain ⟨server', statusCode, detail, hrefused, -⟩ :=
        postTimer_of_not_passes hlabel hrange hpasses
      rw [hrefused] at hpost
      cases hpost
  · rw [postTimer_of_not_representable hlabel hrange] at hpost
    cases hpost

end NanoCore.Api.TimerCreation
