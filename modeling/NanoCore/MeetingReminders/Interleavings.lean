import NanoCore.Foundation.Interleaving
import NanoCore.MeetingReminders.Offsets

/-!
Firings and upserts of reminders at the same time.  A step of a call is one
transaction of the database or one call of the scheduler, with what the function
computes and announces before it.
-/

namespace NanoCore.MeetingReminders.Interleavings

open NanoCore.Foundation.Interleaving
open NanoCore.Foundation.KeyedTable
open NanoCore.Foundation.PythonDatetime
open NanoCore.Foundation.PythonText
open NanoCore.Foundation.Runs
open NanoCore.Memory.MeetingReminders
open NanoCore.Memory.Models
open NanoCore.MeetingReminders.Offsets
open NanoCore.MeetingReminders.Service
open NanoCore.Runtime.State
open NanoCore.Scheduler.Jobs

/-- What the calls did.  The upserts that stored a row are numbered; `future`
tells whether the reminder time of the row's last upsert was still ahead when it
was stored. -/
inductive Outcome where
  /-- A firing that read the row of upsert `number` announced it. -/
  | announced (reminderId : String) (number : Nat)
  | marked (reminderId : String) (number : Nat) (future : Bool)
  | unscheduled (reminderId : String) (number : Nat) (future : Bool)
  deriving DecidableEq, Repr

/-- The server; the other fields are for the statements and no step reads them. -/
structure Shared where
  server : Server
  /-- The number of the last upsert of a row. -/
  numbers : String → Nat
  futures : String → Bool
  /-- Latest first. -/
  outcomes : List Outcome

inductive FireStage where
  | read
  | act (reminder : MeetingReminder) (seen : Nat)
  | mark (now : Int) (seen : Nat)
  | unschedule
  | done
  deriving DecidableEq, Repr

inductive UpsertStage where
  | store
  | schedule (reminderId : String) (remindAt : Datetime)
  | done
  deriving DecidableEq, Repr

inductive Call where
  | fire (reminderId : String) (stage : FireStage)
  | upsert (newId : String) (request : ReminderRequest) (stage : UpsertStage)
  deriving DecidableEq, Repr

namespace Shared

def onServer (shared : Shared) (server : Server) (outcome : Option Outcome) : Shared :=
  { shared with server := server, outcomes := outcome.toList ++ shared.outcomes }

def store (shared : Shared) (server : Server) (reminder : MeetingReminder) : Shared :=
  { shared with
    server := server
    numbers := Function.update shared.numbers reminder.id (shared.numbers reminder.id + 1)
    futures := Function.update shared.futures reminder.id
      (decide (reminder.updatedAt < reminder.remindAt)) }

end Shared

def actFire (reminderId : String) (shared : Shared) : FireStage → Shared × FireStage
  | .read =>
      (shared,
        match getReminder reminderId shared.server.database with
        | none => .unschedule
        | some reminder =>
            if reminder.firedAt.isSome then .unschedule
            else .act reminder (shared.numbers reminderId))
  | .act reminder seen =>
      let now := shared.server.clock.now
      let remindAt := (Datetime.stored reminder.remindAt).normalizeTimestamp
      if now < remindAt.instant then
        (shared.onServer (scheduleReminder reminderId (some remindAt) shared.server.tick) none,
          .done)
      else
        (shared.onServer (announceReminder reminder shared.server.tick)
          (some (.announced reminderId seen)), .mark now seen)
  | .mark now _ =>
      let (server, found) := markReminderFired reminderId (some (.utc now)) shared.server
      (shared.onServer server
        (if found.isSome then
          some (.marked reminderId (shared.numbers reminderId) (shared.futures reminderId))
        else none),
        .unschedule)
  | .unschedule =>
      (shared.onServer (unscheduleReminder reminderId shared.server)
        (if (shared.server.jobs.find? (.meetingReminder reminderId)).isSome then
          some (.unscheduled reminderId (shared.numbers reminderId) (shared.futures reminderId))
        else none),
        .done)
  | .done => (shared, .done)

def actUpsert (newId : String) (request : ReminderRequest) (shared : Shared) :
    UpsertStage → Shared × UpsertStage
  | .store =>
      match storeReminder newId request shared.server with
      | (server, .error _) => (shared.onServer server none, .done)
      | (server, .ok (reminder, remindAt)) =>
          (shared.store server reminder, .schedule reminder.id remindAt)
  | .schedule reminderId remindAt =>
      (shared.onServer (scheduleReminder reminderId (some remindAt) shared.server) none, .done)
  | .done => (shared, .done)

def act : Call → Shared → Shared × Call
  | .fire reminderId stage, shared =>
      (actFire reminderId shared stage).map id (.fire reminderId)
  | .upsert newId request stage, shared =>
      (actUpsert newId request shared stage).map id (.upsert newId request)

inductive Operation where
  | fireReminder (reminderId : String)
  | upsertMeetingReminder (newId : String) (request : ReminderRequest)
  deriving DecidableEq, Repr

def Operation.call : Operation → Call
  | .fireReminder reminderId => .fire reminderId .read
  | .upsertMeetingReminder newId request => .upsert newId request .store

def start (server : Server) (operations : List Operation) : System Shared Call :=
  ⟨⟨server, fun _ => 0, fun _ => false, []⟩, operations.map Operation.call⟩

section Alone

variable (server : Server)

/-- The server after the steps of one operation that runs alone. -/
def alone (operation : Operation) (steps : Nat) : Server :=
  (run (System.advance act) (start server [operation]) (List.replicate steps 0)).shared.server

theorem advance_singleton (shared : Shared) (call : Call) :
    System.advance act ⟨shared, [call]⟩ 0 = ⟨(act call shared).1, [(act call shared).2]⟩ := rfl

theorem alone_fireReminder (reminderId : String) :
    alone server (.fireReminder reminderId) 4 = fireReminder reminderId server := by
  simp only [alone, run, start, List.replicate, List.foldl_cons, List.foldl_nil, List.map_cons,
    List.map_nil, Operation.call, advance_singleton, act]
  cases hfound : getReminder reminderId server.database with
  | none =>
      simp only [fireReminder, hfound, actFire, Prod.map, id]
      rfl
  | some reminder =>
      cases hfired : reminder.firedAt with
      | some firedAt =>
          simp only [fireReminder, hfound, hfired, actFire, Prod.map, id, Option.isSome_some,
            if_true]
          rfl
      | none =>
          by_cases hearly :
              server.clock.now < (Datetime.stored reminder.remindAt).normalizeTimestamp.instant
          · simp only [fireReminder, hfound, hfired, actFire, Prod.map, id, Option.isSome_none,
              Bool.false_eq_true, if_false, if_pos hearly]
            rfl
          · simp only [fireReminder, hfound, hfired, actFire, Prod.map, id, Option.isSome_none,
              Bool.false_eq_true, if_false, if_neg hearly]
            rfl

theorem alone_upsertMeetingReminder (newId : String) (request : ReminderRequest) :
    alone server (.upsertMeetingReminder newId request) 2 =
      (upsertMeetingReminder newId request server).1 := by
  simp only [alone, run, start, List.replicate, List.foldl_cons, List.foldl_nil, List.map_cons,
    List.map_nil, Operation.call, advance_singleton, act]
  rcases hstore : storeReminder newId request server with ⟨stored, e | ⟨reminder, remindAt⟩⟩
  · simp only [upsertMeetingReminder, hstore, actUpsert, Prod.map, id]
    rfl
  · simp only [upsertMeetingReminder, hstore, actUpsert, Prod.map, id]
    rfl

end Alone

/-- A reminder that was stored with its time ahead is marked and unscheduled
after its announcement only. -/
structure Safe (outcomes : List Outcome) : Prop where
  marked : ∀ reminderId number earlier, (.marked reminderId number true :: earlier) <:+ outcomes →
    .announced reminderId number ∈ earlier
  unscheduled : ∀ reminderId number earlier,
    (.unscheduled reminderId number true :: earlier) <:+ outcomes →
    .announced reminderId number ∈ earlier

/-- A firing of the row is about to mark it or to unschedule its job. -/
def Call.silencesNext (reminderId : String) : Call → Bool
  | .fire reminderId' (.mark _ _) => reminderId' = reminderId
  | .fire reminderId' .unschedule => reminderId' = reminderId
  | _ => false

def Careful (system : System Shared Call) (i : Nat) : Prop :=
  match system.calls[i]? with
  | some (.fire reminderId (.act reminder seen)) =>
      -- a due row is announced only if it was not stored anew for a later time since it was read
      system.shared.server.clock.now < reminder.remindAt ∨
        seen = system.shared.numbers reminderId ∨ system.shared.futures reminderId = false
  | some (.upsert newId request .store) =>
      -- a row is stored for a later time only while no firing marks or unschedules it next
      ∀ server reminder remindAt,
        storeReminder newId request system.shared.server = (server, .ok (reminder, remindAt)) →
        reminder.updatedAt < reminder.remindAt →
        ∀ call ∈ system.calls, call.silencesNext reminder.id = false
  | _ => True

/-- The last upsert of the row was for a time that had passed, or was announced. -/
def Settled (shared : Shared) (reminderId : String) : Prop :=
  shared.futures reminderId = true →
    .announced reminderId (shared.numbers reminderId) ∈ shared.outcomes

def Fits (shared : Shared) (call : Call) : Prop :=
  ∀ reminderId, call.silencesNext reminderId = true → Settled shared reminderId

structure Inv (system : System Shared Call) : Prop where
  safe : Safe system.shared.outcomes
  absent : ∀ reminderId, getReminder reminderId system.shared.server.database = none →
    Settled system.shared reminderId
  fired : ∀ reminderId reminder,
    getReminder reminderId system.shared.server.database = some reminder →
    reminder.firedAt ≠ none → Settled system.shared reminderId
  calls : ∀ call ∈ system.calls, Fits system.shared call

theorem safe_nil : Safe [] where
  marked reminderId number earlier hsuffix := by
    rw [List.suffix_nil] at hsuffix
    cases hsuffix
  unscheduled reminderId number earlier hsuffix := by
    rw [List.suffix_nil] at hsuffix
    cases hsuffix

def Allowed (shared : Shared) : Outcome → Prop
  | .announced _ _ => True
  | .marked reminderId number future =>
      future = true → .announced reminderId number ∈ shared.outcomes
  | .unscheduled reminderId number future =>
      future = true → .announced reminderId number ∈ shared.outcomes

theorem safe_append {shared : Shared} {outcome : Option Outcome} (h : Safe shared.outcomes)
    (hallowed : ∀ o ∈ outcome, Allowed shared o) : Safe (outcome.toList ++ shared.outcomes) := by
  cases outcome with
  | none => exact h
  | some o =>
      have ho := hallowed o rfl
      constructor
      · intro reminderId number earlier hsuffix
        rcases List.suffix_cons_iff.mp hsuffix with heq | hsuffix
        · injection heq with hhead hearlier
          subst hhead
          exact hearlier ▸ ho rfl
        · exact h.marked reminderId number earlier hsuffix
      · intro reminderId number earlier hsuffix
        rcases List.suffix_cons_iff.mp hsuffix with heq | hsuffix
        · injection heq with hhead hearlier
          subst hhead
          exact hearlier ▸ ho rfl
        · exact h.unscheduled reminderId number earlier hsuffix

section Steps

variable {shared : Shared} {system : System Shared Call} {i : Nat} {call new : Call}
variable {server' : Server} {outcome : Option Outcome} {reminderId : String}

theorem Settled.onServer (h : Settled shared reminderId) (server' : Server)
    (outcome : Option Outcome) : Settled (shared.onServer server' outcome) reminderId :=
  fun hfuture => List.mem_append_right _ (h hfuture)

theorem Fits.onServer (h : Fits shared call) (server' : Server) (outcome : Option Outcome) :
    Fits (shared.onServer server' outcome) call :=
  fun reminderId hnext => (h reminderId hnext).onServer server' outcome

theorem Inv.onServer (hinv : Inv system)
    (hallowed : ∀ o ∈ outcome, Allowed system.shared o)
    (hrows : ∀ reminderId reminder, getReminder reminderId server'.database = some reminder →
      reminder.firedAt ≠ none → Settled (system.shared.onServer server' outcome) reminderId)
    (habsent : ∀ reminderId, getReminder reminderId server'.database = none →
      getReminder reminderId system.shared.server.database = none)
    (hnew : Fits (system.shared.onServer server' outcome) new) :
    Inv ⟨system.shared.onServer server' outcome, system.calls.set i new⟩ where
  safe := safe_append hinv.safe hallowed
  absent reminderId h := (hinv.absent reminderId (habsent reminderId h)).onServer server' outcome
  fired := hrows
  calls := System.forall_mem_set hinv.calls hnew fun _ _ h => h.onServer server' outcome

theorem Inv.of_database (hinv : Inv system)
    (hallowed : ∀ o ∈ outcome, Allowed system.shared o)
    (hdatabase : server'.database = system.shared.server.database)
    (hnew : Fits (system.shared.onServer server' outcome) new) :
    Inv ⟨system.shared.onServer server' outcome, system.calls.set i new⟩ := by
  refine hinv.onServer hallowed ?_ ?_ hnew
  · intro reminderId reminder hfound hfired
    rw [hdatabase] at hfound
    exact (hinv.fired reminderId reminder hfound hfired).onServer server' outcome
  · intro reminderId h
    rwa [hdatabase] at h

theorem Inv.stay (hinv : Inv system) (hnew : Fits system.shared new) :
    Inv ⟨system.shared, system.calls.set i new⟩ where
  safe := hinv.safe
  absent := hinv.absent
  fired := hinv.fired
  calls := System.forall_mem_set hinv.calls hnew fun _ _ h => h

theorem fits_of_silent (h : ∀ reminderId, call.silencesNext reminderId = false) :
    Fits shared call := by
  intro reminderId hnext
  rw [h] at hnext
  cases hnext

theorem fits_unschedule (h : Settled shared reminderId) :
    Fits shared (.fire reminderId .unschedule) := by
  intro reminderId' hnext
  exact (of_decide_eq_true hnext : reminderId = reminderId') ▸ h

theorem fits_mark {now : Int} {seen : Nat} (h : Settled shared reminderId) :
    Fits shared (.fire reminderId (.mark now seen)) := by
  intro reminderId' hnext
  exact (of_decide_eq_true hnext : reminderId = reminderId') ▸ h

theorem fits_read (hinv : Inv system) :
    Fits system.shared (.fire reminderId (actFire reminderId system.shared .read).2) := by
  cases hfound : getReminder reminderId system.shared.server.database with
  | none =>
      simp only [actFire, hfound]
      exact fits_unschedule (hinv.absent reminderId hfound)
  | some reminder =>
      cases hfired : reminder.firedAt with
      | none =>
          simp only [actFire, hfound, hfired, Option.isSome_none, Bool.false_eq_true, if_false]
          exact fits_of_silent fun _ => rfl
      | some firedAt =>
          simp only [actFire, hfound, hfired, Option.isSome_some, if_true]
          apply fits_unschedule
          apply hinv.fired reminderId reminder hfound
          rw [hfired]
          exact Option.some_ne_none firedAt

/-- A row that was due is announced under the number of its last upsert, if the
row's reminder time is still ahead. -/
theorem inv_act {reminder : MeetingReminder} {seen : Nat} (hinv : Inv system)
    (hseen : system.shared.server.clock.now < reminder.remindAt ∨
      seen = system.shared.numbers reminderId ∨ system.shared.futures reminderId = false) :
    Inv ⟨(actFire reminderId system.shared (.act reminder seen)).1,
      system.calls.set i
        (.fire reminderId (actFire reminderId system.shared (.act reminder seen)).2)⟩ := by
  simp only [actFire, Datetime.instant_normalizeTimestamp, Datetime.instant_stored]
  split
  · exact hinv.of_database nofun (onlySchedules_scheduleJob ..).database
      (fits_of_silent fun _ => rfl)
  · rename_i hreached
    refine hinv.of_database (fun o ho => ?_) rfl (fits_mark fun hfuture => ?_)
    · cases ho
      trivial
    · have hlast : seen = system.shared.numbers reminderId := by
        refine (hseen.resolve_left hreached).resolve_right fun hpast => ?_
        exact absurd (hpast.symm.trans hfuture) Bool.false_ne_true
      change _ ∈ Outcome.announced reminderId seen :: _
      exact hlast ▸ List.mem_cons_self

theorem inv_mark {now : Int} {seen : Nat} (hinv : Inv system)
    (hsettled : Settled system.shared reminderId) :
    Inv ⟨(actFire reminderId system.shared (.mark now seen)).1,
      system.calls.set i
        (.fire reminderId (actFire reminderId system.shared (.mark now seen)).2)⟩ := by
  have hrows (reminderId' : String) : getReminder reminderId' (markReminderFired reminderId
      (some (.utc now)) system.shared.server).1.database = _ := getReminder_markReminderFired
  rcases hmark : markReminderFired reminderId (some (.utc now)) system.shared.server with
    ⟨server, found⟩
  simp only [hmark] at hrows
  simp only [actFire, hmark]
  refine hinv.onServer ?_ ?_ ?_ (fits_unschedule (hsettled.onServer _ _))
  · intro o ho
    split at ho
    · cases ho
      exact hsettled
    · cases ho
  · intro reminderId' row hrow hfired
    rw [hrows, Option.map_eq_some_iff] at hrow
    obtain ⟨old, hold, rfl⟩ := hrow
    by_cases hsame : old.id = reminderId
    · obtain rfl : reminderId' = reminderId :=
        (getReminder_eq_some_iff.mp hold).2.symm.trans hsame
      exact hsettled.onServer _ _
    · rw [if_neg hsame] at hfired
      exact (hinv.fired reminderId' old hold hfired).onServer _ _
  · intro reminderId' hnone
    rwa [hrows, Option.map_eq_none_iff] at hnone

theorem inv_actFire {stage : FireStage} (hinv : Inv system)
    (hcall : system.calls[i]? = some (.fire reminderId stage)) (hcareful : Careful system i) :
    Inv ⟨(actFire reminderId system.shared stage).1,
      system.calls.set i (.fire reminderId (actFire reminderId system.shared stage).2)⟩ := by
  have hfits : Fits system.shared (.fire reminderId stage) :=
    hinv.calls _ (List.mem_of_getElem? hcall)
  rw [Careful, hcall] at hcareful
  cases stage with
  | read => exact hinv.stay (fits_read hinv)
  | act reminder seen => exact inv_act hinv hcareful
  | mark now seen => exact inv_mark hinv (hfits reminderId (decide_eq_true rfl))
  | unschedule =>
      have hsettled : Settled system.shared reminderId := hfits reminderId (decide_eq_true rfl)
      refine hinv.of_database (fun o ho => ?_) rfl (fits_of_silent fun _ => rfl)
      split at ho
      · cases ho
        exact hsettled
      · cases ho
  | done =>
      exact hinv.stay (fits_of_silent fun _ => rfl)

theorem inv_store {args : ReminderArgs} {reminder : MeetingReminder} (between : Server)
    (hinv : Inv system) (hbetween : between.database = system.shared.server.database)
    (hupserts : Upserts args between reminder server')
    (hcareful : reminder.updatedAt < reminder.remindAt →
      ∀ call ∈ system.calls, call.silencesNext reminder.id = false)
    (hnew : ∀ reminderId, new.silencesNext reminderId = false) :
    Inv ⟨system.shared.store server' reminder, system.calls.set i new⟩ := by
  have hother : ∀ reminderId, reminderId ≠ reminder.id → Settled system.shared reminderId →
      Settled (system.shared.store server' reminder) reminderId := by
    intro reminderId hne h hfuture
    simp only [Shared.store, Function.update_of_ne hne] at hfuture ⊢
    exact h hfuture
  have hrow : getReminder reminder.id server'.database = some reminder :=
    getReminder_eq_some_iff.mpr ⟨hupserts.stored, rfl⟩
  have hrows : ∀ reminderId, reminderId ≠ reminder.id →
      getReminder reminderId server'.database =
        getReminder reminderId system.shared.server.database := by
    intro reminderId hne
    refine Option.ext fun row => ?_
    rw [getReminder_eq_some_iff, getReminder_eq_some_iff, ← hbetween]
    refine and_congr_left fun hid => hupserts.others row ?_
    rw [hid]
    exact hne
  constructor
  · exact hinv.safe
  · intro reminderId hnone
    have hne : reminderId ≠ reminder.id := by
      rintro rfl
      cases hnone.symm.trans hrow
    exact hother reminderId hne (hinv.absent reminderId (hrows reminderId hne ▸ hnone))
  · intro reminderId row hfound hfired
    have hne : reminderId ≠ reminder.id := by
      rintro rfl
      obtain rfl := Option.some.inj (hrow.symm.trans hfound)
      exact hfired hupserts.carries.firedAt
    exact hother reminderId hne (hinv.fired reminderId row (hrows reminderId hne ▸ hfound) hfired)
  · refine System.forall_mem_set hinv.calls (fits_of_silent hnew) fun call hmem h => ?_
    intro reminderId hnext
    by_cases hid : reminderId = reminder.id
    · subst hid
      intro hfuture
      simp only [Shared.store, Function.update_self] at hfuture
      rw [hcareful (of_decide_eq_true hfuture) call hmem] at hnext
      cases hnext
    · exact hother reminderId hid (h reminderId hnext)

theorem inv_actUpsert {newId : String} {request : ReminderRequest} {stage : UpsertStage}
    (hinv : Inv system) (hcall : system.calls[i]? = some (.upsert newId request stage))
    (hcareful : Careful system i) :
    Inv ⟨(actUpsert newId request system.shared stage).1,
      system.calls.set i (.upsert newId request
        (actUpsert newId request system.shared stage).2)⟩ := by
  rw [Careful, hcall] at hcareful
  cases stage with
  | store =>
      rcases hstore : storeReminder newId request system.shared.server with
        ⟨stored, e | ⟨reminder, remindAt⟩⟩
      · simp only [actUpsert, hstore]
        exact hinv.of_database nofun (storeReminder_database_of_error hstore)
          (fits_of_silent fun _ => rfl)
      · simp only [actUpsert, hstore]
        obtain ⟨args, -, -, hupserts⟩ := upserts_of_storeReminder hstore
        exact inv_store system.shared.server.tick hinv rfl hupserts
          (hcareful stored reminder remindAt hstore) fun _ => rfl
  | schedule reminderId remindAt =>
      exact hinv.of_database nofun (onlySchedules_scheduleJob ..).database
        (fits_of_silent fun _ => rfl)
  | done =>
      exact hinv.stay (fits_of_silent fun _ => rfl)

theorem inv_advance (hinv : Inv system) (hcareful : Careful system i) :
    Inv (System.advance act system i) := by
  cases hcall : system.calls[i]? with
  | none => rwa [System.advance_of_none hcall]
  | some call =>
      rw [System.advance_of_some hcall]
      cases call with
      | fire reminderId stage => exact inv_actFire hinv hcall hcareful
      | upsert newId request stage => exact inv_actUpsert hinv hcall hcareful

theorem inv_start (server : Server) (operations : List Operation) :
    Inv (start server operations) where
  safe := safe_nil
  absent _ _ hfuture := absurd hfuture Bool.false_ne_true
  fired _ _ _ _ hfuture := absurd hfuture Bool.false_ne_true
  calls call hmem := by
    obtain ⟨operation, -, rfl⟩ := List.mem_map.mp hmem
    cases operation <;> exact fits_of_silent fun _ => rfl

end Steps

theorem heard_of_careful (server : Server) (operations : List Operation) (schedule : List Nat)
    (hcareful : ∀ k i, schedule[k]? = some i →
      Careful (stateAt (System.advance act) (start server operations) schedule k) i) (k : Nat) :
    Safe (stateAt (System.advance act) (start server operations) schedule k).shared.outcomes :=
  (invariant_of_guarded (C := Careful) (inv_start server operations)
    (fun _ _ hinv hcareful => inv_advance hinv hcareful) hcareful k).safe

/-- At half past nine the reminder for ten o'clock with a lead of an hour is due. -/
def dueServer : Server :=
  let request := { standup "2026-07-01T10:00:00Z" with leadMinutes := 60 }
  { (upsertMeetingReminder "rem_1" request (.initial (.stopped (1782894600 * second)))).1 with
    clock := .stopped (1782898200 * second) }

def fireAndUpsert : List Operation :=
  [.fireReminder "rem_1", .upsertMeetingReminder "rem_2" (standup "2026-07-01T10:00:00Z")]

theorem heard_of_careful_fireThenUpsert :
    Safe (stateAt (System.advance act) (start dueServer fireAndUpsert)
      [0, 0, 0, 0, 1, 1] 6).shared.outcomes := by
  apply heard_of_careful
  intro k i hi
  rcases k with _ | _ | _ | _ | _ | _ | k <;> cases hi
  · trivial
  · exact Or.inr (Or.inl (by decide +kernel))
  · trivial
  · trivial
  · intro server reminder remindAt _ _
    have hdone : ∀ call ∈ (stateAt (System.advance act) (start dueServer fireAndUpsert)
        [0, 0, 0, 0, 1, 1] 4).calls, ∀ reminderId, call.silencesNext reminderId = false := by
      have hcalls : (stateAt (System.advance act) (start dueServer fireAndUpsert)
          [0, 0, 0, 0, 1, 1] 4).calls =
            [.fire "rem_1" .done,
              .upsert "rem_2" (standup "2026-07-01T10:00:00Z") .store] := by
        decide +kernel
      rw [hcalls]
      intro call hmem reminderId
      rcases List.mem_pair.mp hmem with rfl | rfl <;> rfl
    exact fun call hmem => hdone call hmem reminder.id
  · trivial

/-- The upsert stores the row between the announcement and the mark. -/
theorem not_heard_of_upsert_before_mark :
    ¬ ∀ (server : Server) (operations : List Operation) (schedule : List Nat) (k : Nat),
      Safe (stateAt (System.advance act) (start server operations) schedule k).shared.outcomes := by
  intro h
  have houtcomes : (stateAt (System.advance act) (start dueServer fireAndUpsert)
      [0, 0, 1, 0] 4).shared.outcomes = [.marked "rem_1" 1 true, .announced "rem_1" 0] := by
    decide +kernel
  have hmarked := (h dueServer fireAndUpsert [0, 0, 1, 0] 4).marked "rem_1" 1
    [.announced "rem_1" 0]
  rw [houtcomes] at hmarked
  exact absurd (hmarked List.suffix_rfl) (by decide)

/-- The re-armed reminder has no job left either. -/
example : (stateAt (System.advance act) (start dueServer fireAndUpsert)
    [0, 0, 1, 0, 1, 0] 6).shared.outcomes =
      [.unscheduled "rem_1" 1 true, .marked "rem_1" 1 true, .announced "rem_1" 0] := by
  decide +kernel

end NanoCore.MeetingReminders.Interleavings
