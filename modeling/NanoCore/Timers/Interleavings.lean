import NanoCore.Foundation.Interleaving
import NanoCore.Timers.Lifecycle

/-!
Completions, removals and creations of countdowns at the same time.  A step of a
call is one transaction of the database or one call of the scheduler, with what
the function computes and logs before it.
-/

namespace NanoCore.Timers.Interleavings

open NanoCore.Foundation.Interleaving
open NanoCore.Foundation.KeyedTable
open NanoCore.Foundation.PythonDatetime
open NanoCore.Foundation.PythonText
open NanoCore.Foundation.Runs
open NanoCore.Memory.Models
open NanoCore.Memory.Repository
open NanoCore.Runtime.State
open NanoCore.Scheduler.Jobs
open NanoCore.Timers.Lifecycle
open NanoCore.Timers.Operations
open NanoCore.Timers.Removal

/-- What the calls did.  The timers that had an id one after the other are
numbered; `seen` is the number of the timer for which `complete_timer` was
called. -/
inductive Outcome where
  | logged (timerId : Int) (serial : Nat)
  /-- `remove_countdown_timer` returned True. -/
  | removed (timerId : Int) (serial : Nat)
  /-- `complete_timer` deleted the row of timer `found`. -/
  | deleted (timerId : Int) (seen found : Nat)
  /-- `complete_timer` unscheduled the job of timer `found`. -/
  | unscheduled (timerId : Int) (seen found : Nat)
  deriving DecidableEq, Repr

structure Shared where
  server : Server
  serials : Int → Nat
  /-- The number of the timer whose job was scheduled last under an id. -/
  jobSerials : Int → Nat
  /-- Latest first. -/
  outcomes : List Outcome

inductive CompleteStage where
  | read
  | act (timer : Timer) (dueAt : Int) (seen : Nat)
  | delete (seen : Nat)
  | unschedule (seen : Nat)
  | done
  deriving DecidableEq, Repr

inductive RemoveStage where
  | read
  | unschedule
  | delete
  | done (result : Bool)
  deriving DecidableEq, Repr

inductive CreateStage where
  | insert
  | schedule (timerId : Int) (dueAt : Datetime) (serial : Nat)
  | done
  deriving DecidableEq, Repr

inductive Call where
  | complete (timerId : Int) (stage : CompleteStage)
  | remove (timerId : Int) (stage : RemoveStage)
  | create (durationSeconds : Int) (label : Text) (startedAt : Option Datetime)
      (stage : CreateStage)
  deriving DecidableEq, Repr

namespace Shared

def onServer (shared : Shared) (server : Server) (outcome : Option Outcome) : Shared :=
  { shared with server := server, outcomes := outcome.toList ++ shared.outcomes }

def schedule (shared : Shared) (server : Server) (timerId : Int) (serial : Nat) : Shared :=
  { shared with
    server := server, jobSerials := Function.update shared.jobSerials timerId serial }

def insert (shared : Shared) (server : Server) (timerId : Int) : Shared :=
  { shared with
    server := server
    serials := Function.update shared.serials timerId (shared.serials timerId + 1) }

end Shared

def actComplete (timerId : Int) (shared : Shared) : CompleteStage → Shared × CompleteStage
  | .read =>
      let seen := shared.serials timerId
      (shared,
        match getTimer timerId shared.server.database with
        | none => .unschedule seen
        | some timer =>
            match timer.kind, timer.dueAt with
            | .countdown, some dueAt => .act timer dueAt seen
            | _, _ => .unschedule seen)
  | .act timer dueAt seen =>
      let now := shared.server.clock.now
      if now < dueAt then
        (shared.schedule (scheduleTimer timerId (some (.stored dueAt)) shared.server.tick)
          timerId seen, .done)
      else
        (shared.onServer (logCompletion timer dueAt now shared.server.tick)
          (some (.logged timerId seen)), .delete seen)
  | .delete seen =>
      let (server, found) := deleteTimer timerId shared.server
      (shared.onServer server
        (if found then some (.deleted timerId seen (shared.serials timerId)) else none),
        .unschedule seen)
  | .unschedule seen =>
      (shared.onServer (unscheduleTimer timerId shared.server)
        (if (shared.server.jobs.find? (.timer timerId)).isSome then
          some (.unscheduled timerId seen (shared.jobSerials timerId)) else none),
        .done)
  | .done => (shared, .done)

def actRemove (timerId : Int) (shared : Shared) : RemoveStage → Shared × RemoveStage
  | .read =>
      (shared,
        match getTimer timerId shared.server.database with
        | none => .done false
        | some timer => if timer.kind ≠ .countdown then .done false else .unschedule)
  | .unschedule => (shared.onServer (unscheduleTimer timerId shared.server) none, .delete)
  | .delete =>
      let (server, found) := deleteTimer timerId shared.server
      (shared.onServer server
        (if found then some (.removed timerId (shared.serials timerId)) else none),
        .done found)
  | .done result => (shared, .done result)

def actCreate (durationSeconds : Int) (label : Text) (startedAt : Option Datetime)
    (shared : Shared) : CreateStage → Shared × CreateStage
  | .insert =>
      match insertCountdownTimer durationSeconds label startedAt shared.server with
      | (server, .error _) => (shared.onServer server none, .done)
      | (server, .ok (timer, dueAt)) =>
          (shared.insert server timer.id,
            .schedule timer.id dueAt (shared.serials timer.id + 1))
  | .schedule timerId dueAt serial =>
      (shared.schedule
        (scheduleCountdownTimer durationSeconds label timerId dueAt shared.server)
        timerId serial, .done)
  | .done => (shared, .done)

def act : Call → Shared → Shared × Call
  | .complete timerId stage, shared =>
      (actComplete timerId shared stage).map id (.complete timerId)
  | .remove timerId stage, shared => (actRemove timerId shared stage).map id (.remove timerId)
  | .create durationSeconds label startedAt stage, shared =>
      (actCreate durationSeconds label startedAt shared stage).map id
        (.create durationSeconds label startedAt)

inductive Operation where
  | completeTimer (timerId : Int)
  | removeCountdownTimer (timerId : Int)
  | createCountdownTimer (durationSeconds : Int) (label : Text) (startedAt : Option Datetime)
  deriving DecidableEq, Repr

def Operation.call : Operation → Call
  | .completeTimer timerId => .complete timerId .read
  | .removeCountdownTimer timerId => .remove timerId .read
  | .createCountdownTimer durationSeconds label startedAt =>
      .create durationSeconds label startedAt .insert

def start (server : Server) (operations : List Operation) : System Shared Call :=
  ⟨⟨server, fun _ => 0, fun _ => 0, []⟩, operations.map Operation.call⟩

section Alone

variable (server : Server) (timerId : Int)

/-- The server after the steps of one operation that runs alone. -/
def alone (operation : Operation) (steps : Nat) : Server :=
  (run (System.advance act) (start server [operation]) (List.replicate steps 0)).shared.server

theorem advance_singleton (shared : Shared) (call : Call) :
    System.advance act ⟨shared, [call]⟩ 0 = ⟨(act call shared).1, [(act call shared).2]⟩ := rfl

theorem alone_completeTimer :
    alone server (.completeTimer timerId) 4 = completeTimer timerId server := by
  simp only [alone, run, start, List.replicate, List.foldl_cons, List.foldl_nil, List.map_cons,
    List.map_nil, Operation.call, advance_singleton, act]
  cases hfound : getTimer timerId server.database with
  | none =>
      simp only [completeTimer, hfound, actComplete, Prod.map, id]
      rfl
  | some timer =>
      cases hkind : timer.kind with
      | stopwatch =>
          simp only [completeTimer, hfound, hkind, actComplete, Prod.map, id]
          rfl
      | countdown =>
          cases hdue : timer.dueAt with
          | none =>
              simp only [completeTimer, hfound, hkind, hdue, actComplete, Prod.map, id]
              rfl
          | some dueAt =>
              by_cases hearly : server.clock.now < dueAt
              · simp only [completeTimer, hfound, hkind, hdue, actComplete, Prod.map, id,
                  if_pos hearly]
                rfl
              · simp only [completeTimer, hfound, hkind, hdue, actComplete, Prod.map, id,
                  if_neg hearly]
                rfl

theorem alone_removeCountdownTimer :
    alone server (.removeCountdownTimer timerId) 3 = (removeCountdownTimer timerId server).1 := by
  simp only [alone, run, start, List.replicate, List.foldl_cons, List.foldl_nil, List.map_cons,
    List.map_nil, Operation.call, advance_singleton, act]
  cases hfound : getTimer timerId server.database with
  | none =>
      simp only [removeCountdownTimer, removeOfKind, hfound, actRemove, Prod.map, id]
  | some timer =>
      by_cases hkind : timer.kind ≠ .countdown
      · simp only [removeCountdownTimer, removeOfKind, hfound, actRemove, Prod.map, id,
          if_pos hkind]
      · simp only [removeCountdownTimer, removeOfKind, hfound, actRemove, Prod.map, id,
          if_neg hkind]
        rfl

theorem alone_createCountdownTimer (durationSeconds : Int) (label : Text)
    (startedAt : Option Datetime) :
    alone server (.createCountdownTimer durationSeconds label startedAt) 2 =
      (createCountdownTimer durationSeconds label startedAt server).1 := by
  simp only [alone, run, start, List.replicate, List.foldl_cons, List.foldl_nil, List.map_cons,
    List.map_nil, Operation.call, advance_singleton, act]
  rcases hinsert : insertCountdownTimer durationSeconds label startedAt server with
    ⟨inserted, e | ⟨timer, dueAt⟩⟩
  · simp only [createCountdownTimer, hinsert, actCreate, Prod.map, id]
    rfl
  · simp only [createCountdownTimer, hinsert, actCreate, Prod.map, id]
    rfl

end Alone

/-- A timer is logged once at most and not after its removal, and a call for a
timer leaves the row and the job of every later timer of that id alone. -/
structure Safe (outcomes : List Outcome) : Prop where
  once : ∀ timerId serial, outcomes.count (.logged timerId serial) ≤ 1
  notRemoved : ∀ timerId serial earlier, (.logged timerId serial :: earlier) <:+ outcomes →
    .removed timerId serial ∉ earlier
  deleted : ∀ timerId seen found, .deleted timerId seen found ∈ outcomes → found ≤ seen
  unscheduled : ∀ timerId seen found, .unscheduled timerId seen found ∈ outcomes → found ≤ seen

def Call.deletesNext (timerId : Int) : Call → Bool
  | .complete timerId' (.delete _) => timerId' = timerId
  | _ => false

def Call.unschedulesNext (timerId : Int) (serial : Nat) : Call → Bool
  | .complete timerId' (.unschedule seen) => timerId' = timerId && decide (seen < serial)
  | _ => false

/-- The condition on the next step of a call. -/
def Careful (system : System Shared Call) (i : Nat) : Prop :=
  match system.calls[i]? with
  | some (.complete timerId (.act _ dueAt seen)) =>
      if system.shared.server.clock.now < dueAt then
        -- a job is scheduled only while no call for an earlier timer unschedules next
        ∀ call ∈ system.calls, call.unschedulesNext timerId seen = false
      else
        -- a completion is logged only if the row is still stored, and no other call
        -- has logged it
        system.shared.serials timerId = seen ∧
          (getTimer timerId system.shared.server.database).isSome ∧
          ∀ call ∈ system.calls, call.deletesNext timerId = false
  | some (.create _ _ _ .insert) =>
      -- a new timer gets an id only while no call deletes the row of that id next
      ∀ call ∈ system.calls, call.deletesNext
        (nextRowid (system.shared.server.database.timers.rows.map Timer.id)) = false
  | some (.create _ _ _ (.schedule timerId _ serial)) =>
      ∀ call ∈ system.calls, call.unschedulesNext timerId serial = false
  | _ => True

def Fits (shared : Shared) : Call → Prop
  | .complete timerId (.act _ _ seen) => seen ≤ shared.serials timerId
  | .complete timerId (.delete seen) => seen = shared.serials timerId
  | .complete timerId (.unschedule seen) => shared.jobSerials timerId ≤ seen
  | .create _ _ _ (.schedule timerId _ serial) => serial ≤ shared.serials timerId
  | _ => True

def Absent (shared : Shared) (timerId : Int) : Prop :=
  getTimer timerId shared.server.database = none

/-- The outcomes fit the rows and the calls: a timer that was logged is gone or a
call deletes it next, and one that was removed is gone. -/
structure Inv (system : System Shared Call) : Prop where
  safe : Safe system.shared.outcomes
  jobs : ∀ timerId, system.shared.jobSerials timerId ≤ system.shared.serials timerId
  logged : ∀ timerId serial, .logged timerId serial ∈ system.shared.outcomes →
    serial < system.shared.serials timerId ∨ serial = system.shared.serials timerId ∧
      (Absent system.shared timerId ∨ ∃ call ∈ system.calls, call.deletesNext timerId = true)
  removed : ∀ timerId serial, .removed timerId serial ∈ system.shared.outcomes →
    serial < system.shared.serials timerId ∨ serial = system.shared.serials timerId ∧
      Absent system.shared timerId
  calls : ∀ call ∈ system.calls, Fits system.shared call

def Allowed (shared shared' : Shared) (new : Call) : Outcome → Prop
  | .logged timerId serial => .logged timerId serial ∉ shared.outcomes ∧
      .removed timerId serial ∉ shared.outcomes ∧ serial = shared'.serials timerId ∧
      new.deletesNext timerId = true
  | .removed timerId serial => serial = shared'.serials timerId ∧ Absent shared' timerId
  | .deleted _ seen found => found ≤ seen
  | .unscheduled _ seen found => found ≤ seen

structure Moves (calls : List Call) (shared : Shared) (old : Call) (shared' : Shared)
    (new : Call) (outcome : Option Outcome) : Prop where
  outcomes : shared'.outcomes = outcome.toList ++ shared.outcomes
  allowed : ∀ o ∈ outcome, Allowed shared shared' new o
  serials : ∀ timerId, shared.serials timerId ≤ shared'.serials timerId
  absent : ∀ timerId, shared'.serials timerId = shared.serials timerId →
    Absent shared timerId → Absent shared' timerId
  deletes : ∀ timerId, old.deletesNext timerId = true → Absent shared' timerId
  jobs : ∀ timerId, shared'.jobSerials timerId ≤ shared'.serials timerId
  fits : Fits shared' new
  others : ∀ call ∈ calls, Fits shared call → Fits shared' call

theorem safe_nil : Safe [] where
  once _ _ := Nat.zero_le _
  notRemoved timerId serial earlier hsuffix := by
    rw [List.suffix_nil] at hsuffix
    cases hsuffix
  deleted _ _ _ h := absurd h List.not_mem_nil
  unscheduled _ _ _ h := absurd h List.not_mem_nil

theorem safe_cons {outcomes : List Outcome} {o : Outcome} (h : Safe outcomes)
    (hlogged : ∀ timerId serial, o = .logged timerId serial →
      .logged timerId serial ∉ outcomes ∧ .removed timerId serial ∉ outcomes)
    (hdeleted : ∀ timerId seen found, o = .deleted timerId seen found → found ≤ seen)
    (hunscheduled : ∀ timerId seen found, o = .unscheduled timerId seen found → found ≤ seen) :
    Safe (o :: outcomes) where
  once timerId serial := by
    by_cases ho : o = .logged timerId serial
    · rw [ho, List.count_cons_self, List.count_eq_zero.mpr (hlogged timerId serial ho).1]
    · rw [List.count_cons_of_ne ho]
      exact h.once timerId serial
  notRemoved timerId serial earlier hsuffix := by
    rcases List.suffix_cons_iff.mp hsuffix with heq | hsuffix
    · injection heq with ho hearlier
      rw [hearlier]
      exact (hlogged timerId serial ho.symm).2
    · exact h.notRemoved timerId serial earlier hsuffix
  deleted timerId seen found hmem := by
    rcases List.mem_cons.mp hmem with ho | hmem
    · exact hdeleted timerId seen found ho.symm
    · exact h.deleted timerId seen found hmem
  unscheduled timerId seen found hmem := by
    rcases List.mem_cons.mp hmem with ho | hmem
    · exact hunscheduled timerId seen found ho.symm
    · exact h.unscheduled timerId seen found hmem

namespace Moves

variable {system : System Shared Call} {i : Nat} {old new : Call} {shared' : Shared}
variable {outcome : Option Outcome}

theorem safe (h : Moves system.calls system.shared old shared' new outcome)
    (hsafe : Safe system.shared.outcomes) : Safe shared'.outcomes := by
  rw [h.outcomes]
  cases outcome with
  | none => exact hsafe
  | some o =>
      have hallowed := h.allowed o rfl
      apply safe_cons hsafe
      · rintro timerId serial rfl
        exact ⟨hallowed.1, hallowed.2.1⟩
      · rintro timerId seen found rfl
        exact hallowed
      · rintro timerId seen found rfl
        exact hallowed

theorem mem_outcomes (h : Moves system.calls system.shared old shared' new outcome)
    {o : Outcome} (ho : o ∈ shared'.outcomes) :
    o ∈ system.shared.outcomes ∨ Allowed system.shared shared' new o := by
  rw [h.outcomes, List.mem_append, Option.mem_toList] at ho
  exact ho.symm.imp_right (h.allowed o)

theorem inv (h : Moves system.calls system.shared old shared' new outcome)
    (hcall : system.calls[i]? = some old) (hinv : Inv system) :
    Inv ⟨shared', system.calls.set i new⟩ where
  safe := h.safe hinv.safe
  jobs := h.jobs
  logged timerId serial hmem := by
    rcases h.mem_outcomes hmem with hold | ⟨-, -, hserial, hdeletes⟩
    · rcases hinv.logged timerId serial hold with hlt | ⟨hserial, hgone⟩
      · exact Or.inl (Nat.lt_of_lt_of_le hlt (h.serials timerId))
      · rcases Nat.lt_or_eq_of_le (h.serials timerId) with hlt | heq
        · exact Or.inl (hserial ▸ hlt)
        · refine Or.inr ⟨hserial.trans heq, ?_⟩
          rcases hgone with habsent | ⟨call, hmem, hdeletes⟩
          · exact Or.inl (h.absent timerId heq.symm habsent)
          · by_cases hold : call = old
            · exact Or.inl (h.deletes timerId (hold ▸ hdeletes))
            · exact Or.inr ⟨call, System.mem_set_of_ne hcall hmem hold, hdeletes⟩
    · have hnew : new ∈ system.calls.set i new :=
        List.mem_set (List.getElem?_eq_some_iff.mp hcall).1 new
      exact Or.inr ⟨hserial, Or.inr ⟨new, hnew, hdeletes⟩⟩
  removed timerId serial hmem := by
    rcases h.mem_outcomes hmem with hold | hnew
    · rcases hinv.removed timerId serial hold with hlt | ⟨hserial, habsent⟩
      · exact Or.inl (Nat.lt_of_lt_of_le hlt (h.serials timerId))
      · rcases Nat.lt_or_eq_of_le (h.serials timerId) with hlt | heq
        · exact Or.inl (hserial ▸ hlt)
        · exact Or.inr ⟨hserial.trans heq, h.absent timerId heq.symm habsent⟩
    · exact Or.inr hnew
  calls := System.forall_mem_set hinv.calls h.fits h.others

end Moves

section Steps

variable {calls : List Call} {shared : Shared} {system : System Shared Call} {i : Nat}
variable {old new call : Call} {server' : Server} {outcome : Option Outcome}
variable {timerId : Int} {serial : Nat}

theorem getTimer_deleteTimer (timerId timerId' : Int) (server : Server) :
    getTimer timerId' (deleteTimer timerId server).1.database =
      if timerId' = timerId then none else getTimer timerId' server.database := by
  refine Option.ext fun timer => ?_
  rw [getTimer, Table.find?_eq_some_iff, mem_deleteTimer]
  split
  · rename_i hid
    subst hid
    simp
  · rename_i hid
    rw [getTimer, Table.find?_eq_some_iff]
    constructor
    · rintro ⟨⟨hmem, -⟩, hkey⟩
      exact ⟨hmem, hkey⟩
    · rintro ⟨hmem, rfl⟩
      exact ⟨⟨hmem, hid⟩, rfl⟩

theorem fits_onServer : Fits (shared.onServer server' outcome) call ↔ Fits shared call := by
  cases call with
  | complete timerId stage => cases stage <;> exact Iff.rfl
  | remove timerId stage => exact Iff.rfl
  | create durationSeconds label startedAt stage => cases stage <;> exact Iff.rfl

theorem Moves.of_onServer (hjobs : ∀ timerId, shared.jobSerials timerId ≤ shared.serials timerId)
    (hallowed : ∀ o ∈ outcome, Allowed shared (shared.onServer server' outcome) new o)
    (habsent : ∀ timerId, Absent shared timerId →
      Absent (shared.onServer server' outcome) timerId)
    (hdeletes : ∀ timerId, old.deletesNext timerId = true →
      Absent (shared.onServer server' outcome) timerId)
    (hfits : Fits shared new) :
    Moves calls shared old (shared.onServer server' outcome) new outcome where
  outcomes := rfl
  allowed := hallowed
  serials _ := Nat.le_refl _
  absent timerId _ h := habsent timerId h
  deletes := hdeletes
  jobs := hjobs
  fits := fits_onServer.mpr hfits
  others _ _ h := fits_onServer.mpr h

theorem Moves.stay (hjobs : ∀ timerId, shared.jobSerials timerId ≤ shared.serials timerId)
    (hdeletes : ∀ timerId, old.deletesNext timerId = false) (hfits : Fits shared new) :
    Moves calls shared old shared new none := by
  have hmoves : Moves calls shared old (shared.onServer shared.server none) new none := by
    refine Moves.of_onServer hjobs nofun (fun _ h => h) (fun timerId h => ?_) hfits
    rw [hdeletes] at h
    cases h
  exact hmoves

theorem Moves.of_schedule (hjobs : ∀ timerId, shared.jobSerials timerId ≤ shared.serials timerId)
    (hdatabase : server'.database = shared.server.database)
    (hserial : serial ≤ shared.serials timerId)
    (hcareful : ∀ call ∈ calls, call.unschedulesNext timerId serial = false)
    (hdeletes : ∀ timerId, old.deletesNext timerId = false)
    (hfits : ∀ shared', Fits shared' new) :
    Moves calls shared old (shared.schedule server' timerId serial) new none := by
  have hself : (shared.schedule server' timerId serial).jobSerials timerId = serial :=
    Function.update_self ..
  have hother : ∀ timerId', timerId' ≠ timerId →
      (shared.schedule server' timerId serial).jobSerials timerId' =
        shared.jobSerials timerId' :=
    fun timerId' hne => Function.update_of_ne hne ..
  refine ⟨rfl, nofun, fun _ => Nat.le_refl _, ?_, ?_, ?_, hfits _, ?_⟩
  · intro timerId' _ h
    rw [Absent, Shared.schedule, hdatabase]
    exact h
  · intro timerId' h
    rw [hdeletes] at h
    cases h
  · intro timerId'
    by_cases hid : timerId' = timerId
    · rw [hid, hself]
      exact hserial
    · rw [hother timerId' hid]
      exact hjobs timerId'
  · intro call hmem h
    cases call with
    | complete timerId' stage =>
        cases stage with
        | unschedule seen =>
            by_cases hid : timerId' = timerId
            · subst hid
              have hnext := hcareful _ hmem
              rw [Call.unschedulesNext, decide_eq_true rfl, Bool.true_and, decide_eq_false_iff_not,
                Nat.not_lt] at hnext
              rw [Fits, hself]
              exact hnext
            · rw [Fits, hother timerId' hid]
              exact h
        | read => exact h
        | act timer dueAt seen => exact h
        | delete seen => exact h
        | done => exact h
    | remove timerId' stage => exact h
    | create durationSeconds label startedAt stage => cases stage <;> exact h

theorem Moves.of_insert {timer : Timer}
    (hjobs : ∀ timerId, shared.jobSerials timerId ≤ shared.serials timerId)
    (hinserts : Inserts shared.server timer server')
    (hcareful : ∀ call ∈ calls, call.deletesNext timer.id = false)
    (hdeletes : ∀ timerId, old.deletesNext timerId = false)
    (hfits : Fits (shared.insert server' timer.id) new) :
    Moves calls shared old (shared.insert server' timer.id) new none := by
  have hself : (shared.insert server' timer.id).serials timer.id =
      shared.serials timer.id + 1 := Function.update_self ..
  have hother : ∀ timerId, timerId ≠ timer.id →
      (shared.insert server' timer.id).serials timerId = shared.serials timerId :=
    fun timerId hne => Function.update_of_ne hne ..
  have hle : ∀ timerId,
      shared.serials timerId ≤ (shared.insert server' timer.id).serials timerId := by
    intro timerId
    by_cases hid : timerId = timer.id
    · rw [hid, hself]
      exact Nat.le_succ _
    · rw [hother timerId hid]
  refine ⟨rfl, nofun, hle, ?_, ?_, fun timerId => (hjobs timerId).trans (hle timerId), hfits, ?_⟩
  · intro timerId hsame habsent
    have hne : timerId ≠ timer.id := by
      rintro rfl
      rw [hself] at hsame
      exact Nat.succ_ne_self _ hsame
    apply Table.find?_eq_none_iff.mpr
    intro row hrow
    rcases (hinserts.rows row).mp hrow with rfl | hbefore
    · exact hne.symm
    · exact Table.find?_eq_none_iff.mp habsent row hbefore
  · intro timerId h
    rw [hdeletes] at h
    cases h
  · intro call hmem h
    cases call with
    | complete timerId stage =>
        cases stage with
        | act row dueAt seen => exact Nat.le_trans h (hle timerId)
        | delete seen =>
            have hne : timerId ≠ timer.id := by
              rintro rfl
              have hnext := hcareful _ hmem
              rw [Call.deletesNext, decide_eq_true rfl] at hnext
              cases hnext
            exact Eq.trans h (hother timerId hne).symm
        | read => exact h
        | unschedule seen => exact h
        | done => exact h
    | remove timerId stage => exact h
    | create durationSeconds label startedAt stage =>
        cases stage with
        | schedule timerId dueAt serial => exact Nat.le_trans h (hle timerId)
        | insert => exact h
        | done => exact h

theorem Moves.of_delete {onFound : Outcome}
    (hjobs : ∀ timerId, shared.jobSerials timerId ≤ shared.serials timerId)
    (hallowed : ∀ shared', shared'.serials = shared.serials → Absent shared' timerId →
      Allowed shared shared' new onFound)
    (hdeletes : ∀ timerId', old.deletesNext timerId' = true → timerId' = timerId)
    (hfits : Fits shared new) :
    Moves calls shared old
      (shared.onServer (deleteTimer timerId shared.server).1
        (if (deleteTimer timerId shared.server).2 then some onFound else none))
      new (if (deleteTimer timerId shared.server).2 then some onFound else none) := by
  have habsent : ∀ timerId' outcome, (timerId' = timerId ∨ Absent shared timerId') →
      Absent (shared.onServer (deleteTimer timerId shared.server).1 outcome) timerId' := by
    intro timerId' outcome h
    rw [Absent, Shared.onServer, getTimer_deleteTimer]
    split
    · rfl
    · rename_i hne
      exact h.resolve_left hne
  apply Moves.of_onServer hjobs
  · intro o ho
    split at ho
    · cases ho
      exact hallowed _ rfl (habsent timerId _ (Or.inl rfl))
    · cases ho
  · exact fun timerId' h => habsent timerId' _ (Or.inr h)
  · exact fun timerId' h => habsent timerId' _ (Or.inl (hdeletes timerId' h))
  · exact hfits

/-- A timer that is stored and that no call deletes next was neither logged nor removed. -/
theorem not_mem_of_stored {seen : Nat} (hinv : Inv system)
    (hseen : system.shared.serials timerId = seen) (hpresent : ¬ Absent system.shared timerId)
    (hothers : ∀ call ∈ system.calls, call.deletesNext timerId = false) :
    .logged timerId seen ∉ system.shared.outcomes ∧
      .removed timerId seen ∉ system.shared.outcomes := by
  constructor
  · intro hlogged
    rcases hinv.logged timerId seen hlogged with hlt | ⟨-, habsent | ⟨call, hmem, hnext⟩⟩
    · exact Nat.lt_irrefl _ (hseen ▸ hlt)
    · exact hpresent habsent
    · rw [hothers call hmem] at hnext
      cases hnext
  · intro hremoved
    rcases hinv.removed timerId seen hremoved with hlt | ⟨-, habsent⟩
    · exact Nat.lt_irrefl _ (hseen ▸ hlt)
    · exact hpresent habsent

theorem moves_actComplete {stage : CompleteStage} (hinv : Inv system)
    (hcall : system.calls[i]? = some (.complete timerId stage)) (hcareful : Careful system i) :
    ∃ outcome, Moves system.calls system.shared (.complete timerId stage)
      (actComplete timerId system.shared stage).1
      (.complete timerId (actComplete timerId system.shared stage).2) outcome := by
  have hfits : Fits system.shared (.complete timerId stage) :=
    hinv.calls _ (List.mem_of_getElem? hcall)
  rw [Careful, hcall] at hcareful
  cases stage with
  | read =>
      refine ⟨none, Moves.stay hinv.jobs (fun _ => rfl) ?_⟩
      simp only [actComplete]
      split
      · exact hinv.jobs timerId
      · split
        · exact Nat.le_refl _
        · exact hinv.jobs timerId
  | act timer dueAt seen =>
      by_cases hearly : system.shared.server.clock.now < dueAt
      · simp only [actComplete, if_pos hearly] at hcareful ⊢
        exact ⟨none, Moves.of_schedule hinv.jobs (onlySchedules_scheduleJob _ _ _).database hfits
          hcareful (fun _ => rfl) fun _ => trivial⟩
      · simp only [actComplete, if_neg hearly] at hcareful ⊢
        obtain ⟨hseen, hstored, hothers⟩ := hcareful
        have hpresent : ¬ Absent system.shared timerId := by
          intro habsent
          rw [habsent] at hstored
          cases hstored
        refine ⟨some (.logged timerId seen),
          Moves.of_onServer hinv.jobs ?_ (fun _ h => h) ?_ hseen.symm⟩
        · intro o ho
          cases ho
          obtain ⟨hlogged, hremoved⟩ := not_mem_of_stored hinv hseen hpresent hothers
          exact ⟨hlogged, hremoved, hseen.symm, decide_eq_true rfl⟩
        · intro timerId' h
          cases h
  | delete seen =>
      refine ⟨_, Moves.of_delete hinv.jobs ?_ ?_ ?_⟩
      · intro shared' _ _
        exact (Eq.ge hfits)
      · intro timerId' h
        exact (of_decide_eq_true h).symm
      · exact (hinv.jobs timerId).trans_eq (Eq.symm hfits)
  | unschedule seen =>
      refine ⟨_, Moves.of_onServer hinv.jobs ?_ (fun _ h => h) (fun _ h => nomatch h) trivial⟩
      intro o ho
      split at ho
      · cases ho
        exact hfits
      · cases ho
  | done => exact ⟨none, Moves.stay hinv.jobs (fun _ => rfl) trivial⟩

theorem moves_actRemove (timerId : Int) (stage : RemoveStage) (hinv : Inv system) :
    ∃ outcome, Moves system.calls system.shared (.remove timerId stage)
      (actRemove timerId system.shared stage).1
      (.remove timerId (actRemove timerId system.shared stage).2) outcome := by
  cases stage with
  | read => exact ⟨none, Moves.stay hinv.jobs (fun _ => rfl) trivial⟩
  | unschedule =>
      exact ⟨none, Moves.of_onServer hinv.jobs nofun (fun _ h => h) (fun _ h => nomatch h) trivial⟩
  | delete =>
      refine ⟨_, Moves.of_delete hinv.jobs ?_ (fun _ h => nomatch h) trivial⟩
      intro shared' hserials habsent
      exact ⟨by rw [hserials], habsent⟩
  | done result => exact ⟨none, Moves.stay hinv.jobs (fun _ => rfl) trivial⟩

theorem moves_actCreate {durationSeconds : Int} {label : Text} {startedAt : Option Datetime}
    {stage : CreateStage} (hinv : Inv system)
    (hcall : system.calls[i]? = some (.create durationSeconds label startedAt stage))
    (hcareful : Careful system i) :
    ∃ outcome, Moves system.calls system.shared (.create durationSeconds label startedAt stage)
      (actCreate durationSeconds label startedAt system.shared stage).1
      (.create durationSeconds label startedAt
        (actCreate durationSeconds label startedAt system.shared stage).2) outcome := by
  have hfits : Fits system.shared (.create durationSeconds label startedAt stage) :=
    hinv.calls _ (List.mem_of_getElem? hcall)
  rw [Careful, hcall] at hcareful
  cases stage with
  | insert =>
      rcases hinsert : insertCountdownTimer durationSeconds label startedAt
          system.shared.server with ⟨inserted, e | ⟨timer, dueAt⟩⟩
      · simp only [actCreate, hinsert]
        have htimers := (onlyReads_of_insertCountdownTimer hinsert).timers
        refine ⟨none, Moves.of_onServer hinv.jobs nofun (fun timerId h => ?_)
          (fun _ h => nomatch h) trivial⟩
        rw [Absent, getTimer, Shared.onServer, htimers]
        exact h
      · simp only [actCreate, hinsert]
        have hinserts := (inserts_of_insertCountdownTimer hinsert).1
        refine ⟨none, Moves.of_insert hinv.jobs hinserts ?_ (fun _ => rfl) ?_⟩
        · rw [hinserts.nextId]
          exact hcareful
        · exact Eq.ge (Function.update_self ..)
  | schedule timerId dueAt serial =>
      exact ⟨none, Moves.of_schedule hinv.jobs (onlySchedules_scheduleJob _ _ _).database hfits
        hcareful (fun _ => rfl) fun _ => trivial⟩
  | done => exact ⟨none, Moves.stay hinv.jobs (fun _ => rfl) trivial⟩

/-- A careful step keeps the invariant. -/
theorem inv_advance (hinv : Inv system) (hcareful : Careful system i) :
    Inv (System.advance act system i) := by
  cases hcall : system.calls[i]? with
  | none => rwa [System.advance_of_none hcall]
  | some call =>
      rw [System.advance_of_some hcall]
      cases call with
      | complete timerId stage =>
          obtain ⟨outcome, h⟩ := moves_actComplete hinv hcall hcareful
          exact h.inv hcall hinv
      | remove timerId stage =>
          obtain ⟨outcome, h⟩ := moves_actRemove timerId stage hinv
          exact h.inv hcall hinv
      | create durationSeconds label startedAt stage =>
          obtain ⟨outcome, h⟩ := moves_actCreate hinv hcall hcareful
          exact h.inv hcall hinv

theorem inv_start (server : Server) (operations : List Operation) :
    Inv (start server operations) where
  safe := safe_nil
  jobs _ := Nat.le_refl _
  logged _ _ h := absurd h List.not_mem_nil
  removed _ _ h := absurd h List.not_mem_nil
  calls call hmem := by
    obtain ⟨operation, -, rfl⟩ := List.mem_map.mp hmem
    cases operation <;> trivial

end Steps

theorem safe_of_careful (server : Server) (operations : List Operation) (schedule : List Nat)
    (hcareful : ∀ k i, schedule[k]? = some i →
      Careful (stateAt (System.advance act) (start server operations) schedule k) i) (k : Nat) :
    Safe (stateAt (System.advance act) (start server operations) schedule k).shared.outcomes :=
  (invariant_of_guarded (C := Careful) (inv_start server operations)
    (fun _ _ hinv hcareful => inv_advance hinv hcareful) hcareful k).safe

def dueServer : Server :=
  registerJobs (.stopped minValidTimerStart)
    { Database.empty with
      timers := Table.empty.put
        { id := 1, kind := .countdown, label := "Tea".toList, dueAt := some minValidTimerStart
          durationSeconds := some 60, createdAt := minValidTimerStart - 60 * second } }

def completeThenCreate : List Operation :=
  [.completeTimer 1, .createCountdownTimer 60 "Eggs".toList none]

theorem safe_of_careful_completeThenCreate :
    Safe (stateAt (System.advance act) (start dueServer completeThenCreate)
      [0, 0, 0, 0, 1, 1] 6).shared.outcomes := by
  apply safe_of_careful
  intro k i hi
  rcases k with _ | _ | _ | _ | _ | _ | k <;> cases hi
  · trivial
  · exact ⟨rfl, by decide +kernel, by decide +kernel⟩
  · trivial
  · trivial
  · exact (by decide +kernel : ∀ call ∈ (stateAt (System.advance act)
      (start dueServer completeThenCreate) [0, 0, 0, 0, 1, 1] 4).calls,
        call.deletesNext 1 = false)
  · exact (by decide +kernel : ∀ call ∈ (stateAt (System.advance act)
      (start dueServer completeThenCreate) [0, 0, 0, 0, 1, 1] 5).calls,
        call.unschedulesNext 1 1 = false)

/-- The job and the poll read the row before either deletes it. -/
theorem not_safe_of_two_completions :
    ¬ ∀ (server : Server) (operations : List Operation) (schedule : List Nat) (k : Nat),
      Safe (stateAt (System.advance act) (start server operations) schedule k).shared.outcomes := by
  intro h
  have honce := (h dueServer [.completeTimer 1, .completeTimer 1] [0, 1, 0, 1] 4).once 1 0
  revert honce
  decide +kernel

/-- A call for a removed timer logs it, and deletes and unschedules the timer that
received its id. -/
example : (stateAt (System.advance act)
    (start dueServer (.removeCountdownTimer 1 :: completeThenCreate))
    [1, 0, 0, 0, 1, 2, 2, 1, 1] 9).shared.outcomes =
      [.unscheduled 1 0 1, .deleted 1 0 1, .logged 1 0, .removed 1 0] := by
  decide +kernel

end NanoCore.Timers.Interleavings
