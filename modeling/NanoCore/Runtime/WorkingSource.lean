import NanoCore.Foundation.Runs
import NanoCore.Runtime.Activity

namespace NanoCore.Runtime.WorkingSource

open NanoCore.Config
open NanoCore.Foundation.PythonText
open NanoCore.Foundation.Runs
open NanoCore.Runtime.Activity

inductive Operation where
  | call (call : HubCall)
  | reset
  deriving DecidableEq, Repr

/-- The hub; `lastWorking` is for the statements and no step reads it. -/
structure Traced where
  hub : ActivityHub
  /-- The source of the last call of `working`. -/
  lastWorking : Option Text
  deriving DecidableEq, Repr

namespace Operation

def workSource : Operation → Option Text
  | .call (.working _ _ source) => some source
  | _ => none

/-- The operations that record a log event or an announcement at most. -/
def onlyLogs : Operation → Bool
  | .call (.log _ _ _) => true
  | .call (.announceVoice _) => true
  | .call (.startTaskTimer _ _) => true
  | _ => false

/-- The source of the log event that the operation records. -/
def loggedSource (u : PyData) (mode : VoicePlaybackMode) (hub : ActivityHub) :
    Operation → Option Text
  | .call (.log _ _ source) => some source
  | .call (.startTaskTimer _ _) => some "runtime.task_timer".toList
  | .call (.announceVoice message) =>
      if spokenText message = [] ∨ mode = .local ∨
          some (normalizeVoiceAnnouncement u (spokenText message)) = hub.lastVoiceAnnouncement then
        none
      else some voiceAnnounceSource
  | _ => none

end Operation

section Runs

variable (u : PyData) (mode : VoicePlaybackMode)

def step (traced : Traced) (operation : Operation) : Traced where
  hub :=
    match operation with
    | .call call => (traced.hub.call u mode call).1
    | .reset => traced.hub.reset.1
  lastWorking := operation.workSource <|> traced.lastWorking

def start (maxEvents : Nat) : Traced := ⟨(ActivityHub.initial maxEvents).1, none⟩

/-- The hub names the source of the last call of `working` while it works, and
no source otherwise. -/
def Attributed (traced : Traced) : Prop :=
  traced.hub.workingSource = if traced.hub.state = .working then traced.lastWorking else none

structure Tracks (maxEvents : Nat) (operations : List Operation) : Prop where
  attributed : ∀ k, Attributed (stateAt (step u mode) (start maxEvents) operations k)
  unchanged : ∀ k operation, operations[k]? = some operation → operation.onlyLogs = true →
    (stateAt (step u mode) (start maxEvents) operations (k + 1)).hub.state =
        (stateAt (step u mode) (start maxEvents) operations k).hub.state ∧
      (stateAt (step u mode) (start maxEvents) operations (k + 1)).hub.workingSource =
        (stateAt (step u mode) (start maxEvents) operations k).hub.workingSource

/-- What is logged in the middle of work is logged by the one who works. -/
def Careful (traced : Traced) (operation : Operation) : Prop :=
  traced.hub.state = .working →
    ∀ source ∈ operation.loggedSource u mode traced.hub, traced.lastWorking = some source

variable {u : PyData} {mode : VoicePlaybackMode} {traced : Traced} {operation : Operation}

theorem workSource_of_onlyLogs (h : operation.onlyLogs = true) : operation.workSource = none := by
  cases operation with
  | call call =>
      cases call with
      | working title detail source => cases h
      | _ => rfl
  | reset => rfl

/-- A log event keeps the state, but puts its own source in the place of the
source of the work. -/
theorem step_of_onlyLogs (u : PyData) (mode : VoicePlaybackMode) (traced : Traced)
    (h : operation.onlyLogs = true) :
    (step u mode traced operation).hub.state = traced.hub.state ∧
      (step u mode traced operation).hub.workingSource =
        match operation.loggedSource u mode traced.hub with
        | none => traced.hub.workingSource
        | some source => if traced.hub.state = .working then some source else none := by
  rcases operation with call | _
  · cases call with
    | announceVoice message =>
        simp only [step, ActivityHub.call, ActivityHub.announceVoice, Operation.loggedSource]
        by_cases hspoken : spokenText message = []
        · simp only [hspoken, true_or, if_true, and_self]
        · by_cases hsame : some (normalizeVoiceAnnouncement u (spokenText message)) =
              traced.hub.lastVoiceAnnouncement
          · simp only [hsame, or_true, if_true, ite_self, and_self]
          · simp only [hspoken, hsame, false_or, or_false, if_false]
            cases mode <;> exact ⟨rfl, rfl⟩
    | log title detail source => exact ⟨rfl, rfl⟩
    | startTaskTimer label expectedSeconds => exact ⟨rfl, rfl⟩
    | _ => cases h
  · cases h

theorem attributed_step_of_onlyLogs (hlogs : operation.onlyLogs = true)
    (hattributed : Attributed traced) :
    Attributed (step u mode traced operation) ↔ Careful u mode traced operation := by
  obtain ⟨hstate, hsource⟩ := step_of_onlyLogs u mode traced hlogs
  have hlast : (step u mode traced operation).lastWorking = traced.lastWorking := by
    change (operation.workSource <|> traced.lastWorking) = _
    rw [workSource_of_onlyLogs hlogs]
    rfl
  rw [Attributed, hstate, hlast, hsource, Careful]
  cases operation.loggedSource u mode traced.hub with
  | none => exact iff_of_true hattributed (by simp)
  | some source =>
      by_cases hworking : traced.hub.state = .working
      · simp [hworking, eq_comm]
      · simp [hworking]

theorem attributed_step_iff (hattributed : Attributed traced) :
    Attributed (step u mode traced operation) ↔ Careful u mode traced operation := by
  cases hlogs : operation.onlyLogs with
  | true => exact attributed_step_of_onlyLogs hlogs hattributed
  | false =>
      cases operation with
      | reset => exact iff_of_true rfl (by simp [Careful, Operation.loggedSource])
      | call call =>
          cases call with
          | log | announceVoice | startTaskTimer => cases hlogs
          | clearTaskTimer =>
              exact iff_of_true hattributed (by simp [Careful, Operation.loggedSource])
          | standby | working | error | releaseToIdle =>
              exact iff_of_true rfl (by simp [Careful, Operation.loggedSource])

/-- A log event in the middle of work that names another source than the work is
all that misleads the hub. -/
theorem tracks_iff (u : PyData) (mode : VoicePlaybackMode) (maxEvents : Nat)
    (operations : List Operation) :
    Tracks u mode maxEvents operations ↔
      ∀ k operation, operations[k]? = some operation →
        Careful u mode (stateAt (step u mode) (start maxEvents) operations k) operation := by
  have hiff : (∀ k, Attributed (stateAt (step u mode) (start maxEvents) operations k)) ↔ _ :=
    invariant_iff_guarded (C := Careful u mode) rfl
      fun _ _ hattributed => attributed_step_iff hattributed
  constructor
  · intro h
    exact hiff.mp h.attributed
  · intro hcareful
    have hattributed := hiff.mpr hcareful
    refine ⟨hattributed, fun k operation hoperation hlogs => ?_⟩
    rw [stateAt_succ hoperation]
    obtain ⟨hstate, hsource⟩ := step_of_onlyLogs u mode
      (stateAt (step u mode) (start maxEvents) operations k) hlogs
    refine ⟨hstate, hsource.trans ?_⟩
    have hnow := hattributed k
    have hcare := hcareful k operation hoperation
    rw [Attributed] at hnow
    rw [Careful] at hcare
    cases hlogged : operation.loggedSource u mode
        (stateAt (step u mode) (start maxEvents) operations k).hub with
    | none => rfl
    | some source =>
        rw [hnow]
        dsimp only
        split
        · rename_i hworking
          exact (hcare hworking source hlogged).symm
        · rfl

/-- The completion of a timer is logged while the assistant thinks. -/
def workAndCompletion : List Operation :=
  [.call (.working "I'm thinking.".toList none "assistant".toList),
   .call (.log "Timer done.".toList none "scheduler.timers".toList)]

theorem not_tracks_of_completion_during_work :
    ¬ ∀ (u : PyData) (mode : VoicePlaybackMode) (maxEvents : Nat) (operations : List Operation),
      Tracks u mode maxEvents operations := by
  intro h
  have hsource := (h .ascii .both 100 workAndCompletion).attributed 2
  exact absurd hsource (by unfold Attributed; decide +kernel)

end Runs

end NanoCore.Runtime.WorkingSource
