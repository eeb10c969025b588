import NanoCore.Foundation.Interleaving
import NanoCore.Runtime.Activity

/-!
Calls of the activity hub at the same time.  A step of a call is one block under
the lock of the hub, or the read of the state that `log` makes before its block.
-/

namespace NanoCore.Runtime.Interleavings

open NanoCore.Config
open NanoCore.Foundation.Interleaving
open NanoCore.Foundation.PythonText
open NanoCore.Foundation.Runs
open NanoCore.Runtime.Activity

/-- The hub; `lastSet` is for the statements and no step reads it. -/
structure Shared where
  hub : ActivityHub
  /-- The state of the last state event. -/
  lastSet : ActivityState
  deriving DecidableEq, Repr

/-- The next step of a call, with what the call has read. -/
inductive Call where
  | setTaskTimer (taskTimer : Option TaskTimer) (next : Call)
  | announce (message : Text)
  | readState (title : Text) (detail : Option Text) (source : Text)
  | record (kind : EventKind) (state : ActivityState) (source title : Text) (detail : Option Text)
  | done
  deriving DecidableEq, Repr

namespace Shared

def onHub (shared : Shared) (hub : ActivityHub) : Shared := { shared with hub }

def record (shared : Shared) (kind : EventKind) (state : ActivityState) (source title : Text)
    (detail : Option Text) : Shared where
  hub := (shared.hub.record kind state source title detail).1
  lastSet := if kind = .state then state else shared.lastSet

end Shared

section Steps

variable (u : PyData) (mode : VoicePlaybackMode)

/-- `announce_voice` up to the end of its block under the lock. -/
def actAnnounce (message : Text) (shared : Shared) : Shared × Call :=
  let spoken := spokenText message
  if spoken = [] then (shared, .done)
  else
    let normalized := normalizeVoiceAnnouncement u spoken
    if some normalized = shared.hub.lastVoiceAnnouncement then (shared, .done)
    else
      (shared.onHub (shared.hub.withAnnouncement normalized),
        if mode = .local then .done else .readState spoken (some spoken) voiceAnnounceSource)

def act : Call → Shared → Shared × Call
  | .setTaskTimer taskTimer next, shared =>
      (shared.onHub (shared.hub.withTaskTimer taskTimer), next)
  | .announce message, shared => actAnnounce u mode message shared
  | .readState title detail source, shared =>
      (shared, .record .log shared.hub.state source title detail)
  | .record kind state source title detail, shared =>
      (shared.record kind state source title detail, .done)
  | .done, shared => (shared, .done)

/-- The first step of a call of the hub. -/
def firstStep : HubCall → Call
  | .standby title detail source =>
      .setTaskTimer none (.record .state .standby source title detail)
  | .working title detail source => .record .state .working source title detail
  | .error title detail source =>
      .setTaskTimer none (.record .state .error source title detail)
  | .log title detail source => .readState title detail source
  | .announceVoice message => .announce message
  | .startTaskTimer label expectedSeconds =>
      .setTaskTimer (some ⟨label, expectedSeconds⟩)
        (.readState label none "runtime.task_timer".toList)
  | .clearTaskTimer => .setTaskTimer none .done
  | .releaseToIdle greeting source =>
      .setTaskTimer none
        (.record .state .standby source greeting (some standbyDetailDefault))

def start (hub : ActivityHub) (operations : List HubCall) : System Shared Call :=
  ⟨⟨hub, hub.state⟩, operations.map firstStep⟩

theorem advance_singleton (shared : Shared) (call : Call) :
    System.advance (act u mode) ⟨shared, [call]⟩ 0 =
      ⟨(act u mode call shared).1, [(act u mode call shared).2]⟩ := rfl

/-- The three steps of a call that runs alone do what the call does. -/
theorem alone_call (hub : ActivityHub) (operation : HubCall) :
    (run (System.advance (act u mode)) (start hub [operation]) [0, 0, 0]).shared.hub =
      (hub.call u mode operation).1 := by
  simp only [run, start, List.foldl_cons, List.foldl_nil, List.map_cons, List.map_nil,
    advance_singleton]
  cases operation with
  | announceVoice message =>
      simp only [firstStep, act, actAnnounce, ActivityHub.call, ActivityHub.announceVoice]
      by_cases hspoken : spokenText message = []
      · simp only [if_pos hspoken]
      · by_cases hsame : some (normalizeVoiceAnnouncement u (spokenText message)) =
            hub.lastVoiceAnnouncement
        · simp only [if_neg hspoken, if_pos hsame]
        · simp only [if_neg hspoken, if_neg hsame]
          cases mode <;> rfl
  | _ => rfl

variable {u : PyData} {mode : VoicePlaybackMode}

def Follows (system : System Shared Call) : Prop :=
  system.shared.hub.state = system.shared.lastSet

/-- A log call that records next has read the state that the hub still has. -/
def Careful (system : System Shared Call) (i : Nat) : Prop :=
  match system.calls[i]? with
  | some (.record .state _ _ _ _) => True
  | some (.record _ state _ _ _) => state = system.shared.hub.state
  | _ => True

theorem actAnnounce_state (message : Text) (shared : Shared) :
    (actAnnounce u mode message shared).1.hub.state = shared.hub.state := by
  unfold actAnnounce
  dsimp only
  split
  · rfl
  · split <;> rfl

theorem actAnnounce_lastSet (message : Text) (shared : Shared) :
    (actAnnounce u mode message shared).1.lastSet = shared.lastSet := by
  unfold actAnnounce
  dsimp only
  split
  · rfl
  · split <;> rfl

theorem follows_advance_iff {system : System Shared Call} (hfollows : Follows system) (i : Nat) :
    Follows (System.advance (act u mode) system i) ↔ Careful system i := by
  cases hcall : system.calls[i]? with
  | none =>
      rw [System.advance_of_none hcall, Careful, hcall]
      exact iff_of_true hfollows trivial
  | some call =>
      rw [System.advance_of_some hcall, Careful, hcall]
      cases call with
      | record kind state source title detail =>
          cases kind with
          | state => exact iff_of_true rfl trivial
          | action | log =>
              -- the state of the hub becomes the one that the call has read
              change state = system.shared.lastSet ↔ state = system.shared.hub.state
              rw [hfollows]
      | announce message =>
          refine iff_of_true ?_ trivial
          change (actAnnounce u mode message system.shared).1.hub.state = _
          rw [actAnnounce_state, hfollows]
          exact (actAnnounce_lastSet message system.shared).symm
      | setTaskTimer taskTimer next => exact iff_of_true hfollows trivial
      | readState title detail source => exact iff_of_true hfollows trivial
      | done => exact iff_of_true hfollows trivial

/-- A log call that records a state that it has read before another call set
another one is all that undoes a change of state. -/
theorem follows_iff (u : PyData) (mode : VoicePlaybackMode) (hub : ActivityHub)
    (operations : List HubCall) (schedule : List Nat) :
    (∀ k, Follows (stateAt (System.advance (act u mode)) (start hub operations) schedule k)) ↔
      ∀ k i, schedule[k]? = some i →
        Careful (stateAt (System.advance (act u mode)) (start hub operations) schedule k) i :=
  invariant_iff_guarded rfl fun _ i hfollows => follows_advance_iff hfollows i

def workLogStandby : List HubCall :=
  [.working "I'm thinking.".toList none "assistant".toList,
   .log "Timer done.".toList none "scheduler.timers".toList,
   .standby standbyTitle none "assistant".toList]

/-- The log call reads that the assistant works, the assistant goes into standby,
and the log call puts the hub back to work. -/
theorem not_follows_of_stale_read :
    ¬ ∀ (u : PyData) (mode : VoicePlaybackMode) (hub : ActivityHub)
      (operations : List HubCall) (schedule : List Nat) (k : Nat),
      Follows (stateAt (System.advance (act u mode)) (start hub operations) schedule k) := by
  intro h
  have hlast : (stateAt (System.advance (act .ascii .both))
      (start (ActivityHub.initial 100).1 workLogStandby) [0, 1, 2, 2, 1] 5).shared.lastSet =
        .standby := by
    decide +kernel
  have hstate : (stateAt (System.advance (act .ascii .both))
      (start (ActivityHub.initial 100).1 workLogStandby) [0, 1, 2, 2, 1] 5).shared.hub.state =
        .working := by
    decide +kernel
  have hfollows := h .ascii .both (ActivityHub.initial 100).1 workLogStandby [0, 1, 2, 2, 1] 5
  rw [Follows, hlast, hstate] at hfollows
  exact absurd hfollows (by decide)

end Steps

end NanoCore.Runtime.Interleavings
