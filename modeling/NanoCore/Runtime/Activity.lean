import NanoCore.Config
import NanoCore.Foundation.NumberedLog
import NanoCore.Runtime.State

/-!
The activity hub: what the assistant is doing, and the newest of the events that
say so.  `app/runtime/activity.py`, without the time stamps of the events.
-/

namespace NanoCore.Runtime.Activity

open NanoCore.Config
open NanoCore.Foundation.NumberedLog
open NanoCore.Foundation.PythonText
open NanoCore.Runtime.State

inductive ActivityState where
  | standby
  | working
  | error
  deriving DecidableEq, Repr

inductive EventKind where
  | state
  | action
  | log
  deriving DecidableEq, Repr

structure TaskTimer where
  label : Text
  expectedSeconds : Int
  deriving DecidableEq, Repr

structure ActivityEvent where
  id : Nat
  kind : EventKind
  state : ActivityState
  source : Text
  title : Text
  detail : Option Text
  deriving DecidableEq, Repr

def voiceAnnounceSource : Text := "runtime.voice.announce".toList

def standbyTitle : Text := "I'm in standby.".toList

def standbyDetailDefault : Text := "Awaiting your input.".toList

def standbyDetailReady : Text := "Ready for your next task.".toList

structure ActivityHub where
  maxEvents : Nat
  events : List ActivityEvent
  nextId : Nat
  state : ActivityState
  headline : Text
  detail : Option Text
  taskTimer : Option TaskTimer
  workingSource : Option Text
  lastVoiceAnnouncement : Option Text
  deriving DecidableEq, Repr

inductive HubCall where
  | standby (title : Text) (detail : Option Text) (source : Text)
  | working (title : Text) (detail : Option Text) (source : Text)
  | error (title : Text) (detail : Option Text) (source : Text)
  | log (title : Text) (detail : Option Text) (source : Text)
  | announceVoice (message : Text)
  | startTaskTimer (label : Text) (expectedSeconds : Int)
  | clearTaskTimer
  | releaseToIdle (greeting : Text) (source : Text)
  deriving DecidableEq, Repr

namespace ActivityHub

def record (hub : ActivityHub) (kind : EventKind) (state : ActivityState) (source title : Text)
    (detail : Option Text) : ActivityHub × ActivityEvent :=
  let event := { id := hub.nextId, kind, state, source, title, detail }
  ({ hub with
      nextId := hub.nextId + 1
      events := appendBounded hub.maxEvents hub.events event
      state := state
      headline := title
      detail := detail
      workingSource := if state = .working then some source else none }, event)

def blank (maxEvents : Nat) : ActivityHub where
  maxEvents := maxEvents
  events := []
  nextId := 1
  state := .standby
  headline := standbyTitle
  detail := some standbyDetailDefault
  taskTimer := none
  workingSource := none
  lastVoiceAnnouncement := none

/-- `__init__`. -/
def initial (maxEvents : Nat) : ActivityHub × ActivityEvent :=
  (blank maxEvents).record .state .standby "system".toList standbyTitle (some standbyDetailDefault)

def reset (hub : ActivityHub) : ActivityHub × ActivityEvent :=
  (blank hub.maxEvents).record .state .standby "system".toList standbyTitle
    (some standbyDetailReady)

def withTaskTimer (hub : ActivityHub) (taskTimer : Option TaskTimer) : ActivityHub :=
  { hub with taskTimer }

def withAnnouncement (hub : ActivityHub) (announcement : Text) : ActivityHub :=
  { hub with lastVoiceAnnouncement := some announcement }

def standby (hub : ActivityHub) (title : Text) (detail : Option Text) (source : Text) :
    ActivityHub × ActivityEvent :=
  (hub.withTaskTimer none).record .state .standby source title detail

def working (hub : ActivityHub) (title : Text) (detail : Option Text) (source : Text) :
    ActivityHub × ActivityEvent :=
  hub.record .state .working source title detail

def error (hub : ActivityHub) (title : Text) (detail : Option Text) (source : Text) :
    ActivityHub × ActivityEvent :=
  (hub.withTaskTimer none).record .state .error source title detail

def log (hub : ActivityHub) (title : Text) (detail : Option Text) (source : Text) :
    ActivityHub × ActivityEvent :=
  hub.record .log hub.state source title detail

def releaseToIdle (hub : ActivityHub) (greeting source : Text) : ActivityHub × ActivityEvent :=
  hub.standby greeting (some standbyDetailDefault) source

def startTaskTimer (hub : ActivityHub) (label : Text) (expectedSeconds : Int) :
    ActivityHub × ActivityEvent :=
  (hub.withTaskTimer (some ⟨label, expectedSeconds⟩)).log label none "runtime.task_timer".toList

end ActivityHub

section Voice

variable (u : PyData) (mode : VoicePlaybackMode)

/-- `message.strip().rstrip(".")`. -/
def spokenText (message : Text) : Text := rstripChars ['.'] (strip message)

def normalizeVoiceAnnouncement (message : Text) : Text :=
  joinWords ((splitWords (u.lower (spokenText message))).filter fun word =>
    word != "the".toList && word != "a".toList)

namespace ActivityHub

/-- `announce_voice`: an event for the browser unless the text is the last one
again.  What the loudspeaker of the server does leaves the hub as it is. -/
def announceVoice (hub : ActivityHub) (message : Text) : ActivityHub × Option ActivityEvent :=
  let spoken := spokenText message
  if spoken = [] then (hub, none)
  else
    let normalized := normalizeVoiceAnnouncement u spoken
    if some normalized = hub.lastVoiceAnnouncement then (hub, none)
    else
      let hub := hub.withAnnouncement normalized
      if mode = .local then (hub, none)
      else
        let (hub, event) := hub.log spoken (some spoken) voiceAnnounceSource
        (hub, some event)

/-- A call, with the event that it records. -/
def call (hub : ActivityHub) : HubCall → ActivityHub × Option ActivityEvent
  | .standby title detail source => (hub.standby title detail source).map id some
  | .working title detail source => (hub.working title detail source).map id some
  | .error title detail source => (hub.error title detail source).map id some
  | .log title detail source => (hub.log title detail source).map id some
  | .announceVoice message => hub.announceVoice u mode message
  | .startTaskTimer label expectedSeconds =>
      (hub.startTaskTimer label expectedSeconds).map id some
  | .clearTaskTimer => (hub.withTaskTimer none, none)
  | .releaseToIdle greeting source => (hub.releaseToIdle greeting source).map id some

def calls (hub : ActivityHub) (calls : List HubCall) : ActivityHub :=
  calls.foldl (fun hub call => (hub.call u mode call).1) hub

end ActivityHub

end Voice

/-- The calls that timers and reminders make, on the hub. -/
def hubCall : ActivityCall → HubCall
  | .log title detail source => .log title (some detail) source
  | .announceVoice text => .announceVoice text
  | .working title detail source => .working title (some detail) source
  | .standby title detail source => .standby title (some detail) source

section Announcements

variable {u : PyData} {mode : VoicePlaybackMode} {hub : ActivityHub} {message : Text}

theorem announceVoice_of_same (h : hub.lastVoiceAnnouncement =
    some (normalizeVoiceAnnouncement u (spokenText message))) :
    hub.announceVoice u mode message = (hub, none) := by
  rw [ActivityHub.announceVoice]
  simp only [h, if_true, ite_self]

theorem announceVoice_of_new (hmode : mode ≠ .local) (hspoken : spokenText message ≠ [])
    (h : hub.lastVoiceAnnouncement ≠ some (normalizeVoiceAnnouncement u (spokenText message))) :
    hub.announceVoice u mode message =
      ((hub.withAnnouncement (normalizeVoiceAnnouncement u (spokenText message))).log
        (spokenText message) (some (spokenText message)) voiceAnnounceSource).map id some := by
  rw [ActivityHub.announceVoice]
  simp only [if_neg hspoken, if_neg h.symm, if_neg hmode]
  rfl

@[simp] theorem call_maxEvents (hub : ActivityHub) (call : HubCall) :
    (hub.call u mode call).1.maxEvents = hub.maxEvents := by
  cases call with
  | announceVoice message =>
      rw [ActivityHub.call, ActivityHub.announceVoice]
      dsimp only
      split
      · rfl
      · split
        · rfl
        · split <;> rfl
  | _ => rfl

theorem calls_maxEvents (hub : ActivityHub) (calls : List HubCall) :
    (hub.calls u mode calls).maxEvents = hub.maxEvents := by
  induction calls generalizing hub with
  | nil => rfl
  | cons call calls ih => exact (ih _).trans (call_maxEvents hub call)

end Announcements

/-- The hub keeps the newest of the events recorded since it was made, numbered
from one. -/
structure ActivityHub.Keeps (hub : ActivityHub) (recorded : List ActivityEvent) : Prop where
  numbered : Numbered ActivityEvent.id recorded
  nextId : hub.nextId = recorded.length + 1
  events : hub.events = newest hub.maxEvents recorded

namespace ActivityHub

variable {u : PyData} {mode : VoicePlaybackMode} {hub hub' : ActivityHub}
variable {recorded : List ActivityEvent}

theorem keeps_blank (maxEvents : Nat) : (blank maxEvents).Keeps [] where
  numbered := rfl
  nextId := rfl
  events := List.drop_nil.symm

theorem Keeps.record (h : hub.Keeps recorded) (kind : EventKind) (state : ActivityState)
    (source title : Text) (detail : Option Text) :
    (hub.record kind state source title detail).1.Keeps
      (recorded ++ [(hub.record kind state source title detail).2]) where
  numbered := numberedFrom_append h.numbered (h.nextId.trans (Nat.add_comm ..))
  nextId := by
    rw [List.length_append, List.length_singleton, ← h.nextId]
    rfl
  events := by
    change appendBounded hub.maxEvents hub.events _ = newest hub.maxEvents _
    rw [h.events, appendBounded_newest]
    rfl

theorem Keeps.withTaskTimer (h : hub.Keeps recorded) (taskTimer : Option TaskTimer) :
    (hub.withTaskTimer taskTimer).Keeps recorded := ⟨h.numbered, h.nextId, h.events⟩

theorem Keeps.withAnnouncement (h : hub.Keeps recorded) (announcement : Text) :
    (hub.withAnnouncement announcement).Keeps recorded := ⟨h.numbered, h.nextId, h.events⟩

theorem keeps_initial (maxEvents : Nat) :
    (initial maxEvents).1.Keeps [(initial maxEvents).2] :=
  (keeps_blank maxEvents).record ..

theorem Keeps.announceVoice (h : hub.Keeps recorded) (message : Text) :
    (hub.announceVoice u mode message).1.Keeps
      (recorded ++ (hub.announceVoice u mode message).2.toList) := by
  have hnone : recorded ++ (none : Option ActivityEvent).toList = recorded := List.append_nil _
  rw [ActivityHub.announceVoice]
  dsimp only
  split
  · exact hnone.symm ▸ h
  · split
    · exact hnone.symm ▸ h
    · split
      · exact hnone.symm ▸ h.withAnnouncement _
      · exact (h.withAnnouncement _).record ..

/-- Every call keeps the newest events, the one that it records included. -/
theorem Keeps.call (h : hub.Keeps recorded) (c : HubCall) :
    (hub.call u mode c).1.Keeps (recorded ++ (hub.call u mode c).2.toList) := by
  cases c with
  | standby title detail source => exact (h.withTaskTimer none).record ..
  | working title detail source => exact h.record ..
  | error title detail source => exact (h.withTaskTimer none).record ..
  | log title detail source => exact h.record ..
  | announceVoice message => exact h.announceVoice message
  | startTaskTimer label expectedSeconds => exact (h.withTaskTimer _).record ..
  | clearTaskTimer => exact (List.append_nil recorded).symm ▸ h.withTaskTimer none
  | releaseToIdle greeting source => exact (h.withTaskTimer none).record ..

theorem Keeps.calls (h : hub.Keeps recorded) (calls : List HubCall) :
    ∃ recorded', (hub.calls u mode calls).Keeps recorded' := by
  induction calls generalizing hub recorded with
  | nil => exact ⟨recorded, h⟩
  | cons call calls ih => exact ih (h.call call)

end ActivityHub

end NanoCore.Runtime.Activity
