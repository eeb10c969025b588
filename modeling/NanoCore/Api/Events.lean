import NanoCore.Foundation.Runs
import NanoCore.Runtime.Activity

namespace NanoCore.Api.Events

open NanoCore.Config
open NanoCore.Foundation.NumberedLog
open NanoCore.Foundation.PythonText
open NanoCore.Foundation.Runs
open NanoCore.Runtime.Activity

/-- The hub and one client. -/
structure Stream where
  hub : ActivityHub
  lastId : Nat
  emitted : List ActivityEvent
  /-- Every event recorded since the hub was made; no step reads it. -/
  recorded : List ActivityEvent
  /-- How many of them there were at the last poll; no step reads it. -/
  polled : Option Nat
  deriving DecidableEq, Repr

inductive StreamEvent where
  | call (call : HubCall)
  | poll
  deriving DecidableEq, Repr

def start (maxEvents since : Nat) : Stream where
  hub := (ActivityHub.initial maxEvents).1
  lastId := since
  emitted := []
  recorded := [(ActivityHub.initial maxEvents).2]
  polled := none

def step (u : PyData) (mode : VoicePlaybackMode) (stream : Stream) : StreamEvent → Stream
  | .call call =>
      let (hub, event) := stream.hub.call u mode call
      { stream with hub, recorded := stream.recorded ++ event.toList }
  | .poll =>
      let (lastId, events) := catchUp ActivityEvent.id stream.lastId stream.hub.events
      { stream with
        lastId
        emitted := stream.emitted ++ events
        polled := some stream.recorded.length }

/-- At a first poll no more events after `since` exist than the hub keeps, and
between two polls no more are recorded. -/
def KeepsUp (since : Nat) (stream : Stream) : StreamEvent → Prop
  | .call _ => True
  | .poll =>
      match stream.polled with
      | none =>
          (stream.recorded.filter fun event => since < event.id).length ≤ stream.hub.maxEvents
      | some polled => stream.recorded.length ≤ polled + stream.hub.maxEvents

instance (since : Nat) (stream : Stream) (event : StreamEvent) :
    Decidable (KeepsUp since stream event) := by
  unfold KeepsUp
  split
  · infer_instance
  · split <;> infer_instance

/-- The client has been sent the events after `since` that were recorded before
its last poll, each once and in the order of their ids. -/
structure Delivered (since : Nat) (stream : Stream) : Prop where
  emitted : stream.emitted =
    (stream.recorded.take (stream.polled.getD 0)).filter fun event => since < event.id
  ascending : stream.emitted.Pairwise fun event event' => event.id < event'.id

structure Inv (since : Nat) (stream : Stream) : Prop where
  keeps : stream.hub.Keeps stream.recorded
  polled : stream.polled.getD 0 ≤ stream.recorded.length
  lastId : stream.lastId = max since (stream.polled.getD 0)
  emitted : stream.emitted = (stream.recorded.take (stream.polled.getD 0)).drop since

section Steps

variable {u : PyData} {mode : VoicePlaybackMode} {since : Nat} {stream : Stream}

theorem Inv.delivered (h : Inv since stream) : Delivered since stream := by
  have htake := h.keeps.numbered.take (stream.polled.getD 0)
  have hemitted : stream.emitted =
      (stream.recorded.take (stream.polled.getD 0)).filter fun event => since < event.id := by
    rw [filter_lt_eq_drop htake]
    exact h.emitted
  refine ⟨hemitted, ?_⟩
  rw [hemitted]
  exact htake.pairwise.sublist List.filter_sublist

theorem inv_start (maxEvents since : Nat) : Inv since (start maxEvents since) where
  keeps := ActivityHub.keeps_initial maxEvents
  polled := Nat.zero_le _
  lastId := (Nat.max_zero since).symm
  emitted := List.drop_nil.symm

theorem inv_call (h : Inv since stream) (call : HubCall) :
    Inv since (step u mode stream (.call call)) where
  keeps := h.keeps.call call
  polled := by
    rw [step, List.length_append]
    exact h.polled.trans (Nat.le_add_right ..)
  lastId := h.lastId
  emitted := by
    rw [step, List.take_append_of_le_length h.polled]
    exact h.emitted

theorem Inv.few (h : Inv since stream) (hkeepsUp : KeepsUp since stream .poll) :
    stream.recorded.length ≤ stream.lastId + stream.hub.maxEvents := by
  rw [h.lastId]
  rw [KeepsUp] at hkeepsUp
  cases hpolled : stream.polled with
  | none =>
      rw [hpolled] at hkeepsUp
      rw [filter_lt_eq_drop h.keeps.numbered, List.length_drop] at hkeepsUp
      rw [Option.getD_none]
      omega
  | some polled =>
      rw [hpolled] at hkeepsUp
      rw [Option.getD_some]
      have hle : polled ≤ max since polled := Nat.le_max_right ..
      omega

theorem inv_poll (h : Inv since stream) (hkeepsUp : KeepsUp since stream .poll) :
    Inv since (step u mode stream .poll) := by
  have hcaught := catchUp_newest h.keeps.numbered (h.few hkeepsUp)
  rw [← h.keeps.events, h.lastId] at hcaught
  have hpolled := h.polled
  constructor
  · exact h.keeps
  · exact Nat.le_refl _
  · simp only [step, h.lastId, hcaught, Option.getD_some]
    omega
  · simp only [step, h.lastId, hcaught, Option.getD_some, List.take_length]
    rw [h.emitted, drop_take_append_drop_max]

theorem delivered_of_keepsUp (u : PyData) (mode : VoicePlaybackMode) (maxEvents since : Nat)
    (events : List StreamEvent)
    (hkeepsUp : ∀ k event, events[k]? = some event →
      KeepsUp since (stateAt (step u mode) (start maxEvents since) events k) event) (k : Nat) :
    Delivered since (stateAt (step u mode) (start maxEvents since) events k) := by
  refine (invariant_of_guarded (C := KeepsUp since) (inv_start maxEvents since) ?_ hkeepsUp
    k).delivered
  intro stream event hinv hevent
  cases event with
  | call call => exact inv_call hinv call
  | poll => exact inv_poll hinv hevent

end Steps

/-- Two events between two polls of a client that has seen the first event, in a
hub that keeps two. -/
def twoPolls : List StreamEvent :=
  [.poll, .call (.working "Thinking.".toList none "assistant.chat".toList),
    .call (.log "Done.".toList none "assistant.chat".toList), .poll]

theorem delivered_twoPolls :
    Delivered 1 (stateAt (step .ascii .both) (start 2 1) twoPolls 4) := by
  apply delivered_of_keepsUp
  intro k event hevent
  rcases k with _ | _ | _ | _ | k <;> cases hevent
  · exact (by decide : KeepsUp 1 (stateAt (step .ascii .both) (start 2 1) twoPolls 0) .poll)
  · trivial
  · trivial
  · exact (by decide : KeepsUp 1 (stateAt (step .ascii .both) (start 2 1) twoPolls 3) .poll)

example : (stateAt (step .ascii .both) (start 2 1) twoPolls 4).emitted.map ActivityEvent.id =
    [2, 3] := by decide

end NanoCore.Api.Events
