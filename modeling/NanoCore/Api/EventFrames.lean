import NanoCore.Api.Events
import NanoCore.Foundation.EventStreams
import NanoCore.Foundation.JsonWriters

namespace NanoCore.Api.EventFrames

open NanoCore.Api.Events
open NanoCore.Config
open NanoCore.Foundation.EventStreams
open NanoCore.Foundation.JsonLoads
open NanoCore.Foundation.JsonText
open NanoCore.Foundation.JsonWriters
open NanoCore.Foundation.NumberedLog
open NanoCore.Foundation.PythonText
open NanoCore.Foundation.Runs
open NanoCore.Runtime.Activity

def kindText : EventKind → Text
  | .state => "state".toList
  | .action => "action".toList
  | .log => "log".toList

def stateText : ActivityState → Text
  | .standby => "standby".toList
  | .working => "working".toList
  | .error => "error".toList

def detailJson : Option Text → Json
  | none => .null
  | some detail => .str detail

variable (createdAt : ActivityEvent → Text)

/-- `to_dict`, with the time at which an event was recorded. -/
def toDict (event : ActivityEvent) : JsonObject :=
  [("id".toList, .int event.id), ("kind".toList, .str (kindText event.kind)),
   ("state".toList, .str (stateText event.state)), ("source".toList, .str event.source),
   ("title".toList, .str event.title),
   ("detail".toList, detailJson event.detail),
   ("created_at".toList, .str (createdAt event))]

/-- `json.dumps(event)`. -/
def eventData (event : ActivityEvent) : Text := writeWith .ascii 0 (.obj (toDict createdAt event))

/-- What the stream yields for an event. -/
def chunk (event : ActivityEvent) : Text :=
  "event: activity\ndata: ".toList ++ (eventData createdAt event ++ "\n\n".toList)

def activityMessage (event : ActivityEvent) : Message :=
  ⟨"activity".toList, eventData createdAt event⟩

variable {createdAt} {event : ActivityEvent}

theorem chunk_eq (event : ActivityEvent) :
    chunk createdAt event = frame (activityMessage createdAt event) := by
  have hhead : "event: activity\ndata: ".toList =
      "event: ".toList ++ ("activity".toList ++ "\ndata: ".toList) := by decide
  unfold chunk frame activityMessage
  rw [hhead]
  generalize eventData createdAt event = data
  generalize "event: ".toList = front
  generalize "\ndata: ".toList = middle
  simp only [List.append_assoc]

theorem isSimple_activityMessage (event : ActivityEvent) :
    (activityMessage createdAt event).IsSimple where
  type_ne := (by decide : "activity".toList ≠ [])
  type_oneLine := by
    have hall : ("activity".toList.all fun c => c ≠ '\n' ∧ c ≠ '\r') = true := by decide
    exact EventSource.oneLine_of_all hall
  data_oneLine := by
    intro c hc
    have hprintable := isPrintable_writeWith 0 (.obj (toDict createdAt event)) c hc
    refine ⟨?_, ?_⟩
    · rintro rfl
      exact absurd hprintable.1 (by decide)
    · rintro rfl
      exact absurd hprintable.1 (by decide)

theorem readable_detailJson (readFloat : ReadFloat) (detail : Option Text) :
    Readable readFloat (detailJson detail) := by
  cases detail with
  | none => exact .null
  | some detail => exact .str detail

theorem loads_eventData (readFloat : ReadFloat) (hid : event.id < 10 ^ maxIntDigits) :
    loads readFloat (eventData createdAt event) = .ok (.obj (toDict createdAt event)) := by
  have hnodup : (["id", "kind", "state", "source", "title", "detail", "created_at"].map
      String.toList).Nodup := by decide
  have hkeys : ((toDict createdAt event).map Prod.fst).Nodup := hnodup
  refine loads_writeWith Style.ascii_lawful (.obj hkeys ?_) 0
  simp only [toDict, List.forall_mem_cons, List.not_mem_nil, false_implies, implies_true, and_true]
  exact ⟨.int ((Nat.length_toDigits_le_iff (by decide) (by decide)).mpr hid), .str _, .str _,
    .str _, .str _, readable_detailJson readFloat event.detail, .str _⟩

/-- The client's `EventSource` after the chunks of the stream, however the network cuts
them. -/
def clientMessages (pieces : List Text) : List Message :=
  (pieces.foldl EventSource.read {}).messages

theorem clientMessages_eq (pieces : List Text) :
    clientMessages pieces = (EventSource.read {} pieces.flatten).messages := by
  rw [clientMessages, EventSource.read, List.foldl_flatten]
  rfl

theorem clientMessages_chunks {sent : List ActivityEvent} {pieces : List Text}
    (h : pieces.flatten = sent.flatMap (chunk createdAt)) :
    clientMessages pieces = sent.map (activityMessage createdAt) := by
  have hframes : sent.flatMap (chunk createdAt) =
      (sent.map (activityMessage createdAt)).flatMap frame := by
    rw [List.flatMap_map]
    exact List.flatMap_congr fun event _ => chunk_eq event
  have hsimple : ∀ message ∈ sent.map (activityMessage createdAt), message.IsSimple := by
    intro message hmessage
    obtain ⟨event, -, rfl⟩ := List.mem_map.mp hmessage
    exact isSimple_activityMessage event
  have hread := EventSource.read_frames hsimple []
  rw [clientMessages_eq, h, hframes]
  exact congrArg EventSource.messages hread

/-- A client that keeps up with the hub reads, from the chunks of its stream however they
are cut, every event after `since` that was recorded before its last poll, once each and
in order, whatever texts the events hold. -/
theorem eventStream_read (createdAt : ActivityEvent → Text) (readFloat : ReadFloat) (u : PyData)
    (mode : VoicePlaybackMode) (maxEvents since : Nat) (events : List StreamEvent)
    (hkeepsUp : ∀ k event, events[k]? = some event →
      KeepsUp since (stateAt (step u mode) (start maxEvents since) events k) event) (k : Nat)
    (hcount : (stateAt (step u mode) (start maxEvents since) events k).recorded.length <
      10 ^ maxIntDigits)
    (pieces : List Text) (hpieces : pieces.flatten =
      (stateAt (step u mode) (start maxEvents since) events k).emitted.flatMap
        (chunk createdAt)) :
    let stream := stateAt (step u mode) (start maxEvents since) events k
    ((clientMessages pieces).map fun message => (message.type, loads readFloat message.data)) =
      ((stream.recorded.take (stream.polled.getD 0)).filter fun event => since < event.id).map
        fun event => ("activity".toList, .ok (.obj (toDict createdAt event))) := by
  have hinv : Inv since (stateAt (step u mode) (start maxEvents since) events k) := by
    refine invariant_of_guarded (C := KeepsUp since) (inv_start maxEvents since) ?_ hkeepsUp k
    intro stream event hstream hevent
    cases event with
    | call call => exact inv_call hstream call
    | poll => exact inv_poll hstream hevent
  generalize stateAt (step u mode) (start maxEvents since) events k = stream at *
  have hemitted := hinv.delivered.emitted
  show (clientMessages pieces).map _ = _
  rw [clientMessages_chunks hpieces, ← hemitted, List.map_map]
  refine List.map_congr_left fun event hevent => ?_
  have hrecorded : event ∈ stream.recorded := by
    rw [hemitted] at hevent
    exact List.mem_of_mem_take (List.mem_of_mem_filter hevent)
  have hid := hinv.keeps.numbered.lt_of_mem hrecorded
  exact congrArg (Prod.mk _) (loads_eventData readFloat (by omega))

/-- An event with a line break in its title, and a poll. -/
def brokenTitle : List StreamEvent :=
  [.call (.log "Do\nne.".toList none "assistant.chat".toList), .poll]

theorem eventStream_read_brokenTitle :
    ((clientMessages [(stateAt (step .ascii .both) (start 2 0) brokenTitle 2).emitted.flatMap
        (chunk fun _ => "2026-01-01T00:00:00+00:00".toList)]).map fun message =>
          (message.type, loads (fun _ => .zero) message.data)) =
      (((stateAt (step .ascii .both) (start 2 0) brokenTitle 2).recorded.take
          ((stateAt (step .ascii .both) (start 2 0) brokenTitle 2).polled.getD 0)).filter
            fun event => 0 < event.id).map
        fun event => ("activity".toList,
          .ok (.obj (toDict (fun _ => "2026-01-01T00:00:00+00:00".toList) event))) := by
  refine eventStream_read _ _ .ascii .both 2 0 brokenTitle ?_ 2 ?_ _ (List.append_nil _)
  · intro k event hevent
    rcases k with _ | _ | k <;> cases hevent
    · trivial
    · exact (by decide : KeepsUp 0 (stateAt (step .ascii .both) (start 2 0) brokenTitle 1) .poll)
  · exact (by decide : (stateAt (step .ascii .both) (start 2 0) brokenTitle 2).recorded.length <
      10).trans_le (Nat.le_self_pow (by decide) 10)

end NanoCore.Api.EventFrames
