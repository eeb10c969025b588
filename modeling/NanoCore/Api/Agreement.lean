import NanoCore.Api.Timers
import NanoCore.Timers.Selection

namespace NanoCore.Api.Agreement

open NanoCore.Api.Timers
open NanoCore.Foundation.KeyedTable
open NanoCore.Foundation.PythonDatetime
open NanoCore.Foundation.PythonText
open NanoCore.Memory.Models
open NanoCore.Memory.Repository
open NanoCore.Runtime.State
open NanoCore.Scheduler.Jobs
open NanoCore.Timers.Labels
open NanoCore.Timers.Operations
open NanoCore.Timers.Removal
open NanoCore.Timers.Selection
open NanoCore.Timers.Serialization

/-- Both succeed or both fail, with the same rows and jobs after them; a failure
leaves these as they were. -/
structure Agree {α β : Type} (server : Server) (request : Server × Except RequestError α)
    (tool : Server × Except PyError β) : Prop where
  succeeds : (∃ a, request.2 = .ok a) ↔ ∃ b, tool.2 = .ok b
  database : request.1.database = tool.1.database
  jobs : request.1.jobs = tool.1.jobs
  refused : (¬ ∃ a, request.2 = .ok a) →
    request.1.database = server.database ∧ request.1.jobs = server.jobs

def IsComplete (timer : Timer) : Prop :=
  (∃ dueAt, timer.dueAt = some dueAt) ∧
    ∃ durationSeconds, timer.durationSeconds = some durationSeconds ∧ 0 < durationSeconds

/-- Stored countdowns are as `create_countdown_timer` makes them. -/
def CountdownsComplete (db : Database) : Prop :=
  ∀ timer ∈ db.timers, timer.kind = .countdown → IsComplete timer

section Outcomes

variable {α β : Type} {server server' : Server}

theorem agree_of_refused {error : RequestError} {error' : PyError} :
    Agree server ((server, .error error) : Server × Except RequestError α)
      ((server, .error error') : Server × Except PyError β) where
  succeeds := by simp
  database := rfl
  jobs := rfl
  refused _ := ⟨rfl, rfl⟩

theorem agree_of_done {request : Server × Except RequestError α}
    {tool : Server × Except PyError β} {a : α} {b : β} (hrequest : request.2 = .ok a)
    (htool : tool.2 = .ok b) (hdatabase : request.1.database = tool.1.database)
    (hjobs : request.1.jobs = tool.1.jobs) : Agree server request tool where
  succeeds := ⟨fun _ => ⟨b, htool⟩, fun _ => ⟨a, hrequest⟩⟩
  database := hdatabase
  jobs := hjobs
  refused h := absurd ⟨a, hrequest⟩ h

end Outcomes

variable {u : PyData} {server : Server} {timer row : Timer} {kind : TimerKind} {rowId : Int}
variable {db : Database} {items : List Timer} {label : Text}

theorem getTimer_eq_some_iff :
    getTimer rowId db = some row ↔ row ∈ db.timers ∧ row.id = rowId :=
  Table.find?_eq_some_iff

theorem filter_id_of_mem (hitems : ListsKind kind db items) (hmem : row ∈ db.timers)
    (hkind : row.kind = kind) : (items.filter fun item => item.id = row.id) = [row] := by
  rw [eq_singleton_iff (hitems.nodup.filter _)]
  intro timer
  rw [List.mem_filter, hitems.mem, decide_eq_true_eq]
  constructor
  · rintro ⟨⟨htimer, -⟩, hid⟩
    exact Table.eq_of_key htimer hmem hid
  · rintro rfl
    exact ⟨⟨hmem, hkind⟩, rfl⟩

theorem filter_id_of_none (hitems : ListsKind kind db items)
    (hnone : ∀ row ∈ db.timers, row.kind = kind → row.id ≠ rowId) :
    (items.filter fun item => item.id = rowId) = [] := by
  rw [List.filter_eq_nil_iff]
  intro item hitem
  obtain ⟨hmem, hkind⟩ := (hitems.mem item).mp hitem
  rw [decide_eq_true_eq]
  exact hnone item hmem hkind

theorem normalizeLabel_eq_ok_iff {raw : Text} {default : String} :
    normalizeLabel raw default = .ok label ↔ normalizeTimerLabel raw default = .ok label := by
  rw [normalizeLabel]
  cases normalizeTimerLabel raw default with
  | ok other => simp
  | error message => simp

/-- Among the arguments of a rename by id the target is the row with the id. -/
theorem isTarget_int_iff :
    IsTarget u kind (some (.int rowId)) [] db row ↔
      row ∈ db.timers ∧ row.kind = kind ∧ row.id = rowId := by
  have hgiven : givenId (some (.int rowId)) = some (.int rowId) := rfl
  simp only [IsTarget, hgiven, Option.some.injEq, exists_eq_left', PyData.intOfScalar,
    Except.ok.injEq, reduceCtorEq, false_and, or_false, eq_comm (a := rowId)]

section Rename

variable {α : Type} {default : String} {notFound : Text} {bodyLabel : Text}
variable {serializeById : Int → Server → Server × Option α}

/-- The row and the label that a PATCH request asks for. -/
def Renameable (kind : TimerKind) (default : String) (rowId : Int) (bodyLabel : Text)
    (db : Database) (row : Timer) (label : Text) : Prop :=
  (row ∈ db.timers ∧ row.kind = kind ∧ row.id = rowId) ∧
    normalizeTimerLabel bodyLabel default = .ok label

theorem patchRow_of_renameable
    (h : Renameable kind default rowId bodyLabel server.database row label) {payload : α}
    (hserialize : serializeById rowId (relabeled row label server) =
      ((relabeled row label server).tick, some payload)) :
    patchRow kind default notFound serializeById rowId bodyLabel server =
      ((relabeled row label server).tick, .ok payload) := by
  obtain ⟨⟨hmem, hkind, rfl⟩, hlabel⟩ := h
  have hget : getTimer row.id server.database = some row := getTimer_eq_some_iff.mpr ⟨hmem, rfl⟩
  rw [patchRow, hget]
  simp only [hkind, ne_eq, not_true_eq_false, if_false, hlabel, updateTimerLabel_of_mem hmem,
    hserialize]

theorem patchRow_of_not_renameable
    (h : ¬ ∃ row label, Renameable kind default rowId bodyLabel server.database row label) :
    ∃ error, patchRow kind default notFound serializeById rowId bodyLabel server =
      (server, .error error) := by
  rw [patchRow]
  cases hget : getTimer rowId server.database with
  | none => exact ⟨_, rfl⟩
  | some row =>
      obtain ⟨hmem, hid⟩ := getTimer_eq_some_iff.mp hget
      by_cases hkind : row.kind = kind
      · cases hlabel : normalizeTimerLabel bodyLabel default with
        | ok label => exact absurd ⟨row, label, ⟨hmem, hkind, hid⟩, hlabel⟩ h
        | error message =>
            simp only [hkind, ne_eq, not_true_eq_false, if_false]
            exact ⟨_, rfl⟩
      · simp only [hkind, ne_eq, not_false_eq_true, if_true]
        exact ⟨_, rfl⟩

theorem agree_renameRow {items : Database → List Timer} {idName itemNoun : String} {args : PyDict}
    (hitems : ListsKind kind server.database (items server.database))
    (hid : args.lookup idName = some (.int rowId)) (hold : textArg args "label" = [])
    (hnew : givenId (args.lookup "new_label") = some (.text bodyLabel))
    (hserialize : ∀ row label, row ∈ server.database.timers → row.kind = kind → row.id = rowId →
      ∃ payload, serializeById rowId (relabeled row label server) =
        ((relabeled row label server).tick, some payload)) :
    Agree server (patchRow kind default notFound serializeById rowId bodyLabel server)
      (renameRow u items idName itemNoun default args server) := by
  have hrenames : Renames u kind idName default args server
      (renameRow u items idName itemNoun default args server) := renames_renameRow hitems
  have hstrip : strip (textArg args "label") = [] := by
    rw [hold]
    rfl
  by_cases h : ∃ row label, Renameable kind default rowId bodyLabel server.database row label
  · obtain ⟨row, label, hrow⟩ := h
    obtain ⟨payload, hpayload⟩ := hserialize row label hrow.1.1 hrow.1.2.1 hrow.1.2.2
    rw [patchRow_of_renameable hrow hpayload]
    generalize renameRow u items idName itemNoun default args server = result at hrenames ⊢
    cases hrenames with
    | renamed target raw newLabel text htarget hraw hlabel =>
        rw [hid, hstrip, isTarget_int_iff] at htarget
        obtain rfl : target = row :=
          Table.eq_of_key htarget.1 hrow.1.1 (htarget.2.2.trans hrow.1.2.2.symm)
        rw [hnew] at hraw
        obtain rfl := Option.some.inj hraw
        rw [normalizeLabel_eq_ok_iff] at hlabel
        obtain rfl : newLabel = label := Except.ok.inj (hlabel.symm.trans hrow.2)
        exact agree_of_done rfl rfl rfl rfl
    | refused message hnone =>
        refine absurd ⟨row, .text bodyLabel, label, ?_, hnew, ?_⟩ hnone
        · rw [hid, hstrip, isTarget_int_iff]
          exact hrow.1
        · exact normalizeLabel_eq_ok_iff.mpr hrow.2
  · obtain ⟨error, herror⟩ : ∃ error, patchRow kind default notFound serializeById rowId
        bodyLabel server = (server, .error error) := patchRow_of_not_renameable h
    rw [herror]
    generalize renameRow u items idName itemNoun default args server = result at hrenames ⊢
    cases hrenames with
    | renamed target raw newLabel text htarget hraw hlabel =>
        rw [hid, hstrip, isTarget_int_iff] at htarget
        rw [hnew] at hraw
        obtain rfl := Option.some.inj hraw
        exact absurd ⟨target, newLabel, htarget, normalizeLabel_eq_ok_iff.mp hlabel⟩ h
    | refused message hnone => exact agree_of_refused

end Rename

theorem exists_payload_of_complete (hmem : timer ∈ server.database.timers)
    (hkind : timer.kind = .countdown) (hcomplete : IsComplete timer) :
    ∃ payload, serializeTimerById timer.id server = (server.tick, some payload) := by
  obtain ⟨⟨dueAt, hdue⟩, durationSeconds, hduration, hpos⟩ := hcomplete
  have hget := getTimer_eq_some_iff.mpr ⟨hmem, rfl⟩
  rw [serializeTimerById, hget]
  simp only [hkind, ne_eq, not_true_eq_false, if_false, serializeCountdown_eq hdue hduration hpos]
  exact ⟨_, rfl⟩

theorem exists_payload_of_stopwatch (hmem : timer ∈ server.database.timers)
    (hkind : timer.kind = .stopwatch) :
    ∃ payload, serializeStopwatchById timer.id server = (server.tick, some payload) := by
  have hget := getTimer_eq_some_iff.mpr ⟨hmem, rfl⟩
  rw [serializeStopwatchById, hget]
  simp only [hkind, ne_eq, not_true_eq_false, if_false]
  exact ⟨_, rfl⟩

/-- A row with a new label is stored where it was. -/
theorem mem_relabeled (hmem : row ∈ server.database.timers) (label : Text) :
    setLabel label row ∈ (relabeled row label server).database.timers := by
  show setLabel label row ∈ server.database.timers.modify row.id (setLabel label) fun _ => rfl
  exact Table.mem_modify.mpr ⟨row, hmem, (if_pos rfl).symm⟩

/-- No row of the kind has the id. -/
def Absent (kind : TimerKind) (rowId : Int) (db : Database) : Prop :=
  ∀ row ∈ db.timers, row.kind = kind → row.id ≠ rowId

theorem exists_row_or_absent (kind : TimerKind) (rowId : Int) (db : Database) :
    (∃ row ∈ db.timers, row.kind = kind ∧ row.id = rowId) ∨ Absent kind rowId db := by
  refine (em _).imp_right fun h => ?_
  intro row hmem hkind hid
  exact h ⟨row, hmem, hkind, hid⟩

theorem removeOfKind_of_mem {remove : Server → Server × Bool}
    (hmem : row ∈ server.database.timers) (hkind : row.kind = kind) :
    removeOfKind kind remove row.id server = remove server := by
  have hget := getTimer_eq_some_iff.mpr ⟨hmem, rfl⟩
  rw [removeOfKind, hget]
  exact if_neg (not_not.mpr hkind)

theorem removeOfKind_of_absent {remove : Server → Server × Bool}
    (habsent : Absent kind rowId server.database) :
    removeOfKind kind remove rowId server = (server, false) := by
  rw [removeOfKind]
  cases hget : getTimer rowId server.database with
  | none => rfl
  | some row =>
      obtain ⟨hmem, hid⟩ := getTimer_eq_some_iff.mp hget
      exact if_pos fun hkind => habsent row hmem hkind hid

theorem deleteTimer_of_mem (hmem : row ∈ server.database.timers) :
    Memory.Repository.deleteTimer row.id server =
      (server.onTimers (server.database.timers.erase row.id), true) := by
  have hget := getTimer_eq_some_iff.mpr ⟨hmem, rfl⟩
  rw [Memory.Repository.deleteTimer, hget]

theorem selectedTimers_int (u : PyData) (timerId : Int) (db : Database) :
    selectedTimers u [("timer_id", .int timerId)] db =
      (activeCountdownTimers db).filter fun timer => timer.id = timerId := by
  refine List.filter_congr fun timer _ => ?_
  exact timerMatchesCancelRequest_int

theorem selectedStopwatches_int (u : PyData) (stopwatchId : Int) (db : Database) :
    selectedStopwatches u [("stopwatch_id", .int stopwatchId)] db =
      (activeStopwatches db).filter fun stopwatch => stopwatch.id = stopwatchId := by
  refine List.filter_congr fun stopwatch _ => ?_
  exact timerMatchesCancelRequest_int

theorem agree_deleteTimer (u : PyData) (timerId : Int) (server : Server) :
    Agree server (Timers.deleteTimer timerId server)
      (cancelTimers u [("timer_id", .int timerId)] server) := by
  have hitems := listsKind_activeCountdownTimers server.database
  simp only [cancelTimers, selectedTimers_int]
  rw [Timers.deleteTimer, deleteRow]
  rcases exists_row_or_absent .countdown timerId server.database with
    ⟨row, hmem, hkind, rfl⟩ | habsent
  · rw [filter_id_of_mem hitems hmem hkind, if_neg (List.cons_ne_nil _ _)]
    have hremoved : removeCountdownTimer row.id server =
        ((unscheduleTimer row.id server).onTimers (server.database.timers.erase row.id), true) := by
      rw [removeCountdownTimer, removeOfKind_of_mem hmem hkind]
      exact deleteTimer_of_mem hmem
    have hlist : removeCountdownTimers [row] server = (removeCountdownTimer row.id server).1 := rfl
    rw [hlist, hremoved]
    exact agree_of_done rfl rfl rfl rfl
  · rw [filter_id_of_none hitems habsent, if_pos rfl, removeCountdownTimer,
      removeOfKind_of_absent habsent]
    exact agree_of_refused

theorem agree_deleteStopwatch (u : PyData) (stopwatchId : Int) (server : Server) :
    Agree server (deleteStopwatch stopwatchId server)
      (stopStopwatches u [("stopwatch_id", .int stopwatchId)] server) := by
  have hitems := listsKind_activeStopwatches server.database
  simp only [stopStopwatches, selectedStopwatches_int]
  rw [deleteStopwatch, deleteRow]
  rcases exists_row_or_absent .stopwatch stopwatchId server.database with
    ⟨row, hmem, hkind, rfl⟩ | habsent
  · rw [filter_id_of_mem hitems hmem hkind, if_neg (List.cons_ne_nil _ _)]
    have hremoved : removeStopwatch row.id server =
        (server.onTimers (server.database.timers.erase row.id), true) := by
      rw [removeStopwatch, removeOfKind_of_mem hmem hkind]
      exact deleteTimer_of_mem hmem
    have hlist : removeStopwatches [row] server = (removeStopwatch row.id server).1 := rfl
    rw [hlist, hremoved]
    exact agree_of_done rfl rfl rfl rfl
  · rw [filter_id_of_none hitems habsent, if_pos rfl, removeStopwatch,
      removeOfKind_of_absent habsent]
    exact agree_of_refused

structure EndpointsAgree (u : PyData) (server : Server) (rowId : Int) (newLabel : Text) :
    Prop where
  patchTimer : Agree server (patchTimer rowId newLabel server)
    (renameTimer u [("timer_id", .int rowId), ("new_label", .text newLabel)] server)
  patchStopwatch : Agree server (patchStopwatch rowId newLabel server)
    (renameStopwatch u [("stopwatch_id", .int rowId), ("new_label", .text newLabel)] server)
  deleteTimer : Agree server (Timers.deleteTimer rowId server)
    (cancelTimers u [("timer_id", .int rowId)] server)
  deleteStopwatch : Agree server (deleteStopwatch rowId server)
    (stopStopwatches u [("stopwatch_id", .int rowId)] server)

theorem endpointsAgree (u : PyData) {server : Server}
    (hcomplete : CountdownsComplete server.database) (rowId : Int) {newLabel : Text}
    (hlabel : newLabel ≠ []) :
    EndpointsAgree u server rowId newLabel := by
  have hgiven : givenId (some (.text newLabel)) = some (.text newLabel) := by
    obtain ⟨c, rest, rfl⟩ := List.exists_cons_of_ne_nil hlabel
    rfl
  refine ⟨?_, ?_, agree_deleteTimer u rowId server, agree_deleteStopwatch u rowId server⟩
  · refine agree_renameRow (listsKind_activeCountdownTimers server.database) rfl rfl hgiven ?_
    rintro row label hmem hkind rfl
    have hpayload := exists_payload_of_complete (mem_relabeled hmem label) hkind
      (hcomplete row hmem hkind)
    exact hpayload
  · refine agree_renameRow (listsKind_activeStopwatches server.database) rfl rfl hgiven ?_
    rintro row label hmem hkind rfl
    have hpayload := exists_payload_of_stopwatch (mem_relabeled hmem label) hkind
    exact hpayload

def teaTimer : Timer where
  id := 1
  label := "Tea".toList
  dueAt := some (minValidTimerStart + 300 * second)
  durationSeconds := some 300
  createdAt := minValidTimerStart

def teaServer : Server :=
  { Server.initial (.stopped minValidTimerStart) with
    database := { Database.empty with timers := Table.empty.put teaTimer } }

theorem endpointsAgree_tea : EndpointsAgree .ascii teaServer 1 "Pasta".toList := by
  refine endpointsAgree .ascii ?_ 1 (by decide)
  intro timer hmem _
  obtain rfl : timer = teaTimer := (Table.mem_put.mp hmem).elim id fun h =>
    absurd h.1 (Table.not_mem_empty timer)
  exact ⟨⟨_, rfl⟩, _, rfl, by decide⟩

end NanoCore.Api.Agreement
