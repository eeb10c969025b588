import NanoCore.Foundation.KeyedTable
import NanoCore.Foundation.Runs
import NanoCore.Runtime.Activity
import Mathlib.Logic.Function.Basic

namespace NanoCore.Scheduler.Health

open NanoCore.Config
open NanoCore.Foundation.KeyedTable
open NanoCore.Foundation.PythonText
open NanoCore.Foundation.Runs
open NanoCore.Runtime.Activity

structure HealthCheckResult where
  name : Text
  ok : Bool
  detail : Text
  deriving DecidableEq, Repr

abbrev Results := Table Text HealthCheckResult HealthCheckResult.name

/-- `_LAST_HEALTH_STATUS`. -/
abbrev HealthStatus := Text → Option Bool

inductive Report where
  | recovered (result : HealthCheckResult)
  /-- The failure shown as the state of the hub. -/
  | failing (result : HealthCheckResult)
  | announced (result : HealthCheckResult)
  deriving DecidableEq, Repr

namespace Report

def result : Report → HealthCheckResult
  | recovered result | failing result | announced result => result

def call : Report → HubCall
  | recovered result =>
      .log "Health check recovered.".toList (some (result.name ++ ": ".toList ++ result.detail))
        "scheduler.health".toList
  | failing result =>
      .error "I detected a health issue.".toList
        (some (result.name ++ ": ".toList ++ result.detail)) "scheduler.health".toList
  | announced result =>
      .announceVoice ("I detected a problem with ".toList ++ result.name ++ ". ".toList ++
        result.detail)

/-- The report tells of a change of the status. -/
def isEdge : Report → Bool
  | failing _ => false
  | _ => true

end Report

/-- What the loop over results without a failure reports about one of them. -/
def recoveryReports (previous : Option Bool) (result : HealthCheckResult) : List Report :=
  if previous = some false then [.recovered result] else []

/-- What the loop over results with a failure reports about one of them. -/
def failureReports (previous : Option Bool) (result : HealthCheckResult) : List Report :=
  if result.ok then []
  else .failing result :: if previous = some false then [] else [.announced result]

def visit (mark : HealthCheckResult → Bool)
    (report : Option Bool → HealthCheckResult → List Report) :
    List HealthCheckResult → HealthStatus → HealthStatus × List Report
  | [], status => (status, [])
  | result :: results, status =>
      let (status', reports) :=
        visit mark report results (Function.update status result.name (some (mark result)))
      (status', report (status result.name) result ++ reports)

structure Monitor where
  status : HealthStatus
  hub : ActivityHub

/-- The job on the results of one run of the checks. -/
def checkSystemHealth (u : PyData) (mode : VoicePlaybackMode) (monitor : Monitor)
    (results : Results) : Monitor × List Report :=
  let (status, reports) :=
    if results.rows.all HealthCheckResult.ok then
      visit (fun _ => true) recoveryReports results.rows monitor.status
    else visit HealthCheckResult.ok failureReports results.rows monitor.status
  (⟨status, monitor.hub.calls u mode (reports.map Report.call)⟩, reports)

/-- What is to be reported about a check: a recovery, or a failure that is new. -/
def edgeReports (previous : Option Bool) (result : HealthCheckResult) : List Report :=
  if result.ok then recoveryReports previous result
  else if previous = some false then [] else [.announced result]

/-- Each check is reported on by its own change alone. -/
def ReportsEdges (previous : HealthStatus) (results : Results) (reports : List Report) : Prop :=
  ∀ name, (reports.filter fun report => report.isEdge && report.result.name = name) =
    ((results.find? name).map (edgeReports (previous name))).getD []

/-- No check recovers in a run in which another fails. -/
def NoRecoveryAmidFailure (previous : HealthStatus) (results : Results) : Prop :=
  results.rows.all HealthCheckResult.ok = true ∨
    ∀ result ∈ results, result.ok = true → previous result.name ≠ some false

section Visit

variable {mark : HealthCheckResult → Bool}
variable {report : Option Bool → HealthCheckResult → List Report}
variable {status : HealthStatus} {results : List HealthCheckResult}

theorem find?_eq_none_of_not_mem {name : Text} (h : name ∉ results.map HealthCheckResult.name) :
    (results.find? fun result => result.name = name) = none := by
  rw [List.find?_eq_none]
  intro result hresult heq
  exact h (List.mem_map.mpr ⟨result, hresult, of_decide_eq_true heq⟩)

theorem visit_snd (hnodup : (results.map HealthCheckResult.name).Nodup) :
    (visit mark report results status).2 =
      results.flatMap fun result => report (status result.name) result := by
  induction results generalizing status with
  | nil => rfl
  | cons first rest ih =>
      rw [List.map_cons, List.nodup_cons] at hnodup
      rw [visit, List.flatMap_cons]
      dsimp only
      rw [ih hnodup.2]
      congr 1
      refine List.flatMap_congr fun result hresult => ?_
      have hne : result.name ≠ first.name := fun heq =>
        hnodup.1 (List.mem_map.mpr ⟨result, hresult, heq⟩)
      rw [Function.update_of_ne hne]

theorem visit_fst (hnodup : (results.map HealthCheckResult.name).Nodup) (name : Text) :
    (visit mark report results status).1 name =
      ((results.find? fun result => result.name = name).map mark).or (status name) := by
  induction results generalizing status with
  | nil => rfl
  | cons first rest ih =>
      rw [List.map_cons, List.nodup_cons] at hnodup
      rw [visit]
      dsimp only
      rw [ih hnodup.2, List.find?_cons]
      by_cases hname : first.name = name
      · rw [find?_eq_none_of_not_mem (hname ▸ hnodup.1), decide_eq_true hname, hname,
          Function.update_self]
        rfl
      · rw [decide_eq_false hname, Function.update_of_ne (Ne.symm hname)]

theorem filter_flatMap_of_name (hnodup : (results.map HealthCheckResult.name).Nodup)
    {reports : HealthCheckResult → List Report}
    (habout : ∀ result, ∀ report ∈ reports result, report.result = result) (name : Text) :
    ((results.flatMap reports).filter fun report => report.isEdge && report.result.name = name) =
      ((results.find? fun result => result.name = name).map fun result =>
        (reports result).filter Report.isEdge).getD [] := by
  have hown (result : HealthCheckResult) (hname : result.name = name) :
      ((reports result).filter fun report => report.isEdge && report.result.name = name) =
        (reports result).filter Report.isEdge := by
    refine List.filter_congr fun report hreport => ?_
    rw [habout result report hreport, hname, decide_eq_true rfl, Bool.and_true]
  have hother (result : HealthCheckResult) (hname : result.name ≠ name) :
      ((reports result).filter fun report => report.isEdge && report.result.name = name) = [] := by
    rw [List.filter_eq_nil_iff]
    intro report hreport
    rw [habout result report hreport, decide_eq_false hname, Bool.and_false]
    exact Bool.false_ne_true
  induction results with
  | nil => rfl
  | cons first rest ih =>
      rw [List.map_cons, List.nodup_cons] at hnodup
      rw [List.flatMap_cons, List.filter_append, ih hnodup.2, List.find?_cons]
      by_cases hname : first.name = name
      · rw [find?_eq_none_of_not_mem (hname ▸ hnodup.1), hown first hname, decide_eq_true hname]
        exact List.append_nil _
      · rw [hother first hname, decide_eq_false hname, List.nil_append]

end Visit

section OneRun

variable {u : PyData} {mode : VoicePlaybackMode} {monitor : Monitor} {results : Results}

theorem recoveryReports_about (previous : Option Bool) (result : HealthCheckResult) :
    ∀ report ∈ recoveryReports previous result, report.result = result := by
  rw [recoveryReports]
  split
  · exact List.forall_mem_singleton.mpr rfl
  · exact fun report h => absurd h List.not_mem_nil

theorem failureReports_about (previous : Option Bool) (result : HealthCheckResult) :
    ∀ report ∈ failureReports previous result, report.result = result := by
  rw [failureReports]
  split
  · exact fun report h => absurd h List.not_mem_nil
  · refine List.forall_mem_cons.mpr ⟨rfl, ?_⟩
    split
    · exact fun report h => absurd h List.not_mem_nil
    · exact List.forall_mem_singleton.mpr rfl

theorem filter_recoveryReports (previous : Option Bool) (result : HealthCheckResult) :
    (recoveryReports previous result).filter Report.isEdge = recoveryReports previous result := by
  rw [recoveryReports]
  split <;> rfl

theorem filter_failureReports (previous : Option Bool) (result : HealthCheckResult) :
    (failureReports previous result).filter Report.isEdge =
      if result.ok then [] else if previous = some false then [] else [.announced result] := by
  rw [failureReports]
  split
  · rfl
  · split <;> rfl

theorem checkSystemHealth_status (name : Text) :
    (checkSystemHealth u mode monitor results).1.status name =
      ((results.find? name).map HealthCheckResult.ok).or (monitor.status name) := by
  rw [checkSystemHealth]
  by_cases hall : results.rows.all HealthCheckResult.ok = true
  · rw [if_pos hall]
    dsimp only
    rw [visit_fst results.keys_nodup, ← Table.find?]
    congr 1
    refine Option.map_congr fun result hresult => ?_
    exact (List.all_eq_true.mp hall result (List.mem_of_find?_eq_some hresult)).symm
  · rw [if_neg hall]
    dsimp only
    rw [visit_fst results.keys_nodup, ← Table.find?]

theorem edgeReports_of_ok {previous : Option Bool} {result : HealthCheckResult}
    (hok : result.ok = true) : edgeReports previous result = recoveryReports previous result := by
  rw [edgeReports, if_pos hok]

theorem reportsEdges_recoveries (hall : results.rows.all HealthCheckResult.ok = true) :
    ReportsEdges monitor.status results
      (visit (fun _ => true) recoveryReports results.rows monitor.status).2 := by
  intro name
  rw [visit_snd results.keys_nodup, filter_flatMap_of_name results.keys_nodup
    fun result => recoveryReports_about _ result]
  change ((results.find? name).map _).getD [] = _
  cases hfound : results.find? name with
  | none => rfl
  | some result =>
      obtain ⟨hmem, hname⟩ := Table.find?_eq_some_iff.mp hfound
      rw [Option.map_some, Option.map_some, Option.getD_some, Option.getD_some,
        filter_recoveryReports, edgeReports_of_ok (List.all_eq_true.mp hall result hmem), hname]

theorem reportsEdges_failures_iff :
    ReportsEdges monitor.status results
        (visit HealthCheckResult.ok failureReports results.rows monitor.status).2 ↔
      ∀ result ∈ results, result.ok = true → monitor.status result.name ≠ some false := by
  have hreports (name : Text) : ((visit HealthCheckResult.ok failureReports results.rows
      monitor.status).2.filter fun report => report.isEdge && report.result.name = name) =
        ((results.find? name).map fun result =>
          (failureReports (monitor.status result.name) result).filter Report.isEdge).getD [] := by
    rw [visit_snd results.keys_nodup, filter_flatMap_of_name results.keys_nodup
      fun result => failureReports_about _ result]
    rfl
  constructor
  · intro hedges result hmem hok hfailing
    have hown := hedges result.name
    rw [hreports, Table.find?_key_of_mem hmem, Option.map_some, Option.map_some,
      filter_failureReports, if_pos hok, edgeReports_of_ok hok, recoveryReports,
      if_pos hfailing] at hown
    cases hown
  · intro hsteady name
    rw [hreports]
    cases hfound : results.find? name with
    | none => rfl
    | some result =>
        obtain ⟨hmem, hname⟩ := Table.find?_eq_some_iff.mp hfound
        rw [Option.map_some, Option.map_some, Option.getD_some, Option.getD_some,
          filter_failureReports, edgeReports, hname]
        by_cases hok : result.ok = true
        · rw [if_pos hok, if_pos hok, recoveryReports,
            if_neg (hname ▸ hsteady result hmem hok)]
        · rw [if_neg hok, if_neg hok]

theorem reportsEdges_checkSystemHealth_iff :
    ReportsEdges monitor.status results (checkSystemHealth u mode monitor results).2 ↔
      NoRecoveryAmidFailure monitor.status results := by
  rw [checkSystemHealth, NoRecoveryAmidFailure]
  by_cases hall : results.rows.all HealthCheckResult.ok = true
  · rw [if_pos hall]
    exact iff_of_true (reportsEdges_recoveries hall) (Or.inl hall)
  · rw [if_neg hall, or_iff_right hall]
    exact reportsEdges_failures_iff

end OneRun

/-- What the runs so far have last told about a check. -/
def lastStatus (runs : List Results) (name : Text) : Option Bool :=
  runs.foldl (fun status results =>
    ((results.find? name).map HealthCheckResult.ok).or status) none

def start : Monitor := ⟨fun _ => none, (ActivityHub.initial 100).1⟩

def step (u : PyData) (mode : VoicePlaybackMode) (monitor : Monitor) (results : Results) :
    Monitor :=
  (checkSystemHealth u mode monitor results).1

section Runs

variable {u : PyData} {mode : VoicePlaybackMode}

/-- The status memory holds what the runs have told. -/
theorem status_stateAt (runs : List Results) (k : Nat) :
    (stateAt (step u mode) start runs k).status = lastStatus (runs.take k) := by
  induction k with
  | zero => rfl
  | succ k ih =>
      cases hresults : runs[k]? with
      | none =>
          rw [stateAt_succ_of_none hresults, ih, List.take_add_one, hresults, Option.toList_none,
            List.append_nil]
      | some results =>
          funext name
          rw [stateAt_succ hresults, step, checkSystemHealth_status, ih, lastStatus, lastStatus,
            List.take_add_one, hresults, Option.toList_some, List.foldl_append]
          rfl

/-- Over any runs of the checks, each check is reported on by its own changes
exactly when none recovers in a run in which another fails. -/
theorem reportsEdges_iff (u : PyData) (mode : VoicePlaybackMode) (runs : List Results) :
    (∀ k results, runs[k]? = some results →
      ReportsEdges (lastStatus (runs.take k)) results
        (checkSystemHealth u mode (stateAt (step u mode) start runs k) results).2) ↔
      ∀ k results, runs[k]? = some results →
        NoRecoveryAmidFailure (lastStatus (runs.take k)) results := by
  have hone (k : Nat) (results : Results) :
      ReportsEdges (lastStatus (runs.take k)) results
          (checkSystemHealth u mode (stateAt (step u mode) start runs k) results).2 ↔
        NoRecoveryAmidFailure (lastStatus (runs.take k)) results := by
    rw [← status_stateAt (u := u)]
    exact reportsEdges_checkSystemHealth_iff
  exact forall₃_congr fun k results _ => hone k results

end Runs

def voiceAndDisk (voice disk : Bool) : Results where
  rows := [⟨"voice".toList, voice, "The voice.".toList⟩, ⟨"disk".toList, disk, "The disk.".toList⟩]
  keys_nodup := (by decide : ["voice".toList, "disk".toList].Nodup)

/-- The voice recovers when the disk starts to fail. -/
theorem not_reportsEdges_swapped_failures :
    ¬ ∀ (u : PyData) (mode : VoicePlaybackMode) (runs : List Results) (k : Nat)
      (results : Results), runs[k]? = some results →
      ReportsEdges (lastStatus (runs.take k)) results
        (checkSystemHealth u mode (stateAt (step u mode) start runs k) results).2 := by
  intro h
  have hvoice := h .ascii .both [voiceAndDisk false true, voiceAndDisk true false] 1 _ rfl
    "voice".toList
  revert hvoice
  decide +kernel

end NanoCore.Scheduler.Health
