import NanoCore.Assistant.ResponsePolish
import NanoCore.Foundation.ExceptionLoops
import NanoCore.Foundation.JsonWriters
import NanoCore.Llm.Providers
import NanoCore.Scheduler.Health

namespace NanoCore.Health.Checks

open NanoCore.Assistant.Guard.Rewriter
open NanoCore.Assistant.ResponseComposer
open NanoCore.Assistant.ResponsePolish
open NanoCore.Assistant.Sources
open NanoCore.Config
open NanoCore.Foundation.Effects
open NanoCore.Foundation.ExceptionLoops
open NanoCore.Foundation.JsonLoads
open NanoCore.Foundation.JsonRepr
open NanoCore.Foundation.JsonText
open NanoCore.Foundation.JsonWriters
open NanoCore.Foundation.PythonText
open NanoCore.Llm.Providers
open NanoCore.Scheduler.Health
open NanoCore.System.Specs (roundedQuotient)

inductive SqliteFile where
  /-- `get_sqlite_path` gives none. -/
  | notSqlite
  | missing
  | ofSize (bytes : Nat)
  deriving DecidableEq, Repr

/-- What the checks find out. -/
structure Machine where
  /-- The query of a chat message, or the text of its exception. -/
  database : Except Text Unit
  sqliteFile : SqliteFile
  /-- The text of the exception of `_get_glados_tts`, if it raises. -/
  voiceError : Option Text

structure HealthSettings where
  llmProvider : LlmProvider := .local
  llmModelPath : Text := "./models/qwen2.5-1.5b-instruct-q5_k_m.gguf".toList
  llmBaseUrl : Text := "http://localhost:11434".toList
  databaseSizeWarningBytes : Nat := 50000000
  healthTestFailureEnabled : Bool := false
  healthTestFailureDetail : Text := "Intentional health-check failure for testing.".toList

/-- `_format_bytes`, with the exact quotients that floats have below `2^53`. -/
def formatSize (sizeBytes : Nat) : Text :=
  if sizeBytes < 1024 then Nat.toDigits 10 sizeBytes ++ " bytes".toList
  else
    let unit := if sizeBytes < 1024 * 1024 then 1024 else 1024 * 1024
    let tenths := roundedQuotient (10 * sizeBytes) unit
    intText (tenths / 10) ++ '.' :: intText (tenths % 10) ++
      (if sizeBytes < 1024 * 1024 then " KB" else " MB").toList

def databaseHealthCheck (machine : Machine) : HealthCheckResult :=
  match machine.database with
  | .error e => ⟨"database".toList, false, "Database check failed: ".toList ++ e⟩
  | .ok () => ⟨"database".toList, true, "Database is reachable.".toList⟩

def databaseSizeHealthCheck (settings : HealthSettings) (machine : Machine) :
    HealthCheckResult :=
  let name := "database_size".toList
  match machine.sqliteFile with
  | .notSqlite => ⟨name, true, "Database size check is only available for SQLite.".toList⟩
  | .missing => ⟨name, true, "Database file does not exist yet.".toList⟩
  | .ofSize sizeBytes =>
      let threshold := settings.databaseSizeWarningBytes
      if threshold ≤ sizeBytes then
        ⟨name, false, "Database size is ".toList ++ formatSize sizeBytes ++
          ", which exceeds the warning threshold of ".toList ++ formatSize threshold ++
          ".".toList⟩
      else
        ⟨name, true, "Database size is ".toList ++ formatSize sizeBytes ++
          ", below the warning threshold of ".toList ++ formatSize threshold ++ ".".toList⟩

/-- `GladosVoiceService.status` and the check that reads it. -/
def voiceHealthCheck (machine : Machine) : HealthCheckResult :=
  match machine.voiceError with
  | some e => ⟨"voice".toList, false, e⟩
  | none => ⟨"voice".toList, true, "GLaDOS voice is ready.".toList⟩

def providerName : LlmProvider → String
  | .local => "local"
  | .auto => "auto"
  | .ollama => "ollama"
  | .llamaCpp => "llama_cpp"
  | .llamaCppServer => "llama_cpp_server"

/-- The provider is asked over the network alone. -/
def isRemote : LlmProvider → Bool
  | .ollama | .llamaCpp | .llamaCppServer => true
  | .local | .auto => false

def llmHealthCheck (settings : HealthSettings) : HealthCheckResult :=
  if settings.llmProvider = .local && settings.llmModelPath.isEmpty then
    ⟨"llm".toList, false, "Local model path is not configured.".toList⟩
  else if isRemote settings.llmProvider && settings.llmBaseUrl.isEmpty then
    ⟨"llm".toList, false, "LLM base URL is not configured.".toList⟩
  else
    ⟨"llm".toList, true,
      ("LLM provider " ++ providerName settings.llmProvider ++ " is configured.").toList⟩

def testFailureHealthCheck (settings : HealthSettings) : HealthCheckResult :=
  ⟨"test_failure".toList, false, settings.healthTestFailureDetail⟩

def runHealthChecks (settings : HealthSettings) (machine : Machine) : List HealthCheckResult :=
  [databaseHealthCheck machine, databaseSizeHealthCheck settings machine,
    voiceHealthCheck machine, llmHealthCheck settings] ++
  if settings.healthTestFailureEnabled then [testFailureHealthCheck settings] else []

def statusText (ok : Bool) : Text := (if ok then "ok" else "error").toList

structure HealthPayload where
  status : Text
  checks : List HealthCheckResult

/-- `GET /api/health`. -/
def health (settings : HealthSettings) (machine : Machine) : HealthPayload :=
  let checks := runHealthChecks settings machine
  ⟨statusText (checks.all HealthCheckResult.ok), checks⟩

def checkJson (result : HealthCheckResult) : Json :=
  .obj [("name".toList, .str result.name), ("status".toList, .str (statusText result.ok)),
    ("detail".toList, .str result.detail)]

def reportJson (overall : Text) (results : List HealthCheckResult) : Json :=
  .obj [("overall".toList, .str overall), ("checks".toList, .arr (results.map checkJson))]

/-- `_check_health`, the tool. -/
def checkHealth (results : List HealthCheckResult) : Text :=
  writeWith (.indented 2) 0
    (reportJson
      (if results.isEmpty then "unknown".toList else statusText (results.all HealthCheckResult.ok))
      results)

/-- The sentence about a check that fails. -/
def failingSentence (result : HealthCheckResult) : Text :=
  if strip result.detail = [] then
    "My ".toList ++ result.name ++ " check is failing.".toList
  else
    "My ".toList ++ result.name ++ " check is failing: ".toList ++ strip result.detail

def failing (results : List HealthCheckResult) : List HealthCheckResult :=
  results.filter fun result => !result.ok

def clearMessage : Text := "My diagnostics are clear. No issues were found.".toList

def noChecksMessage : Text := "My diagnostics returned no checks to report.".toList

/-- What the assistant says of results. -/
def healthSummary (results : List HealthCheckResult) : Text :=
  if results = [] then noChecksMessage
  else if (failing results).isEmpty then clearMessage
  else joinWords ((failing results).map failingSentence)

section Compose

variable {ω : Type} (u : PyData) (parts : Parts ω)

theorem readable_reportJson (readFloat : ReadFloat) (overall : Text)
    (results : List HealthCheckResult) : Readable readFloat (reportJson overall results) := by
  refine .obj (by decide : ["overall".toList, "checks".toList].Nodup) ?_
  refine List.forall_mem_cons.mpr ⟨.str overall, List.forall_mem_singleton.mpr (.arr ?_)⟩
  intro check hcheck
  obtain ⟨result, -, rfl⟩ := List.mem_map.mp hcheck
  refine .obj (by decide : ["name".toList, "status".toList, "detail".toList].Nodup) ?_
  exact List.forall_mem_cons.mpr ⟨.str _, List.forall_mem_cons.mpr ⟨.str _,
    List.forall_mem_singleton.mpr (.str _)⟩⟩

theorem loads_checkHealth (results : List HealthCheckResult) : ∃ overall,
    loads parts.readFloat (checkHealth results) = .ok (reportJson overall results) :=
  ⟨_, loads_writeWith (Style.indented_lawful 2) (readable_reportJson parts.readFloat _ results) 0⟩

theorem lower_statusText (ok : Bool) : u.lower (statusText ok) = statusText ok := by
  have hplain : (statusText ok).all
      (fun c => c.toNat < 128 && c.toLower == c && c != '\u03a3') = true := by
    cases ok with
    | true => decide +kernel
    | false => decide +kernel
  refine lowerIn_eq_self u fun c hc => ?_
  have hc' := List.all_eq_true.mp hplain c hc
  rw [Bool.and_eq_true, Bool.and_eq_true, decide_eq_true_iff, beq_iff_eq, bne_iff_ne] at hc'
  obtain ⟨⟨hascii, hlower⟩, hsigma⟩ := hc'
  rw [u.lowerOf_ascii c hascii, hlower]
  exact ⟨rfl, hsigma⟩

theorem isFailing_checkJson (result : HealthCheckResult) :
    isFailing u parts (checkJson result) = .ok !result.ok := by
  have hstatus : isFailing u parts (checkJson result) =
      .ok (u.lower (statusText result.ok) != "ok".toList) := rfl
  rw [hstatus, lower_statusText]
  cases result.ok <;> rfl

theorem failingLine_checkJson (result : HealthCheckResult) :
    failingLine parts (checkJson result) = .ok (failingSentence result) := by
  have hline : failingLine parts (checkJson result) =
      (if strip result.detail = [] then
        .ok ("My ".toList ++ result.name ++ " check is failing.".toList)
      else .ok ("My ".toList ++ result.name ++ " check is failing: ".toList ++
        strip result.detail) : Except PyError Text) := rfl
  rw [hline, failingSentence]
  split <;> rfl

theorem composeHealthResult_checkHealth (results : List HealthCheckResult) :
    composeHealthResult u parts (checkHealth results) = .ok (healthSummary results) := by
  obtain ⟨overall, hloads⟩ := loads_checkHealth parts results
  have hfailing : (results.map checkJson).filterM (isFailing u parts) =
      .ok ((failing results).map checkJson) :=
    filterM_map_of_forall fun result _ => isFailing_checkJson u parts result
  have hlines : ((failing results).map checkJson).mapM (failingLine parts) =
      .ok ((failing results).map failingSentence) := by
    rw [List.mapM_map]
    exact mapM_of_forall fun result _ => failingLine_checkJson parts result
  rw [composeHealthResult, hloads, healthSummary]
  cases results with
  | nil => rfl
  | cons first rest =>
      rw [if_neg (List.cons_ne_nil first rest)]
      change (do
        let failingChecks ← ((first :: rest).map checkJson).filterM (isFailing u parts)
        if failingChecks.isEmpty then return clearMessage
        return joinWords (← failingChecks.mapM (failingLine parts)) : Except PyError Text) = _
      rw [hfailing]
      change (if ((failing (first :: rest)).map checkJson).isEmpty then return clearMessage
        else do return joinWords (← ((failing (first :: rest)).map checkJson).mapM
          (failingLine parts)) : Except PyError Text) = _
      rw [List.isEmpty_map, hlines]
      split <;> rfl

end Compose

theorem names_runHealthChecks (settings : HealthSettings) (machine : Machine) :
    ((runHealthChecks settings machine).map HealthCheckResult.name).Sublist
      ["database".toList, "database_size".toList, "voice".toList, "llm".toList,
        "test_failure".toList] := by
  have hdatabase : (databaseHealthCheck machine).name = "database".toList := by
    rw [databaseHealthCheck]
    split <;> rfl
  have hsize : (databaseSizeHealthCheck settings machine).name = "database_size".toList := by
    rw [databaseSizeHealthCheck]
    dsimp only
    split
    · rfl
    · rfl
    · split <;> rfl
  have hvoice : (voiceHealthCheck machine).name = "voice".toList := by
    rw [voiceHealthCheck]
    split <;> rfl
  have hllm : (llmHealthCheck settings).name = "llm".toList := by
    rw [llmHealthCheck]
    split
    · rfl
    · split <;> rfl
  rw [runHealthChecks, List.map_append, List.map_cons, List.map_cons, List.map_cons,
    List.map_cons, List.map_nil, hdatabase, hsize, hvoice, hllm]
  refine List.Sublist.append_left ?_ _
  split
  · exact List.Sublist.refl _
  · exact List.nil_sublist _

def resultsOf (settings : HealthSettings) (machine : Machine) : Results where
  rows := runHealthChecks settings machine
  keys_nodup := (by decide : ["database".toList, "database_size".toList, "voice".toList,
    "llm".toList, "test_failure".toList].Nodup).sublist (names_runHealthChecks settings machine)

/-- The check that a report announces. -/
def announcedCheck : Report → Option HealthCheckResult
  | .announced result => some result
  | _ => none

section Announced

variable {u : PyData} {mode : VoicePlaybackMode} {monitor : Monitor} {results : Results}

theorem announced_recoveryReports (previous : Option Bool) (result : HealthCheckResult) :
    (recoveryReports previous result).filterMap announcedCheck = [] := by
  rw [recoveryReports]
  split <;> rfl

theorem announced_failureReports (previous : Option Bool) (result : HealthCheckResult) :
    (failureReports previous result).filterMap announcedCheck =
      if !result.ok && previous != some false then [result] else [] := by
  rw [failureReports]
  cases result.ok with
  | true => rfl
  | false =>
      rcases previous with _ | _ | _ <;> rfl

theorem flatMap_singleton_if {α : Type} (p : α → Bool) (values : List α) :
    values.flatMap (fun a => if p a then [a] else []) = values.filter p := by
  induction values with
  | nil => rfl
  | cons a values ih =>
      rw [List.flatMap_cons, ih]
      cases hp : p a with
      | true => rw [List.filter_cons_of_pos hp, if_pos rfl, List.singleton_append]
      | false =>
          rw [List.filter_cons_of_neg (Bool.eq_false_iff.mp hp), if_neg Bool.false_ne_true,
            List.nil_append]

theorem announced_checkSystemHealth :
    (checkSystemHealth u mode monitor results).2.filterMap announcedCheck =
      (failing results.rows).filter fun result => monitor.status result.name != some false := by
  rw [checkSystemHealth, failing, List.filter_filter]
  by_cases hall : results.rows.all HealthCheckResult.ok = true
  · rw [if_pos hall]
    dsimp only
    rw [visit_snd results.keys_nodup, List.filterMap_flatMap]
    simp only [announced_recoveryReports]
    rw [List.flatMap_eq_nil_iff.mpr fun _ _ => rfl]
    refine (List.filter_eq_nil_iff.mpr fun result hresult => ?_).symm
    rw [List.all_eq_true.mp hall result hresult, Bool.not_true, Bool.and_false]
    exact Bool.false_ne_true
  · rw [if_neg hall]
    dsimp only
    rw [visit_snd results.keys_nodup, List.filterMap_flatMap]
    simp only [announced_failureReports]
    rw [flatMap_singleton_if]
    exact List.filter_congr fun result _ => Bool.and_comm _ _

end Announced

/-- What the assistant has to say of the checks that the API lists. -/
def healthReply (settings : HealthSettings) (machine : Machine) : Text :=
  if (health settings machine).status = "ok".toList then clearMessage
  else joinWords ((failing (health settings machine).checks).map failingSentence)

theorem health_status_iff (settings : HealthSettings) (machine : Machine) :
    (health settings machine).status = "ok".toList ↔
      failing (health settings machine).checks = [] := by
  have hok (ok : Bool) : statusText ok = "ok".toList ↔ ok = true := by
    cases ok with
    | true => exact ⟨fun _ => rfl, fun _ => rfl⟩
    | false => decide
  rw [failing, List.filter_eq_nil_iff, health, hok, List.all_eq_true]
  refine forall₂_congr fun result _ => ?_
  cases result.ok <;> decide

theorem healthSummary_eq (settings : HealthSettings) (machine : Machine) :
    healthSummary (runHealthChecks settings machine) = healthReply settings machine := by
  have hchecked : runHealthChecks settings machine ≠ [] := List.cons_ne_nil _ _
  have hchecks : (health settings machine).checks = runHealthChecks settings machine := rfl
  have hstatus := health_status_iff settings machine
  rw [healthSummary, if_neg hchecked, healthReply]
  rw [hchecks] at hstatus ⊢
  by_cases hclear : (health settings machine).status = "ok".toList
  · rw [if_pos hclear, hstatus.mp hclear]
    rfl
  · rw [if_neg hclear, if_neg fun hempty => hclear (hstatus.mpr (List.isEmpty_iff.mp hempty))]

/-- The API, the assistant and the scheduler tell of the same checks: the status is `ok`
exactly when nothing is said to fail, and what the composed text names as failing is what the
API lists and what the scheduler announces, apart from what it knew of.  The composed text is
the reply unless the guard finds a problem in it. -/
theorem healthReports (settings : HealthSettings) (machine : Machine) {ω : Type} (u : PyData)
    (parts : Parts ω) (mode : VoicePlaybackMode) (monitor : Monitor) (request : Request) :
    let source := toolSource .toolResult request "check_health"
      (checkHealth (runHealthChecks settings machine)) false
    ((health settings machine).status = "ok".toList ↔
      failing (health settings machine).checks = []) ∧
    compose u parts source = pure (healthReply settings machine) ∧
    (Effect.Gives [] (collectProblems u parts source (healthReply settings machine)) →
      Effect.Gives (healthReply settings machine) (finalText u parts source)) ∧
    (checkSystemHealth u mode monitor (resultsOf settings machine)).2.filterMap announcedCheck =
      (failing (health settings machine).checks).filter
        fun result => monitor.status result.name != some false := by
  intro source
  have hcompose : compose u parts source = pure (healthReply settings machine) := by
    have hhealth : compose u parts source = Effect.ofExcept (composeHealthResult u parts
        (checkHealth (runHealthChecks settings machine))) := rfl
    rw [hhealth, composeHealthResult_checkHealth, healthSummary_eq]
    rfl
  refine ⟨health_status_iff settings machine, hcompose, ?_, announced_checkSystemHealth⟩
  have hkind : source.kind ≠ .confirmation :=
    (by decide : ResponseKind.toolResult ≠ .confirmation)
  have hcomposed : Effect.Gives (healthReply settings machine) (compose u parts source) := by
    rw [hcompose]
    exact Effect.gives_pure _
  exact gives_finalText_of_aligned hkind rfl hcomposed

end NanoCore.Health.Checks
