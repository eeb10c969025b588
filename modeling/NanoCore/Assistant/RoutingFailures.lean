import NanoCore.Assistant.AgentRouter
import NanoCore.Foundation.Exceptions

/-!
The messages for which `AgentRouter.decide` raises: `int` refuses more than 4300
digits, and `urlparse` a network location with a stray bracket.
-/

namespace NanoCore.Assistant.RoutingFailures

open NanoCore.Foundation.Exceptions
open NanoCore.Foundation.PythonRegex
open NanoCore.Foundation.PythonText
open NanoCore.Foundation.Regex
open NanoCore.Foundation.RegexSearch
open NanoCore.Foundation.UrlSplit
open NanoCore.Assistant.AgentRouter
open NanoCore.Assistant.Pending
open NanoCore.Assistant.Rules.Intents
open NanoCore.Common.Duration
open NanoCore.Integrations.GoogleDriveIds
open NanoCore.Memory.Models
open NanoCore.Timers.Parsing
open NanoCore.Tools.Registry

section Conditions

variable (u : PyData)

def tooManyDigits (digits : Text) : Bool := maxIntDigits < digits.length

def longId (found : Option (Cursor Char)) (idGroup : String) : Bool :=
  found.any fun found => tooManyDigits (groupText found.groups idGroup)

def longRenameId (byIdQuoted byIdUnquoted : Regex) (idGroup : String) (message : Text) : Bool :=
  let normalized := normalizeRenameCommandMessage message
  longId ((matchPrefix byIdQuoted normalized).or (matchPrefix byIdUnquoted normalized)) idGroup

def longTimerRenameId : Text → Bool :=
  longRenameId (renameTimerByIdQuotedRe u) (renameTimerByIdUnquotedRe u) "timer_id"

def longStopwatchRenameId : Text → Bool :=
  longRenameId (renameStopwatchByIdQuotedRe u) (renameStopwatchByIdUnquotedRe u) "stopwatch_id"

def longTimerCancelId (message : Text) : Bool :=
  longId (matchPrefix (cancelTimerByIdRe u) (normalizeRenameCommandMessage message)) "timer_id"

def longStopwatchStopId (message : Text) : Bool :=
  longId (matchPrefix (stopStopwatchByIdRe u)
    (normalizeStopwatchSpelling u (normalizeRenameCommandMessage message))) "stopwatch_id"

def longDuration (message : Text) : Bool :=
  (findAll (digitDurationPattern u) (u.lower message)).any fun found =>
    (normalizeUnit (groupText found.groups "2")).isSome &&
      tooManyDigits (groupText found.groups "1")

/-- A text that is no id and has a network location that `urlparse` refuses. -/
def unreadableReference (raw : Text) : Bool :=
  (matchPrefix bareFileId (strip raw)).isNone && (netlocOf (strip raw)).any (badNetloc u)

/-- The first line, or the message where that line holds no reference. -/
def unreadableDriveLink (message : Text) : Bool :=
  match nonBlankLines (strip message) with
  | line :: _ =>
      unreadableReference u line ||
        (tryParseDriveFileId u line = .ok none && unreadableReference u (strip message))
  | [] => unreadableReference u (strip message)

/-- The tools whose tests raise. -/
def FailsToMatch (message : Text) (toolName : String) : Prop :=
  (toolName = "rename_timer" ∧ longTimerRenameId u message = true) ∨
    (toolName = "rename_stopwatch" ∧ longStopwatchRenameId u message = true) ∨
    (toolName = "read_google_drive_file" ∧ unreadableDriveLink u message = true)

def toolsBeforeDrive : List ToolSpec :=
  listTools.takeWhile fun tool => tool.name != "read_google_drive_file"

/-- No route for fresh messages takes the message before its tools are tried. -/
structure ReachesToolIntents (message : Text) : Prop where
  startStopwatch : isStopwatchStartRequest u message = false
  timerDuration : needsTimerDuration u message = .ok false
  startTimer : isTimerStartRequest u message = false
  wipe : needsWipeConfirmation u message = false
  serviceRestart : needsServiceRestartConfirmation u message = false
  update : needsUpdateConfirmation u message = false
  reboot : needsRebootConfirmation u message = false
  healthCheck : isHealthCheckRequest u message = false
  systemAnalysis : isSystemAnalysisRequest u message = false
  internalNotes : isInternalNoteListRequest u message = false
  capabilities : isCapabilityQuestion u message = false
  identity : isIdentityQuestion u message = false
  direct : shouldAnswerWithoutTools u message = false

/-- The messages that raise, in the order in which `decide` meets them.
`awaiting` says whether the conversation has a pending interaction. -/
inductive FailsToRoute (message : Text) (awaiting : Bool) : Prop where
  | renameStopwatch (hstatus : isTimerStatusRequest u message = false)
      (hclear : isClearAllTimersRequest u message = false)
      (hlong : longStopwatchRenameId u message = true)
  | renameTimer (hstatus : isTimerStatusRequest u message = false)
      (hclear : isClearAllTimersRequest u message = false)
      (hother : parseStopwatchRenameArgs u message = .ok none)
      (hlong : longTimerRenameId u message = true)
  | stopById (hpasses : PassesRenames u message) (hlong : longStopwatchStopId u message = true)
  | cancelById (hpasses : PassesRenames u message)
      (hother : parseStopwatchStopArgs u message = .ok none)
      (hstop : isStopwatchStopRequest u message = false)
      (hlong : longTimerCancelId u message = true)
  | cancelDuration (hcancel : IsPlainCancel u message)
      (hplural : isPluralTimerCancelRequest u message = false)
      (hlong : longDuration u (u.lower message) = true)
  | startDuration (hfresh : NoTimerRequest u message) (hawaiting : awaiting = false)
      (hstart : isTimerStartRequest u message = true)
      (hlong : longDuration u (u.lower message) = true)
  | driveLink (hfresh : NoTimerRequest u message) (hawaiting : awaiting = false)
      (hreaches : ReachesToolIntents u message)
      (hothers : ∀ tool ∈ toolsBeforeDrive, toolMatchesRequest u message tool.name = .ok false)
      (hlink : unreadableDriveLink u message = true)

end Conditions

section Parsers

variable {u : PyData} {message : Text}

theorem raises_intOfDigits_iff (digits : Text) :
    Raises (u.intOfDigits digits) ↔ tooManyDigits digits = true := by
  rw [PyData.intOfDigits, raises_ite, tooManyDigits]
  simp

theorem raises_parseCommandArgs_iff (pattern : Regex) (idGroup : String) (normalized : Text) :
    Raises (parseCommandArgs u pattern idGroup normalized) ↔
      longId (matchPrefix pattern normalized) idGroup = true := by
  rw [parseCommandArgs, longId]
  cases matchPrefix pattern normalized with
  | none => simp
  | some found =>
      rw [Option.any_some, ← raises_intOfDigits_iff (u := u)]
      exact raises_bind_of_not fun _ => not_raises_pure _

theorem raises_parseRenameArgs_iff (byIdQuoted byIdUnquoted byLabel : Regex) (idGroup : String) :
    Raises (parseRenameArgs u byIdQuoted byIdUnquoted byLabel idGroup message) ↔
      longRenameId byIdQuoted byIdUnquoted idGroup message = true := by
  rw [parseRenameArgs, longRenameId, longId]
  split
  · rename_i found hfound
    rw [hfound, Option.any_some, ← raises_intOfDigits_iff (u := u)]
    exact raises_bind_of_not fun _ => not_raises_pure _
  · rename_i hfound
    rw [hfound]
    split <;> simp

theorem raises_digitSegments_iff (found : List (Found Char)) :
    Raises (digitSegments u found) ↔ (found.any fun found =>
      (normalizeUnit (groupText found.groups "2")).isSome &&
        tooManyDigits (groupText found.groups "1")) = true := by
  induction found with
  | nil => simp [digitSegments]
  | cons found rest ih =>
      rw [digitSegments, List.any_cons, Bool.or_eq_true, ← ih]
      cases normalizeUnit (groupText found.groups "2") with
      | none => simp
      | some unit =>
          rcases hint : u.intOfDigits (groupText found.groups "1") with e | n
          · have hlong := (raises_intOfDigits_iff _).mp ⟨e, hint⟩
            simp [hlong]
          · have hshort := (raises_intOfDigits_iff _).not.mp (not_raises_iff.mpr ⟨n, hint⟩)
            simp [hshort]

theorem raises_iterDurationSegments_iff :
    Raises (iterDurationSegments u message) ↔ longDuration u message = true := by
  rw [longDuration, ← raises_digitSegments_iff, iterDurationSegments]
  exact raises_bind_of_not fun _ => not_raises_pure _

theorem raises_extractDurationSeconds_iff :
    Raises (extractDurationSeconds u message) ↔ longDuration u message = true := by
  rw [← raises_iterDurationSegments_iff, extractDurationSeconds]
  apply raises_bind_of_not
  intro segments
  split
  · exact not_raises_pure _
  · dsimp only
    split
    · exact not_raises_pure _
    · exact not_raises_pure _

theorem raises_urlparse_iff (url : Text) :
    Raises (urlparse u url) ↔ (netlocOf url).any (badNetloc u) = true := by
  rw [← raises_urlsplit_iff, urlparse]
  apply raises_bind_of_not
  intro parsed
  split <;> exact not_raises_pure _

theorem netlocOf_nil : netlocOf [] = none := rfl

theorem raises_parseDriveFileId_iff (raw : Text) :
    Raises (parseDriveFileId u raw) ↔ unreadableReference u raw = true := by
  rw [parseDriveFileId, unreadableReference]
  rcases hvalue : strip raw with _ | ⟨c, rest⟩
  · simp [netlocOf_nil]
  · cases hbare : matchPrefix bareFileId (c :: rest) with
    | some found => simp
    | none =>
        simp only [List.isEmpty_cons, Bool.false_eq_true, if_false, Option.isSome_none,
          Option.isNone_none, Bool.true_and, ← raises_urlparse_iff]
        apply raises_bind_of_not
        intro parsed
        split
        · exact not_raises_pure _
        · split
          · exact not_raises_pure _
          · split
            · exact not_raises_pure _
            · split
              · exact not_raises_pure _
              · split <;> exact not_raises_pure _

theorem raises_tryParseDriveFileId_iff (raw : Text) :
    Raises (tryParseDriveFileId u raw) ↔ unreadableReference u raw = true := by
  rw [tryParseDriveFileId, ← raises_parseDriveFileId_iff]
  exact raises_bind_of_not fun _ => not_raises_pure _

theorem raises_extractDriveFileReference_iff :
    Raises (extractDriveFileReference u message) ↔ unreadableDriveLink u message = true := by
  rw [extractDriveFileReference, unreadableDriveLink]
  rcases hstripped : strip message with _ | ⟨c, rest⟩
  · have hreference : unreadableReference u [] = false := by
      have hstrip : strip [] = [] := rfl
      rw [unreadableReference, hstrip, netlocOf_nil, Option.any_none, Bool.and_false]
    have hlines : nonBlankLines [] = [] := rfl
    simp [hlines, hreference]
  · simp only [List.isEmpty_cons, Bool.false_eq_true, if_false]
    rcases nonBlankLines (c :: rest) with _ | ⟨line, lines⟩
    · exact raises_tryParseDriveFileId_iff _
    · dsimp only
      rw [Bool.or_eq_true, Bool.and_eq_true, ← raises_tryParseDriveFileId_iff line,
        ← raises_tryParseDriveFileId_iff (c :: rest)]
      rcases tryParseDriveFileId u line with e | _ | reference <;> simp

end Parsers

section Routes

variable {u : PyData} {message : Text} {db : Database}

theorem raises_timerRoute_iff : Raises (timerRoute u message db) ↔
    isTimerStatusRequest u message = false ∧ isClearAllTimersRequest u message = false ∧
      (longStopwatchRenameId u message = true ∨ parseStopwatchRenameArgs u message = .ok none ∧
      (longTimerRenameId u message = true ∨ parseTimerRenameArgs u message = .ok none ∧
      (longStopwatchStopId u message = true ∨ parseStopwatchStopArgs u message = .ok none ∧
        isStopwatchStopRequest u message = false ∧ longTimerCancelId u message = true))) := by
  have hstopwatch : Raises (parseStopwatchRenameArgs u message) ↔ _ :=
    raises_parseRenameArgs_iff ..
  have htimer : Raises (parseTimerRenameArgs u message) ↔ _ := raises_parseRenameArgs_iff ..
  have hstop : Raises (parseStopwatchStopArgs u message) ↔ _ := raises_parseCommandArgs_iff ..
  have hcancel : Raises (parseTimerCancelArgs u message) ↔ _ := raises_parseCommandArgs_iff ..
  rw [longStopwatchRenameId, longTimerRenameId, longStopwatchStopId, longTimerCancelId,
    ← hstopwatch, ← htimer, ← hstop, ← hcancel]
  unfold timerRoute
  simp [raises_ite, Option.exists]

theorem not_raises_stopwatchStopRoute (h : parseStopwatchStopArgs u message = .ok none) :
    ¬Raises (stopwatchStopRoute u message db) := by
  have hambiguous : ¬Raises (isAmbiguousSingularStopwatchStop u message) := by
    simp [isAmbiguousSingularStopwatchStop, h, raises_ite]
  rw [stopwatchStopRoute, raises_bind_of_not]
  · exact hambiguous
  · intro ambiguous
    split <;> exact not_raises_pure _

theorem raises_timerCancelRoute_iff (h : IsPlainCancel u message) :
    Raises (timerCancelRoute u message db) ↔
      isPluralTimerCancelRequest u message = false ∧ longDuration u (u.lower message) = true := by
  have hambiguous : Raises (isAmbiguousSingularTimerCancel u message) ↔
      isPluralTimerCancelRequest u message = false ∧ longDuration u (u.lower message) = true := by
    rw [← raises_extractDurationSeconds_iff, isAmbiguousSingularTimerCancel, h.cancelById, h.cancel]
    simp [raises_ite]
  rw [← hambiguous, timerCancelRoute]
  apply raises_bind_of_not
  intro ambiguous
  split <;> exact not_raises_pure _

theorem raises_of_timerRoute {decision : Except PyError RouteDecision}
    (h : timerRoute u message db = .ok (some decision)) (hraises : Raises decision) :
    IsPlainCancel u message ∧ isPluralTimerCancelRequest u message = false ∧
      longDuration u (u.lower message) = true := by
  cases timerRouted_of_timerRoute h with
  | stop hplain => exact absurd hraises (not_raises_stopwatchStopRoute hplain.stopById)
  | cancel hplain => exact ⟨hplain, (raises_timerCancelRoute_iff hplain).mp hraises⟩
  | _ => exact absurd hraises (not_raises_ok _)

theorem raises_needsTimerDuration_iff : Raises (needsTimerDuration u message) ↔
    hasTimerCancelKeyword u (u.lower message) = false ∧ hasTimerTrigger (u.lower message) = true ∧
      hasTimerStartKeyword u (u.lower message) = true ∧
        longDuration u (u.lower message) = true := by
  rw [← raises_extractDurationSeconds_iff, needsTimerDuration]
  simp [raises_ite]

theorem raises_needsTimerDuration_iff_start (h : isStopwatchStartRequest u message = false) :
    Raises (needsTimerDuration u message) ↔
      isTimerStartRequest u message = true ∧ longDuration u (u.lower message) = true := by
  rw [raises_needsTimerDuration_iff]
  unfold isStopwatchStartRequest at h
  unfold isTimerStartRequest
  cases hcancel : hasTimerCancelKeyword u (u.lower message) <;>
    cases htrigger : hasStopwatchTrigger (u.lower message) <;>
    cases hstart : hasTimerStartKeyword u (u.lower message) <;>
    simp [hcancel, htrigger, hstart] at h ⊢

theorem raises_isTimerRenameRequest_iff :
    Raises (isTimerRenameRequest u message) ↔ longTimerRenameId u message = true :=
  (raises_bind_of_not fun _ => not_raises_pure _).trans (raises_parseRenameArgs_iff ..)

theorem raises_isStopwatchRenameRequest_iff :
    Raises (isStopwatchRenameRequest u message) ↔ longStopwatchRenameId u message = true :=
  (raises_bind_of_not fun _ => not_raises_pure _).trans (raises_parseRenameArgs_iff ..)

section Catalog

variable {tools : List ToolSpec} {tool : ToolSpec} {toolName : String}

theorem raises_matches_renameTimer (h : findTool tools "rename_timer" = some tool) :
    Raises (toolMatchesRequestIn u tools message "rename_timer") ↔
      longTimerRenameId u message = true := by
  rw [← raises_isTimerRenameRequest_iff, toolMatchesRequestIn, h]
  rfl

theorem raises_matches_renameStopwatch (h : findTool tools "rename_stopwatch" = some tool) :
    Raises (toolMatchesRequestIn u tools message "rename_stopwatch") ↔
      longStopwatchRenameId u message = true := by
  rw [← raises_isStopwatchRenameRequest_iff, toolMatchesRequestIn, h]
  rfl

theorem raises_matches_drive (h : findTool tools "read_google_drive_file" = some tool) :
    Raises (toolMatchesRequestIn u tools message "read_google_drive_file") ↔
      unreadableDriveLink u message = true := by
  rw [← raises_extractDriveFileReference_iff, toolMatchesRequestIn, h]
  exact raises_bind_of_not (f := fun _ => pure _) fun _ => not_raises_pure _

theorem not_raises_matches (htimer : toolName ≠ "rename_timer")
    (hstopwatch : toolName ≠ "rename_stopwatch") (hdrive : toolName ≠ "read_google_drive_file") :
    ¬Raises (toolMatchesRequestIn u tools message toolName) := by
  simp only [toolMatchesRequestIn, if_neg htimer, if_neg hstopwatch, if_neg hdrive]
  cases findTool tools toolName with
  | none => exact not_raises_ok true
  | some tool => simp [raises_ite]

theorem raises_toolMatchesRequestIn_iff :
    Raises (toolMatchesRequestIn u tools message toolName) ↔
      (findTool tools toolName).isSome = true ∧ FailsToMatch u message toolName := by
  cases hfind : findTool tools toolName with
  | none =>
      rw [toolMatchesRequestIn, hfind]
      simp
  | some tool =>
      rw [FailsToMatch, Option.isSome_some]
      by_cases hfirst : toolName = "rename_timer"
      · subst hfirst
        rw [raises_matches_renameTimer hfind]
        simp
      · by_cases hsecond : toolName = "rename_stopwatch"
        · subst hsecond
          rw [raises_matches_renameStopwatch hfind]
          simp
        · by_cases hthird : toolName = "read_google_drive_file"
          · subst hthird
            rw [raises_matches_drive hfind]
            simp
          · simp [not_raises_matches hfirst hsecond hthird, hfirst, hsecond, hthird]

end Catalog

theorem raises_toolMatchesRequest_iff (toolName : String) :
    Raises (toolMatchesRequest u message toolName) ↔ FailsToMatch u message toolName := by
  refine raises_toolMatchesRequestIn_iff.trans (and_iff_right_of_imp ?_)
  rintro (⟨rfl, -⟩ | ⟨rfl, -⟩ | ⟨rfl, -⟩)
  · decide
  · decide
  · decide

theorem not_raises_anyToolMatches {tools : List ToolSpec}
    (h : ∀ tool ∈ tools, ¬Raises (toolMatchesRequest u message tool.name)) :
    ¬Raises (anyToolMatches u message tools) := by
  induction tools with
  | nil => exact not_raises_ok false
  | cons tool rest ih =>
      obtain ⟨matched, hmatched⟩ := not_raises_iff.mp (h tool List.mem_cons_self)
      rw [anyToolMatches, raises_bind_of_ok hmatched]
      cases matched with
      | true => exact not_raises_pure true
      | false => exact ih fun t ht => h t (List.mem_cons_of_mem tool ht)

theorem raises_anyToolMatches_iff {before after : List ToolSpec} {tool : ToolSpec}
    (hbefore : ∀ t ∈ before, ¬Raises (toolMatchesRequest u message t.name))
    (hafter : ∀ t ∈ after, ¬Raises (toolMatchesRequest u message t.name)) :
    Raises (anyToolMatches u message (before ++ tool :: after)) ↔
      (∀ t ∈ before, toolMatchesRequest u message t.name = .ok false) ∧
        Raises (toolMatchesRequest u message tool.name) := by
  induction before with
  | nil =>
      rw [List.nil_append, anyToolMatches, raises_bind_of_not]
      · simp
      · intro matched
        cases matched with
        | true => exact not_raises_pure true
        | false => exact not_raises_anyToolMatches hafter
  | cons first before ih =>
      obtain ⟨matched, hmatched⟩ := not_raises_iff.mp (hbefore first List.mem_cons_self)
      rw [List.cons_append, anyToolMatches, raises_bind_of_ok hmatched, List.forall_mem_cons,
        hmatched]
      cases matched with
      | true => simp
      | false =>
          simpa using ih fun t ht => hbefore t (List.mem_cons_of_mem first ht)

theorem not_long_of_passesRenames (h : PassesRenames u message) :
    longTimerRenameId u message = false ∧ longStopwatchRenameId u message = false := by
  have htimer := not_raises_of_ok h.renameTimer
  have hstopwatch := not_raises_of_ok h.renameStopwatch
  rw [parseTimerRenameArgs, raises_parseRenameArgs_iff, Bool.not_eq_true] at htimer
  rw [parseStopwatchRenameArgs, raises_parseRenameArgs_iff, Bool.not_eq_true] at hstopwatch
  exact ⟨htimer, hstopwatch⟩

theorem listTools_eq : ∃ drive after, listTools = toolsBeforeDrive ++ drive :: after ∧
    drive.name = "read_google_drive_file" ∧
    ∀ tool ∈ toolsBeforeDrive ++ after, tool.name ≠ "read_google_drive_file" := by
  refine ⟨_, listTools.drop (toolsBeforeDrive.length + 1), rfl, rfl, ?_⟩
  decide +kernel

theorem raises_messageMatchesAnyToolIntent_iff (h : PassesRenames u message) :
    Raises (messageMatchesAnyToolIntent u message) ↔
      (∀ tool ∈ toolsBeforeDrive, toolMatchesRequest u message tool.name = .ok false) ∧
        unreadableDriveLink u message = true := by
  obtain ⟨drive, after, hlist, hname, hothers⟩ := listTools_eq
  have hshort := not_long_of_passesRenames h
  have hreturns (tool : ToolSpec) (hmem : tool ∈ toolsBeforeDrive ++ after) :
      ¬Raises (toolMatchesRequest u message tool.name) := by
    rw [raises_toolMatchesRequest_iff, FailsToMatch]
    simp [hshort, hothers tool hmem]
  have hdrive : FailsToMatch u message "read_google_drive_file" ↔
      unreadableDriveLink u message = true := by simp [FailsToMatch]
  rw [messageMatchesAnyToolIntent, hlist, raises_anyToolMatches_iff
    (fun t ht => hreturns t (List.mem_append_left after ht))
    (fun t ht => hreturns t (List.mem_append_right toolsBeforeDrive ht)), hname,
    raises_toolMatchesRequest_iff, hdrive]

theorem raises_freshRoute_iff (h : PassesRenames u message) :
    Raises (freshRoute u message) ↔
      (isTimerStartRequest u message = true ∧ longDuration u (u.lower message) = true) ∨
      (ReachesToolIntents u message ∧
        (∀ tool ∈ toolsBeforeDrive, toolMatchesRequest u message tool.name = .ok false) ∧
        unreadableDriveLink u message = true) := by
  rw [← raises_messageMatchesAnyToolIntent_iff h]
  have hreaches : ReachesToolIntents u message ↔ isStopwatchStartRequest u message = false ∧
      needsTimerDuration u message = .ok false ∧ isTimerStartRequest u message = false ∧
      needsWipeConfirmation u message = false ∧ needsServiceRestartConfirmation u message = false ∧
      needsUpdateConfirmation u message = false ∧ needsRebootConfirmation u message = false ∧
      isHealthCheckRequest u message = false ∧ isSystemAnalysisRequest u message = false ∧
      isInternalNoteListRequest u message = false ∧ isCapabilityQuestion u message = false ∧
      isIdentityQuestion u message = false ∧ shouldAnswerWithoutTools u message = false :=
    ⟨fun ⟨a, b, c, d, e, f, g, h, i, j, k, l, m⟩ => ⟨a, b, c, d, e, f, g, h, i, j, k, l, m⟩,
      fun ⟨a, b, c, d, e, f, g, h, i, j, k, l, m⟩ => ⟨a, b, c, d, e, f, g, h, i, j, k, l, m⟩⟩
  rw [hreaches, freshRoute]
  cases hstopwatch : isStopwatchStartRequest u message with
  | true =>
      have hstart : isTimerStartRequest u message = false := by
        unfold isStopwatchStartRequest at hstopwatch
        unfold isTimerStartRequest
        cases htrigger : hasStopwatchTrigger (u.lower message) <;> simp [htrigger] at hstopwatch ⊢
      simp [hstart]
  | false =>
      rw [← raises_needsTimerDuration_iff_start hstopwatch]
      rcases needsTimerDuration u message with e | _ | _
      · simp
      · cases isTimerStartRequest u message <;> simp [raises_ite, and_assoc]
      · simp

theorem failsToRoute_of_raises {conversationId : String} {pending : PendingStore}
    (h : Raises (decide u message conversationId db pending).1) :
    FailsToRoute u message (PendingStore.get pending conversationId).isSome := by
  rcases hroute : timerRoute u message db with e | _ | decision
  · obtain ⟨hstatus, hclear, hrest⟩ := raises_timerRoute_iff.mp ⟨e, hroute⟩
    rcases hrest with hlong | ⟨hstopwatch, hlong | ⟨htimer, hlong | ⟨hstop, hplain, hlong⟩⟩⟩
    · exact .renameStopwatch hstatus hclear hlong
    · exact .renameTimer hstatus hclear hstopwatch hlong
    · exact .stopById ⟨hstatus, hclear, hstopwatch, htimer⟩ hlong
    · exact .cancelById ⟨hstatus, hclear, hstopwatch, htimer⟩ hstop hplain hlong
  · have hfresh := noTimerRequest_of_timerRoute hroute
    cases hpending : PendingStore.get pending conversationId with
    | some interaction =>
        rw [decide_of_pending hroute hpending] at h
        exact absurd h (not_raises_ok _)
    | none =>
        rw [decide_of_fresh hroute hpending, raises_freshRoute_iff hfresh.toPassesRenames] at h
        rcases h with ⟨hstart, hlong⟩ | ⟨hreaches, hothers, hlink⟩
        · exact .startDuration hfresh rfl hstart hlong
        · exact .driveLink hfresh rfl hreaches hothers hlink
  · rw [decide_of_timerRoute hroute] at h
    obtain ⟨hcancel, hplural, hlong⟩ := raises_of_timerRoute hroute h
    exact .cancelDuration hcancel hplural hlong

theorem raises_decide_of_timerRoute {conversationId : String} {pending : PendingStore}
    (h : Raises (timerRoute u message db)) :
    Raises (decide u message conversationId db pending).1 := by
  obtain ⟨e, he⟩ := h
  rw [AgentRouter.decide, he]
  exact raises_error e

theorem raises_decide_of_freshRoute {conversationId : String} {pending : PendingStore}
    (hfresh : NoTimerRequest u message)
    (hawaiting : (PendingStore.get pending conversationId).isSome = false)
    (h : Raises (freshRoute u message)) :
    Raises (decide u message conversationId db pending).1 := by
  have hpending := Option.isNone_iff_eq_none.mp (Option.isSome_eq_false_iff.mp hawaiting)
  rwa [decide_of_fresh (timerRoute_of_noTimerRequest hfresh db) hpending]

theorem raises_of_failsToRoute {conversationId : String} {pending : PendingStore}
    (h : FailsToRoute u message (PendingStore.get pending conversationId).isSome) :
    Raises (decide u message conversationId db pending).1 := by
  cases h with
  | renameStopwatch hstatus hclear hlong =>
      apply raises_decide_of_timerRoute
      exact raises_timerRoute_iff.mpr ⟨hstatus, hclear, .inl hlong⟩
  | renameTimer hstatus hclear hother hlong =>
      apply raises_decide_of_timerRoute
      exact raises_timerRoute_iff.mpr ⟨hstatus, hclear, .inr ⟨hother, .inl hlong⟩⟩
  | stopById h hlong =>
      apply raises_decide_of_timerRoute
      exact raises_timerRoute_iff.mpr
        ⟨h.status, h.clearAll, .inr ⟨h.renameStopwatch, .inr ⟨h.renameTimer, .inl hlong⟩⟩⟩
  | cancelById h hother hstop hlong =>
      apply raises_decide_of_timerRoute
      exact raises_timerRoute_iff.mpr ⟨h.status, h.clearAll,
        .inr ⟨h.renameStopwatch, .inr ⟨h.renameTimer, .inr ⟨hother, hstop, hlong⟩⟩⟩⟩
  | cancelDuration hcancel hplural hlong =>
      rw [decide_of_timerRoute (timerRoute_of_isPlainCancel hcancel)]
      exact (raises_timerCancelRoute_iff hcancel).mpr ⟨hplural, hlong⟩
  | startDuration hfresh hawaiting hstart hlong =>
      apply raises_decide_of_freshRoute hfresh hawaiting
      exact (raises_freshRoute_iff hfresh.toPassesRenames).mpr (.inl ⟨hstart, hlong⟩)
  | driveLink hfresh hawaiting hreaches hothers hlink =>
      apply raises_decide_of_freshRoute hfresh hawaiting
      exact (raises_freshRoute_iff hfresh.toPassesRenames).mpr (.inr ⟨hreaches, hothers, hlink⟩)

/-- The exact inputs on which routing raises. -/
theorem raises_decide_iff (conversationId : String) (pending : PendingStore) :
    Raises (decide u message conversationId db pending).1 ↔
      FailsToRoute u message (PendingStore.get pending conversationId).isSome :=
  ⟨failsToRoute_of_raises, raises_of_failsToRoute⟩

/-- Routing returns a decision for every other message. -/
theorem returnsDecision_iff (conversationId : String) (pending : PendingStore) :
    (∃ decision, (decide u message conversationId db pending).1 = .ok decision) ↔
      ¬FailsToRoute u message (PendingStore.get pending conversationId).isSome := by
  rw [← not_raises_iff]
  exact (raises_decide_iff conversationId pending).not

/-- A link with a stray bracket. -/
theorem not_returnsDecision_bracket :
    ¬∃ decision, (decide .ascii "http://[".toList "default" .empty .empty).1 = .ok decision := by
  have hraises : (decide .ascii "http://[".toList "default" .empty .empty).1 =
      .error .valueError := by decide +kernel
  rintro ⟨decision, h⟩
  rw [hraises] at h
  cases h

end Routes

end NanoCore.Assistant.RoutingFailures
