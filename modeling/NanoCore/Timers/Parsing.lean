import NanoCore.Common.Duration

namespace NanoCore.Timers.Parsing

open NanoCore.Foundation.PythonText
open NanoCore.Foundation.Regex
open NanoCore.Foundation.RegexSearch
open NanoCore.Foundation.PythonRegex
open NanoCore.Common.Duration

def timerRequestTriggers : List String := ["timer", "countdown"]

def stopwatchRequestTriggers : List String := ["stopwatch", "stop watch"]

def timerStartKeywords : List String :=
  ["start", "set", "create", "begin", "add", "new", "make", "schedule", "launch", "arm"]

def timerCancelKeywords : List String :=
  ["cancel", "stop", "delete", "remove", "clear", "end", "kill"]

def timerRenameKeywords : List String := ["rename", "change name", "call it"]

def timerClearAllKeywords : List String := ["all", "everything"]

def timerStatusKeywords : List String :=
  ["active", "running", "left", "remaining", "status", "list", "check", "how long",
   "what timers"]

def stopwatchStatusKeywords : List String :=
  timerStatusKeywords ++ ["what stopwatches", "what stopwatch"]

section Patterns

variable (u : PyData)

def stopwatchTwoWordRe : Regex :=
  seqs [wordBoundary u, litCI "stop", spaces, litCI "watch", opt (litCI "es"), wordBoundary u]

/-- `"[^"]+"` with the part between the quotes captured. -/
def quotedGroup (name : String) : Regex :=
  seqs [lit "\"", .group name (plus true (.sat fun c => c != '"')), lit "\""]

/-- `^rename\s+<noun>\s+(?P<id>\d+)\s+to\s+"(?P<new_label>[^"]+)"\s*$`. -/
def renameByIdQuotedRe (noun idGroup : String) : Regex :=
  seqs [atStart, litCI "rename", spaces, litCI noun, spaces, .group idGroup (digits u), spaces,
    litCI "to", spaces, quotedGroup "new_label", optSpaces, atEnd]

/-- `^rename\s+<noun>\s+(?P<id>\d+)\s+to\s+(?P<new_label>.+?)\s*$`. -/
def renameByIdUnquotedRe (noun idGroup : String) : Regex :=
  seqs [atStart, litCI "rename", spaces, litCI noun, spaces, .group idGroup (digits u), spaces,
    litCI "to", spaces, .group "new_label" (plus false dot), optSpaces, atEnd]

/-- `^rename\s+the\s+<noun>\s+"(?P<label>[^"]+)"\s+to\s+"(?P<new_label>[^"]+)"\s*$`. -/
def renameByLabelRe (noun : String) : Regex :=
  seqs [atStart, litCI "rename", spaces, litCI "the", spaces, litCI noun, spaces,
    quotedGroup "label", spaces, litCI "to", spaces, quotedGroup "new_label", optSpaces, atEnd]

def renameTimerByIdQuotedRe : Regex := renameByIdQuotedRe u "timer" "timer_id"

def renameTimerByIdUnquotedRe : Regex := renameByIdUnquotedRe u "timer" "timer_id"

def renameTimerByLabelRe : Regex := renameByLabelRe "timer"

def renameStopwatchByIdQuotedRe : Regex := renameByIdQuotedRe u "stopwatch" "stopwatch_id"

def renameStopwatchByIdUnquotedRe : Regex := renameByIdUnquotedRe u "stopwatch" "stopwatch_id"

def renameStopwatchByLabelRe : Regex := renameByLabelRe "stopwatch"

/-- `^<verb>\s+<noun>\s+(?P<id>\d+)\s*$`. -/
def commandByIdRe (verb noun idGroup : String) : Regex :=
  seqs [atStart, litCI verb, spaces, litCI noun, spaces, .group idGroup (digits u), optSpaces,
    atEnd]

def cancelTimerByIdRe : Regex := commandByIdRe u "cancel" "timer" "timer_id"

def stopStopwatchByIdRe : Regex := commandByIdRe u "stop" "stopwatch" "stopwatch_id"

end Patterns

variable (u : PyData)

def normalizeStopwatchSpelling (message : Text) : Text :=
  substitute (stopwatchTwoWordRe u)
    (fun found =>
      if "es".toList <:+ u.lower found.text then "stopwatches".toList else "stopwatch".toList)
    message

def hasStopwatchTrigger (loweredMessage : Text) : Bool :=
  hasAnySubstring stopwatchRequestTriggers loweredMessage

def hasTimerTrigger (loweredMessage : Text) : Bool :=
  hasAnySubstring timerRequestTriggers loweredMessage

def hasTimerStartKeyword (loweredMessage : Text) : Bool :=
  hasAnyWord u timerStartKeywords loweredMessage

def hasTimerCancelKeyword (loweredMessage : Text) : Bool :=
  hasAnyWord u timerCancelKeywords loweredMessage

def hasTimerRenameKeyword (loweredMessage : Text) : Bool :=
  hasAnySubstring timerRenameKeywords loweredMessage

def needsTimerDuration (message : Text) : Except PyError Bool :=
  let lowered := u.lower message
  if hasTimerCancelKeyword u lowered then .ok false
  else if !hasTimerTrigger lowered then .ok false
  else if !hasTimerStartKeyword u lowered then .ok false
  else do return (← extractDurationSeconds u lowered).isNone

def isStopwatchStartRequest (message : Text) : Bool :=
  let lowered := u.lower message
  if hasTimerCancelKeyword u lowered && !hasStopwatchTrigger lowered then false
  else hasStopwatchTrigger lowered && hasTimerStartKeyword u lowered

def isStopwatchStopRequest (message : Text) : Bool :=
  let lowered := normalizeStopwatchSpelling u (u.lower message)
  hasStopwatchTrigger lowered && hasTimerCancelKeyword u lowered

def isTimerStartRequest (message : Text) : Bool :=
  let lowered := u.lower message
  if hasStopwatchTrigger lowered then false
  else if hasTimerCancelKeyword u lowered then false
  else hasTimerTrigger lowered && hasTimerStartKeyword u lowered

def isClearAllTimersRequest (message : Text) : Bool :=
  let lowered := u.lower message
  if !hasTimerCancelKeyword u lowered then false
  else if !hasAnyWord u timerClearAllKeywords lowered then false
  else hasTimerTrigger lowered || hasSubstring "timers".toList lowered

def isTimerCancelRequest (message : Text) : Bool :=
  let lowered := u.lower message
  if hasTimerRenameKeyword lowered then false
  else hasTimerTrigger lowered && hasTimerCancelKeyword u lowered

/-- The loop of `normalize_rename_command_message` on the reversed text: while
the last code point is `.` or `!`, drop it and the white space before it. -/
def dropTrailingStops : Nat → Text → Text
  | 0, reversed => reversed
  | fuel + 1, reversed =>
      match reversed with
      | c :: rest => if c = '.' ∨ c = '!' then dropTrailingStops fuel (lstrip rest) else reversed
      | [] => []

def straightQuote (c : Char) : Char :=
  if c = '\u201c' ∨ c = '\u201d' then '"'
  else if c = '\u2018' ∨ c = '\u2019' then '\u0027'
  else c

def normalizeRenameCommandMessage (message : Text) : Text :=
  let normalized := (strip message).map straightQuote
  (dropTrailingStops normalized.length normalized.reverse).reverse

/-- `match.group(name).strip()`. -/
def strippedGroup (found : Cursor Char) (name : String) : PyScalar :=
  .text (strip (groupText found.groups name))

/-- The loop shared by both rename parsers: the quoted pattern by id, the
unquoted one, then the pattern by label. -/
def parseRenameArgs (byIdQuoted byIdUnquoted byLabel : Regex) (idGroup : String)
    (message : Text) : Except PyError (Option PyDict) :=
  let normalized := normalizeRenameCommandMessage message
  match (matchPrefix byIdQuoted normalized).or (matchPrefix byIdUnquoted normalized) with
  | some found => do
      let id ← u.intOfDigits (groupText found.groups idGroup)
      return some [(idGroup, .int id), ("new_label", strippedGroup found "new_label")]
  | none =>
      match matchPrefix byLabel normalized with
      | some found =>
          .ok (some [("label", strippedGroup found "label"),
            ("new_label", strippedGroup found "new_label")])
      | none => .ok none

def parseTimerRenameArgs (message : Text) : Except PyError (Option PyDict) :=
  parseRenameArgs u (renameTimerByIdQuotedRe u) (renameTimerByIdUnquotedRe u)
    renameTimerByLabelRe "timer_id" message

def parseStopwatchRenameArgs (message : Text) : Except PyError (Option PyDict) :=
  parseRenameArgs u (renameStopwatchByIdQuotedRe u) (renameStopwatchByIdUnquotedRe u)
    renameStopwatchByLabelRe "stopwatch_id" message

/-- A command by id, as both the cancel and the stop parser read it. -/
def parseCommandArgs (pattern : Regex) (idGroup : String) (normalized : Text) :
    Except PyError (Option PyDict) :=
  match matchPrefix pattern normalized with
  | none => .ok none
  | some found => do
      let id ← u.intOfDigits (groupText found.groups idGroup)
      return some [(idGroup, .int id)]

def parseTimerCancelArgs (message : Text) : Except PyError (Option PyDict) :=
  parseCommandArgs u (cancelTimerByIdRe u) "timer_id" (normalizeRenameCommandMessage message)

def parseStopwatchStopArgs (message : Text) : Except PyError (Option PyDict) :=
  parseCommandArgs u (stopStopwatchByIdRe u) "stopwatch_id"
    (normalizeStopwatchSpelling u (normalizeRenameCommandMessage message))

def isTimerRenameRequest (message : Text) : Except PyError Bool := do
  return (← parseTimerRenameArgs u message).isSome

def isStopwatchRenameRequest (message : Text) : Except PyError Bool := do
  return (← parseStopwatchRenameArgs u message).isSome

def isPluralStopwatchStopRequest (message : Text) : Bool :=
  occurs (wholeWord u "stopwatches")
    (normalizeStopwatchSpelling u (u.lower (normalizeRenameCommandMessage message)))

def isAmbiguousSingularStopwatchStop (message : Text) : Except PyError Bool := do
  if (← parseStopwatchStopArgs u message).isSome then return false
  if !isStopwatchStopRequest u message then return false
  if isPluralStopwatchStopRequest u message then return false
  return occurs (wholeWord u "stopwatch")
    (normalizeStopwatchSpelling u (u.lower (normalizeRenameCommandMessage message)))

def isPluralTimerCancelRequest (message : Text) : Bool :=
  occurs (wholeWord u "timers") (u.lower (normalizeRenameCommandMessage message))

def isAmbiguousSingularTimerCancel (message : Text) : Except PyError Bool := do
  if (← parseTimerCancelArgs u message).isSome then return false
  if !isTimerCancelRequest u message then return false
  if isPluralTimerCancelRequest u message then return false
  if (← extractDurationSeconds u (u.lower message)).isSome then return false
  return occurs (wholeWord u "timer") (u.lower (normalizeRenameCommandMessage message))

def isSilentTimerCancelCommand (message : Text) : Except PyError Bool := do
  return (← parseTimerCancelArgs u message).isSome

def isSilentStopwatchStopCommand (message : Text) : Except PyError Bool := do
  return (← parseStopwatchStopArgs u message).isSome

def isSilentRenameCommand (message : Text) : Except PyError Bool := do
  if ← isTimerRenameRequest u message then return true
  isStopwatchRenameRequest u message

def isSilentUiCommand (message : Text) : Except PyError Bool := do
  if ← isSilentRenameCommand u message then return true
  if ← isSilentTimerCancelCommand u message then return true
  isSilentStopwatchStopCommand u message

def isTimerStatusRequest (message : Text) : Bool :=
  let lowered := normalizeStopwatchSpelling u (u.lower message)
  if hasTimerCancelKeyword u lowered then false
  else if hasStopwatchTrigger lowered then hasAnySubstring stopwatchStatusKeywords lowered
  else if !hasTimerTrigger lowered then false
  else hasAnySubstring timerStatusKeywords lowered

def timerConfirmation (args : PyDict) : Except PyError String := do
  let seconds ← durationSecondsFromToolArgs u args
  return "The timer is set for " ++ humanizeDurationSeconds seconds ++ "."

end NanoCore.Timers.Parsing
