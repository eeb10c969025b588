import NanoCore.Timers.Parsing
import NanoCore.Integrations.GoogleDriveIds
import NanoCore.Tools.Registry

namespace NanoCore.Assistant.Rules.Intents

open NanoCore.Foundation.PythonText
open NanoCore.Foundation.Regex
open NanoCore.Foundation.RegexSearch
open NanoCore.Foundation.PythonRegex
open NanoCore.Timers.Parsing
open NanoCore.Integrations.GoogleDriveIds
open NanoCore.Tools.Registry

def directAnswerTriggers : List String := ["help"]

def capabilityQuestionTriggers : List String :=
  ["what can you do", "what do you do", "what are your capabilities",
   "what are you able to do", "capabilities"]

def identityQuestionTriggers : List String :=
  ["who are you", "introduce yourself", "what are you", "tell me about yourself",
   "tell me about himself", "tell me about herself", "tell me about itself",
   "tell me who you are", "who is nano", "what is nano"]

def wipeRequestTriggers : List String :=
  ["wipe", "erase", "clear", "reset", "delete", "remove", "purge", "forget"]

def wipeTargetTriggers : List String :=
  ["database", "memory", "data", "local", "stored", "everything", "yourself", "your self"]

def serviceRestartExclusions : List String := ["pi", "raspberry", "device", "system"]

section Patterns

variable (u : PyData)

/-- `\b<rs>\b`. -/
def bounded (rs : List Regex) : Regex := seqs ([wordBoundary u] ++ rs ++ [wordBoundary u])

/-- `\b<rs>\b.*\b<ss>\b`. -/
def boundedThen (rs ss : List Regex) : Regex :=
  seqs [bounded u rs, anything, bounded u ss]

def identityQuestionPatterns : List Regex :=
  [bounded u [lit "who are you"],
   bounded u [lit "introduce yourself"],
   bounded u [lit "what are you"],
   bounded u [lit "tell me about ", litAlts ["yourself", "himself", "herself", "itself"]],
   bounded u [lit "tell me who you are"],
   bounded u [lit "who is nano"],
   bounded u [lit "what is nano"]]

def internalNoteListPatterns : List Regex :=
  [boundedThen u
     [alts [lit "list", lit "show", seqs [lit "tell", opt (lit " me"), opt (lit " about")],
       lit "read", seqs [lit "what", opt (litAlts ["'s", " are"])]]]
     [lit "internal note", opt (lit "s")],
   boundedThen u [lit "internal note", opt (lit "s")]
     [litAlts ["list", "show", "tell", "read", "what"]],
   seqs [bounded u [lit "what"], anything,
     bounded u [alts [seqs [lit "follow", opt (.sat fun c => isSpace c || c == '-'), lit "up"],
       lit "deferred"]],
     anything, bounded u [lit "note", opt (lit "s")]],
   seqs [bounded u [lit "what"], anything, bounded u [lit "note", opt (lit "s")], anything,
     bounded u [alts [seqs [lit "follow", opt (.sat fun c => isSpace c || c == '-'), lit "up"],
       lit "discuss later", lit "saved for later"]]],
   bounded u [lit "what do you want to discuss"],
   bounded u [lit "what are you saving to discuss"]]

/-- `(?:my\s+)?`. -/
def optMy : Regex := opt (seqs [lit "my", spaces])

/-- `(?:a\s+)?`. -/
def optA : Regex := opt (seqs [lit "a", spaces])

def systemAnalysisPatterns : List Regex :=
  [bounded u [lit "system", spaces, lit "analysis"],
   bounded u [lit "analyze", spaces, optMy, lit "system"],
   bounded u [lit "run", spaces, optA, lit "system", spaces, lit "analysis"],
   bounded u [lit "can", spaces, lit "you", spaces, lit "run", spaces, optA, lit "system",
     spaces, lit "analysis"],
   bounded u [lit "check", spaces, optMy, lit "system", spaces, lit "spec", opt (lit "s")],
   bounded u [lit "what", spaces, lit "are", spaces, lit "my", spaces, lit "system", spaces,
     lit "specs"],
   bounded u [lit "how", spaces, lit "much", spaces, lit "memory"]]

def rebootTargets : Regex := litAlts ["pi", "raspberry", "raspberry pi", "device", "system"]

def rebootRequestPatterns : List Regex :=
  [boundedThen u [lit "reboot"] [rebootTargets],
   boundedThen u [litAlts ["pi", "raspberry", "raspberry pi"]] [lit "reboot"],
   boundedThen u [lit "restart"] [rebootTargets],
   boundedThen u [litAlts ["pi", "raspberry", "raspberry pi"]] [lit "restart"],
   seqs [atStart, optSpaces, lit "reboot",
     opt (seqs [spaces, lit "the", spaces, litAlts ["pi", "raspberry pi"]]), optSpaces,
     opt (lit "."), atEnd]]

/-- `nano-?core`. -/
def nanoCore : Regex := seqs [lit "nano", opt (lit "-"), lit "core"]

def serviceRestartRequestPatterns : List Regex :=
  [boundedThen u [lit "restart"]
     [alts [lit "yourself", lit "nano", nanoCore, lit "service", lit "server"]],
   boundedThen u [litAlts ["yourself", "nano"]] [lit "restart"],
   seqs [atStart, optSpaces, lit "restart",
     opt (seqs [spaces, alts [lit "yourself", lit "nano", lit "nano-core",
       seqs [lit "the", spaces, lit "service"], seqs [lit "the", spaces, lit "server"]]]),
     optSpaces, opt (lit "."), atEnd]]

def updateRequestPatterns : List Regex :=
  [boundedThen u [lit "check"] [opt (seqs [lit "for", spaces]), lit "update", opt (lit "s")],
   boundedThen u [litAlts ["install", "apply", "run"]] [lit "update"],
   boundedThen u [lit "update"] [alts [lit "nano", lit "yourself", nanoCore, lit "software"]],
   seqs [atStart, optSpaces, lit "update",
     opt (seqs [spaces, litAlts ["nano", "yourself", "nano-core"]]), optSpaces,
     opt (lit "."), atEnd]]

/-- `explicit_patterns` of `is_health_check_request`. -/
def healthCheckPatterns : List Regex :=
  [bounded u [lit "check", spaces, litAlts ["your", "my"], spaces, lit "health"],
   bounded u [lit "health", spaces, lit "check"],
   bounded u [lit "run", spaces, optA, opt (seqs [lit "health", spaces]), lit "diagnostic",
     opt (lit "s")],
   bounded u [lit "diagnostic", opt (lit "s"), spaces, lit "check"],
   bounded u [lit "check", spaces, lit "diagnostic", opt (lit "s")],
   bounded u [lit "check", spaces, lit "yourself"],
   bounded u [lit "self", spaces, lit "check"],
   bounded u [lit "system", spaces, lit "check"]]

/-- `\d+\s*[\+\-\*/]\s*\d+`. -/
def arithmeticPattern : Regex :=
  seqs [digits u, optSpaces, oneOf ['+', '-', '*', '/'], optSpaces, digits u]

end Patterns

variable (u : PyData)

def containsTerm (loweredMessage : Text) (term : String) : Bool :=
  if hasSubstring [' '] term.toList then hasSubstring term.toList loweredMessage
  else occurs (wholeWord u term) loweredMessage

/-- `any(re.search(pattern, lowered) for pattern in patterns)` on the message
in lower case with its white space collapsed. -/
def matchesAnyPattern (patterns : List Regex) (message : Text) : Bool :=
  patterns.any fun pattern => occurs pattern (collapseSpaces (u.lower message))

def needsRebootConfirmation (message : Text) : Bool :=
  matchesAnyPattern u (rebootRequestPatterns u) message

def needsServiceRestartConfirmation (message : Text) : Bool :=
  if hasAnySubstring serviceRestartExclusions (collapseSpaces (u.lower message)) then false
  else matchesAnyPattern u (serviceRestartRequestPatterns u) message

def needsUpdateConfirmation (message : Text) : Bool :=
  matchesAnyPattern u (updateRequestPatterns u) message

def isIdentityQuestion (message : Text) : Bool :=
  hasAnySubstring identityQuestionTriggers (collapseSpaces (u.lower message)) ||
    matchesAnyPattern u (identityQuestionPatterns u) message

def isCapabilityQuestion (message : Text) : Bool :=
  hasAnySubstring capabilityQuestionTriggers (u.lower message)

def shouldAnswerWithoutTools (message : Text) : Bool :=
  hasAnySubstring directAnswerTriggers (u.lower message)

def isHealthCheckRequest (message : Text) : Bool :=
  matchesAnyPattern u (healthCheckPatterns u) message

def isSystemAnalysisRequest (message : Text) : Bool :=
  matchesAnyPattern u (systemAnalysisPatterns u) message

def isInternalNoteListRequest (message : Text) : Bool :=
  matchesAnyPattern u (internalNoteListPatterns u) message

def needsWipeConfirmation (message : Text) : Bool :=
  let lowered := u.lower message
  wipeRequestTriggers.any (containsTerm u lowered) &&
    wipeTargetTriggers.any (containsTerm u lowered)

/-- `tool_matches_request` for the tools of a catalog. -/
def toolMatchesRequestIn (tools : List ToolSpec) (message : Text) (toolName : String) :
    Except PyError Bool :=
  let lowered := u.lower message
  match findTool tools toolName with
  | none => .ok true
  | some tool =>
      let byKeyword := hasAnySubstring tool.keywords lowered
      if toolName = "run_python" ∧ occurs (arithmeticPattern u) lowered = true then .ok true
      else if toolName = "start_timer" then .ok (isTimerStartRequest u message)
      else if toolName = "start_stopwatch" then .ok (isStopwatchStartRequest u message)
      else if toolName = "stop_stopwatches" then .ok (isStopwatchStopRequest u message)
      else if toolName = "rename_timer" then isTimerRenameRequest u message
      else if toolName = "rename_stopwatch" then isStopwatchRenameRequest u message
      else if toolName = "clear_all_timers" then .ok (isClearAllTimersRequest u message)
      else if toolName = "list_timers" then .ok (isTimerStatusRequest u message)
      else if toolName = "cancel_timers" then .ok (isTimerCancelRequest u message)
      else if toolName = "check_health" then .ok (isHealthCheckRequest u message)
      else if toolName = "analyze_system" then .ok (isSystemAnalysisRequest u message)
      else if toolName = "list_internal_notes" then .ok (isInternalNoteListRequest u message)
      else if toolName = "read_google_drive_file" then do
        return (← extractDriveFileReference u message).isSome || byKeyword
      else .ok byKeyword

def toolMatchesRequest (message : Text) (toolName : String) : Except PyError Bool :=
  toolMatchesRequestIn u listTools message toolName

/-- `any` over a list of tools: the first tool that raises ends the test unless
one before it matched. -/
def anyToolMatches (message : Text) : List ToolSpec → Except PyError Bool
  | [] => .ok false
  | tool :: rest => do
      if ← toolMatchesRequest u message tool.name then return true
      anyToolMatches message rest

def messageMatchesAnyToolIntent (message : Text) : Except PyError Bool :=
  anyToolMatches u message listTools

end NanoCore.Assistant.Rules.Intents
