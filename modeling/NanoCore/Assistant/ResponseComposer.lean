import NanoCore.Assistant.Prompts
import NanoCore.Assistant.Rules.Messages
import NanoCore.Foundation.Effects
import NanoCore.Foundation.JsonLoads
import NanoCore.Foundation.JsonRepr

namespace NanoCore.Assistant.ResponseComposer

open NanoCore.Foundation.Effects
open NanoCore.Foundation.JsonLoads
open NanoCore.Foundation.JsonRepr
open NanoCore.Foundation.JsonText
open NanoCore.Foundation.PythonText
open NanoCore.Assistant.Prompts
open NanoCore.Assistant.Rules.Messages
open NanoCore.Assistant.Sources

/-- The language model, which acts on a world `ω` and may raise. -/
structure Parts (ω : Type) where
  complete : List PromptMessage → Effect ω PyError Text
  readFloat : ReadFloat
  isPrintable : Char → Bool

/-- The world, with the actions whose yes/no prompts were written so far: no
function reads these. -/
abbrev Session (ω : Type) := ω × List ConfirmationAction

abbrev Step (ω α : Type) := Effect (Session ω) PyError α

def summaryMissing : Text :=
  "The procedure finished, though the summary failed to materialize.".toList

def kindLabel : ResponseKind → String
  | .toolResult => "tool result"
  | .toolError => "tool error"
  | .answer => "answer draft"
  | .followUp => "follow-up"
  | .confirmation => "confirmation"

section Compose

variable {ω : Type} (u : PyData) (parts : Parts ω)

/-- `client.complete(messages=[..]).strip()` of a system and a user message. -/
def ask (system user : Text) : Step ω Text := do
  return strip (← Effect.onFirst (parts.complete [⟨.system, system⟩, ⟨.user, user⟩]))

def systemPrompt (action : ConfirmationAction) (message : Text) : Step ω Text := do
  Effect.change fun session => (session.1, session.2 ++ [action])
  return systemConfirmationPrompt u action message

def wipePrompt (message : Text) : Step ω Text := do
  Effect.change fun session => (session.1, session.2 ++ [.wipe])
  return wipeConfirmationPrompt u message

def isRequested (facts : Text) : Bool := "User requested:".toList.isPrefixOf facts

def composeConfirmation (source : ResponseSource) : Step ω Text :=
  match source.confirmationAction with
  | some action => systemPrompt u action source.userMessage
  | none =>
      if !isRequested source.facts then pure source.facts else wipePrompt u source.userMessage

/-- The line about a failing check. -/
def failingLine (check : Json) : Except PyError Text := do
  let name := str parts.isPrintable (← getOr "name" (.str "unknown".toList) check)
  let detail := strip (str parts.isPrintable (← getOr "detail" (.str []) check))
  if detail = [] then return "My ".toList ++ name ++ " check is failing.".toList
  return "My ".toList ++ name ++ " check is failing: ".toList ++ detail

def isFailing (check : Json) : Except PyError Bool := do
  let status := str parts.isPrintable (← getOr "status" (.str "unknown".toList) check)
  return u.lower status != "ok".toList

def composeHealthResult (toolResult : Text) : Except PyError Text :=
  match loads parts.readFloat toolResult with
  | .error .decode => .ok "I could not read my diagnostic result.".toList
  | .error .tooManyDigits => .error .valueError
  | .ok payload => do
      let checks ← getOr "checks" (.arr []) payload
      if !truthy checks then return "My diagnostics returned no checks to report.".toList
      let failingChecks ← (← iterate checks).filterM (isFailing u parts)
      if failingChecks.isEmpty then
        return "My diagnostics are clear. No issues were found.".toList
      return joinWords (← failingChecks.mapM (failingLine parts))

def composeWithHint (source : ResponseSource) : Step ω Text := do
  let hint := (composeHints.lookup (source.toolName.getD "")).getD []
  let systemPrompt :=
    if hint = [] then responseComposerPrompt else responseComposerPrompt ++ "\n\n".toList ++ hint
  let summary ← ask parts systemPrompt ("User request: ".toList ++ source.userMessage ++
    "\n\nTool result:\n".toList ++ source.facts)
  return if summary = [] then summaryMissing else summary

/-- `source.tool_name or default`. -/
def toolNameOr (default : String) (source : ResponseSource) : Text :=
  match source.toolName with
  | some name => if name = "" then default.toList else name.toList
  | none => default.toList

def toolErrorFallback (source : ResponseSource) : Except PyError Text :=
  let unnamed :=
    "I could not complete ".toList ++ toolNameOr "the requested action" source ++ ".".toList
  match loads parts.readFloat source.facts with
  | .error .decode => .ok unnamed
  | .error .tooManyDigits => .error .valueError
  | .ok payload => do
      let error := strip (str parts.isPrintable (← getOr "error" (.str []) payload))
      return if error = [] then unnamed else error

def looksLikeJson (value : Text) : Except PyError Bool :=
  let stripped := strip value
  if stripped.head? ≠ some '\x7b' ∧ stripped.head? ≠ some '[' then .ok false
  else
    match loads parts.readFloat stripped with
    | .error .decode => .ok false
    | .error .tooManyDigits => .error .valueError
    | .ok _ => .ok true

def toolLine (source : ResponseSource) : Text :=
  match source.toolName with
  | some name => if name = "" then [] else ("Tool: " ++ name ++ "\n").toList
  | none => []

def composeWithLlm (source : ResponseSource) : Step ω Text := do
  let summary ← ask parts responseComposerPrompt
    ("User request: ".toList ++ source.userMessage ++ "\nResponse kind: ".toList ++
      (kindLabel source.kind).toList ++ "\n".toList ++ toolLine source ++
      "Factual payload:\n".toList ++ source.facts)
  if summary = [] then
    if source.kind = .toolError then Effect.ofExcept (toolErrorFallback parts source)
    else return summaryMissing
  else return summary

def composePayload (source : ResponseSource) : Step ω Text := do
  if !(← Effect.ofExcept (looksLikeJson parts source.facts)) then return source.facts
  else composeWithLlm parts source

/-- `source.tool_name in COMPOSE_HINTS`. -/
def isHinted (source : ResponseSource) : Bool :=
  source.toolName.any fun name => (composeHints.lookup name).isSome

def compose (source : ResponseSource) : Step ω Text :=
  match source.kind with
  | .confirmation => composeConfirmation u source
  | .followUp | .answer => pure source.facts
  | .toolResult =>
      if source.toolName = some "check_health" then
        Effect.ofExcept (composeHealthResult u parts source.facts)
      else if isHinted source then composeWithHint parts source
      else composePayload parts source
  | .toolError => composePayload parts source

end Compose

end NanoCore.Assistant.ResponseComposer
