import NanoCore.Assistant.Guard.Detectors
import NanoCore.Assistant.ResponseComposer

namespace NanoCore.Assistant.Guard.Rewriter

open NanoCore.Foundation.Effects
open NanoCore.Foundation.JsonLoads
open NanoCore.Foundation.JsonRepr
open NanoCore.Foundation.JsonText
open NanoCore.Foundation.PythonText
open NanoCore.Assistant.Guard.Detectors
open NanoCore.Assistant.Prompts
open NanoCore.Assistant.ResponseComposer
open NanoCore.Assistant.Sources

/-- A reply without its code fence. -/
def withoutFence (raw : Text) : Text :=
  if "```".toList.isPrefixOf raw then
    let lines := splitLines raw
    strip (['\n'].intercalate (if 2 < lines.length then lines.tail.dropLast else lines))
  else raw

def parseAlignmentResponse (readFloat : ReadFloat) (raw : Text) :
    Except PyError (Option JsonObject) :=
  match loads readFloat (withoutFence (strip raw)) with
  | .error .decode => .ok none
  | .error .tooManyDigits => .error .valueError
  | .ok (.obj payload) => .ok (some payload)
  | .ok _ => .ok none

def notAligned : Text := "Reply does not align with your intended action.".toList

/-- The problems that a judgement names. -/
def judgedProblems (isPrintable : Char → Bool) (payload : JsonObject) : List Text :=
  match JsonObject.get payload "aligned" with
  | none => []
  | some (.bool true) => []
  | some _ =>
      match (JsonObject.get payload "problems").getD (.arr []) with
      | .arr problems =>
          let cleaned := (problems.map fun problem => strip (str isPrintable problem)).filter
            fun problem => !problem.isEmpty
          if cleaned = [] then [notAligned] else cleaned
      | _ => [notAligned]

section Guard

variable {ω : Type} (u : PyData) (parts : Parts ω) (source : ResponseSource)

def judgeAlignment (content : Text) : Step ω (List Text) := do
  let raw ← ask parts alignmentCheckSystemPrompt
    ("User request: ".toList ++ source.userMessage ++ "\n\nIntended action:\n".toList ++
      formatSourceContext source ++ "\n\nCandidate reply:\n".toList ++ content)
  let payload ← Effect.ofExcept (parseAlignmentResponse parts.readFloat raw)
  return payload.elim [] (judgedProblems parts.isPrintable)

def collectProblems (content : Text) : Step ω (List Text) :=
  let problems := (detectViolations u source.userMessage content).map violationLabel
  if detectIntentMismatch u source content then
    pure (problems ++ [violationLabel .intentMismatch])
  else if problems = [] then judgeAlignment parts source content
  else pure problems

def rewriteWithContext (content : Text) (problems : List Text) : Step ω Text := do
  let revised ← ask parts guardRewriteSystemPrompt
    ("User question: ".toList ++ source.userMessage ++ "\n\nIntended action:\n".toList ++
      formatSourceContext source ++ "\n\nPrevious wrong answer:\n".toList ++ content ++
      "\n\nProblems to fix:\n".toList ++
      ['\n'].intercalate (problems.map fun problem => "- ".toList ++ problem))
  return if revised = [] then content else revised

def guardPasses : Nat → Text → Step ω Text
  | 0, content => pure content
  | n + 1, content => do
      let problems ← collectProblems u parts source content
      if problems = [] then return content
      guardPasses n (← rewriteWithContext parts source content problems)

/-- The prompt in place of a confirmation that refuses. -/
def replaceRefusal (content : Text) : Step ω Text :=
  if source.kind = .confirmation && looksLikeRefusal u content then
    match source.confirmationAction with
    | some action => systemPrompt u action source.userMessage
    | none => wipePrompt u source.userMessage
  else pure content

def enforceUserFacingAnswer (content : Text) : Step ω Text :=
  if strip content = [] || source.skipEnrichment then pure content
  else do
    replaceRefusal u source (← guardPasses u parts source maxGuardPasses content)

def composeAndGuard : Step ω Text := do
  enforceUserFacingAnswer u parts source (← compose u parts source)

end Guard

end NanoCore.Assistant.Guard.Rewriter
