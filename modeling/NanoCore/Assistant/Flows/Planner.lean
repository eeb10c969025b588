import NanoCore.Assistant.Prompts
import NanoCore.Assistant.Rules.Decisions
import NanoCore.Assistant.Rules.Intents
import NanoCore.Assistant.Sources
import NanoCore.Assistant.ToolRunner

namespace NanoCore.Assistant.Flows.Planner

open NanoCore.Foundation.JsonLoads
open NanoCore.Foundation.JsonText
open NanoCore.Foundation.PythonText
open NanoCore.Assistant.Prompts
open NanoCore.Assistant.Rules.Decisions
open NanoCore.Assistant.Rules.Intents
open NanoCore.Assistant.Sources
open NanoCore.Assistant.ToolRunner
open NanoCore.Tools.Registry

structure Call where
  tool : String
  args : JsonObject

def Call.Same (a b : Call) : Prop := a.tool = b.tool ∧ Json.Same (.obj a.args) (.obj b.args)

def Call.signature (call : Call) : Text := toolSignature call.tool call.args

inductive Event where
  | completed (output : Text)
  | executed (call : Call)
  | handled (call : Call)
  /-- A correction because of an earlier call. -/
  | refused (call : Call)

/-- The language model and the tools, which act on a world `ω`. -/
structure Parts (ω : Type) where
  readFloat : ReadFloat
  complete : List PromptMessage → ω → ω × Text
  handler : String → JsonObject → ω → ω × Except PyError Text
  describe : PyError → Text

structure PlannerState (ω : Type) where
  world : ω
  messages : List PromptMessage
  invalidJsonAttempts : Nat
  executedTools : List (Text × ToolResult)
  log : List Event

inductive Ending where
  | confused
  | answer (content : Text)
  | toolResult (result : ToolResult)
  | stepLimit

def stepLimitText : Text := "I tried to complete the task, but I hit the step limit.".toList

def Ending.source (request : Request) (confusedResponse : Text) : Ending → ResponseSource
  | .confused => confusedAnswerSource request confusedResponse
  | .answer content => answerSource request content
  | .toolResult result => toolSource .toolResult request result.tool result.content false
  | .stepLimit => answerSource request stepLimitText

inductive Outcome (ω : Type) where
  | goesOn (state : PlannerState ω)
  | ends (state : PlannerState ω) (ending : Ending)
  | raises (state : PlannerState ω) (e : PyError)

namespace Outcome

variable {ω : Type}

def state : Outcome ω → PlannerState ω
  | .goesOn s => s
  | .ends s _ => s
  | .raises s _ => s

def returns : Outcome ω → Bool
  | .ends _ _ => true
  | _ => false

def answerText : Outcome ω → Option Text
  | .ends _ (.answer content) => some content
  | _ => none

end Outcome

def invalidJsonCorrection : Text :=
  "The previous response was not valid JSON. Return only a JSON object.".toList

def mismatchCorrection (toolName : String) : Text :=
  ("The tool call " ++ toolName ++ " does not match the user's request. " ++
    "Do not call a tool here. Return answer_intent when ready.").toList

def duplicateCorrection (toolName : String) (content : Text) : Text :=
  ("Tool " ++ toolName ++ " was already called with the same arguments and returned:\n").toList ++
    content ++ "\nDo not call the same tool again. Return answer_intent when ready.".toList

def resultMessage (result : ToolResult) : Text :=
  ("Tool " ++ result.tool ++ " returned:\n").toList ++ result.content ++
    "\nUse that result to continue or return answer_intent when ready.".toList

namespace PlannerState

variable {ω : Type}

def initial (messages : List PromptMessage) (world : ω) : PlannerState ω where
  world := world
  messages := messages
  invalidJsonAttempts := 0
  executedTools := []
  log := []

def record (state : PlannerState ω) (events : List Event) : PlannerState ω :=
  { state with log := state.log ++ events }

def addMessages (state : PlannerState ω) (raw content : Text) : PlannerState ω :=
  { state with messages := state.messages ++ [⟨.assistant, raw⟩, ⟨.system, content⟩] }

def onWorld (state : PlannerState ω) (world : ω) : PlannerState ω := { state with world }

def addInvalid (state : PlannerState ω) : PlannerState ω :=
  { state with invalidJsonAttempts := state.invalidJsonAttempts + 1 }

def addResult (state : PlannerState ω) (signature : Text) (result : ToolResult) :
    PlannerState ω :=
  { state with executedTools := state.executedTools ++ [(signature, result)] }

/-- `_build_answer_source`. -/
def buildAnswer (state : PlannerState ω) (content : Option Text) : Ending :=
  match state.executedTools.getLast? with
  | none => .confused
  | some latest =>
      match content with
      | some text => if strip text = [] then .toolResult latest.2 else .answer text
      | none => .toolResult latest.2

end PlannerState

section Run

variable {ω : Type} (u : PyData) (tools : List ToolSpec) (parts : Parts ω) (message : Text)

def executeCall (raw : Text) (call : Call) (state : PlannerState ω) : PlannerState ω :=
  match state.executedTools.lookup call.signature with
  | some result =>
      (state.addMessages raw (duplicateCorrection call.tool result.content)).record [.refused call]
  | none =>
      let (world, result) :=
        execute tools parts.describe parts.handler call.tool call.args state.world
      ((((state.onWorld world).addResult call.signature result).addMessages raw
        (resultMessage result)).record
        (.executed call :: if (findTool tools call.tool).isSome then [.handled call] else []))

def handleDecision (raw : Text) (state : PlannerState ω) : Outcome ω :=
  match parseDecision parts.readFloat raw with
  | .error e => .raises state e
  | .ok (.answerIntent content) => .ends state (state.buildAnswer content)
  | .ok (.final content) => .ends state (state.buildAnswer (some content))
  | .ok .invalid =>
      if 2 ≤ state.addInvalid.invalidJsonAttempts then .ends state.addInvalid .confused
      else .goesOn (state.addInvalid.addMessages raw invalidJsonCorrection)
  | .ok (.toolCall tool args) =>
      match toolMatchesRequestIn u tools message tool with
      | .error e => .raises state e
      | .ok false => .goesOn (state.addMessages raw (mismatchCorrection tool))
      | .ok true => .goesOn (executeCall tools parts raw ⟨tool, args⟩ state)

def complete (state : PlannerState ω) : PlannerState ω × Text :=
  let (world, raw) := parts.complete state.messages state.world
  ((state.onWorld world).record [.completed raw], raw)

def rounds : Nat → PlannerState ω → Outcome ω
  | 0, state => .ends state (if state.executedTools.isEmpty then .confused else .stepLimit)
  | n + 1, state =>
      let (state, raw) := complete parts state
      match handleDecision u tools parts message raw state with
      | .goesOn state => rounds n state
      | outcome => outcome

def maxRounds : Nat := 8

def run (messages : List PromptMessage) (world : ω) : Outcome ω :=
  rounds u tools parts message maxRounds (.initial messages world)

end Run

def Outcome.result {ω : Type} (request : Request) (confusedResponse : Text) :
    Outcome ω → ω × Except PyError ResponseSource
  | .ends s ending => (s.world, .ok (ending.source request confusedResponse))
  | .raises s e => (s.world, .error e)
  -- no run is left so
  | .goesOn s => (s.world, .ok (Ending.stepLimit.source request confusedResponse))

/-- The content of an answer decision. -/
inductive Answers : Decision → Option Text → Prop where
  | answerIntent (content : Option Text) : Answers (.answerIntent content) content
  | final (content : Text) : Answers (.final content) (some content)

section Turns

variable {ω : Type} (u : PyData) (tools : List ToolSpec) (readFloat : ReadFloat) (message : Text)

def Asks (raw : Text) (call : Call) : Prop :=
  parseDecision readFloat raw = .ok (.toolCall call.tool call.args)

inductive Turn (raw : Text) (s : PlannerState ω) : Outcome ω → Prop where
  | unparsed {e : PyError} (h : parseDecision readFloat raw = .error e) :
      Turn raw s (.raises s e)
  | answered {decision : Decision} {content : Option Text}
      (h : parseDecision readFloat raw = .ok decision) (hanswers : Answers decision content) :
      Turn raw s (.ends s (s.buildAnswer content))
  | secondInvalid {s' : PlannerState ω} (h : parseDecision readFloat raw = .ok .invalid)
      (hsecond : 1 ≤ s.invalidJsonAttempts) (hlog : s'.log = s.log) :
      Turn raw s (.ends s' .confused)
  | firstInvalid {s' : PlannerState ω} (h : parseDecision readFloat raw = .ok .invalid)
      (hfirst : s.invalidJsonAttempts = 0) (hattempts : s'.invalidJsonAttempts = 1)
      (htools : s'.executedTools = s.executedTools) (hlog : s'.log = s.log) :
      Turn raw s (.goesOn s')
  | failed {call : Call} {e : PyError} (h : Asks readFloat raw call)
      (htest : toolMatchesRequestIn u tools message call.tool = .error e) :
      Turn raw s (.raises s e)
  | mismatched {call : Call} {s' : PlannerState ω}
      (h : Asks readFloat raw call)
      (htest : toolMatchesRequestIn u tools message call.tool = .ok false)
      (hattempts : s'.invalidJsonAttempts = s.invalidJsonAttempts)
      (htools : s'.executedTools = s.executedTools) (hlog : s'.log = s.log) :
      Turn raw s (.goesOn s')
  | refused {call : Call} {s' : PlannerState ω}
      (h : Asks readFloat raw call)
      (htest : toolMatchesRequestIn u tools message call.tool = .ok true)
      (hknown : call.signature ∈ s.executedTools.map Prod.fst)
      (hattempts : s'.invalidJsonAttempts = s.invalidJsonAttempts)
      (htools : s'.executedTools = s.executedTools) (hlog : s'.log = s.log ++ [.refused call]) :
      Turn raw s (.goesOn s')
  | executed {call : Call} {s' : PlannerState ω} {result : ToolResult}
      (h : Asks readFloat raw call)
      (htest : toolMatchesRequestIn u tools message call.tool = .ok true)
      (hnew : call.signature ∉ s.executedTools.map Prod.fst)
      (hattempts : s'.invalidJsonAttempts = s.invalidJsonAttempts)
      (htools : s'.executedTools = s.executedTools ++ [(call.signature, result)])
      (hlog : s'.log = s.log ++
        .executed call :: if (findTool tools call.tool).isSome then [.handled call] else []) :
      Turn raw s (.goesOn s')

end Turns

section TurnOfRound

variable {ω : Type} {u : PyData} {tools : List ToolSpec} {parts : Parts ω} {message : Text}

theorem lookup_eq_none_iff {entries : List (Text × ToolResult)} {key : Text} :
    entries.lookup key = none ↔ key ∉ entries.map Prod.fst := by
  induction entries with
  | nil => simp
  | cons entry rest ih =>
      rw [List.lookup_cons, List.map_cons, List.mem_cons, not_or, ← ih]
      by_cases hkey : key = entry.1
      · simp [hkey]
      · rw [beq_false_of_ne hkey]
        simp [hkey]

theorem turn_executeCall {raw : Text} {call : Call} {s : PlannerState ω}
    (h : Asks parts.readFloat raw call)
    (htest : toolMatchesRequestIn u tools message call.tool = .ok true) :
    Turn u tools parts.readFloat message raw s (.goesOn (executeCall tools parts raw call s)) := by
  rw [executeCall]
  cases hlookup : s.executedTools.lookup call.signature with
  | some result =>
      have hknown : call.signature ∈ s.executedTools.map Prod.fst := by
        by_contra hnot
        rw [lookup_eq_none_iff.mpr hnot] at hlookup
        cases hlookup
      exact .refused h htest hknown rfl rfl rfl
  | none => exact .executed h htest (lookup_eq_none_iff.mp hlookup) rfl rfl rfl

/-- Every round is left in one of these ways. -/
theorem turn_handleDecision (raw : Text) (s : PlannerState ω) :
    Turn u tools parts.readFloat message raw s (handleDecision u tools parts message raw s) := by
  rw [handleDecision]
  rcases hparse : parseDecision parts.readFloat raw with e | decision
  · exact .unparsed hparse
  · cases decision with
    | answerIntent content => exact .answered hparse (.answerIntent content)
    | final content => exact .answered hparse (.final content)
    | invalid =>
        dsimp only
        split
        · rename_i hsecond
          exact .secondInvalid hparse (Nat.le_of_succ_le_succ hsecond) rfl
        · rename_i hfirst
          have hzero : s.invalidJsonAttempts = 0 := by
            change ¬2 ≤ s.invalidJsonAttempts + 1 at hfirst
            omega
          refine .firstInvalid hparse hzero ?_ rfl rfl
          change s.invalidJsonAttempts + 1 = 1
          rw [hzero]
    | toolCall tool args =>
        have hasks : Asks parts.readFloat raw ⟨tool, args⟩ := hparse
        dsimp only
        rcases htest : toolMatchesRequestIn u tools message tool with e | _ | _
        · exact .failed hasks htest
        · exact .mismatched hasks htest rfl rfl rfl
        · exact turn_executeCall hasks htest

end TurnOfRound

end NanoCore.Assistant.Flows.Planner
