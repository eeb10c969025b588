import NanoCore.Common.JsonParsing
import NanoCore.Foundation.JsonColons

namespace NanoCore.Assistant.Rules.Decisions

open NanoCore.Common.JsonParsing
open NanoCore.Foundation.JsonColons
open NanoCore.Foundation.JsonLoads
open NanoCore.Foundation.JsonText
open NanoCore.Foundation.PythonText

inductive Decision where
  | answerIntent (content : Option Text)
  | final (content : Text)
  | toolCall (tool : String) (args : JsonObject)
  | invalid

def nonBlankText : Option Json → Option Text
  | some (.str s) => if strip s = [] then none else some s
  | _ => none

/-- `decision_type in {...}`, which raises for a list or a dictionary. -/
def hashable : Option Json → Except PyError Unit
  | some (.arr _) | some (.obj _) => .error .typeError
  | _ => .ok ()

def isText (value : Option Json) (text : String) : Bool :=
  match value with
  | some (.str s) => s == text.toList
  | _ => false

def toolCallOf (payload : JsonObject) : Decision :=
  match payload.get "tool", (payload.get "args").getD (.obj []) with
  | some (.str tool), .obj args => .toolCall (.ofList tool) args
  | _, _ => .invalid

def decisionOf (payload : JsonObject) : Except PyError Decision := do
  let decisionType := payload.get "type"
  hashable decisionType
  if isText decisionType "final" then
    return (nonBlankText (payload.get "content")).elim .invalid .final
  else if isText decisionType "answer_intent" then
    return .answerIntent (nonBlankText (payload.get "content"))
  else if isText decisionType "tool_call" then return toolCallOf payload
  else return .invalid

variable (readFloat : ReadFloat)

def parseDecision (raw : Text) : Except PyError Decision := do
  match ← extractJson readFloat raw with
  | some (.obj payload) => decisionOf payload
  | _ => return .invalid

def toolSignature (toolName : String) (args : JsonObject) : Text :=
  toolName.toList ++ ':' :: dumps (.obj args)

/-- Two calls have the same signature exactly when they have the same name and
the same arguments up to the order of keys. -/
theorem toolSignature_eq_iff {m n : String} {as bs : JsonObject} :
    toolSignature m as = toolSignature n bs ↔ m = n ∧ Json.Same (.obj as) (.obj bs) := by
  constructor
  · intro h
    obtain ⟨hname, hargs⟩ := colon_write_obj_inj h
    exact ⟨String.toList_inj.mp hname, congrArg Json.obj hargs⟩
  · rintro ⟨rfl, hsame⟩
    rw [toolSignature, toolSignature, dumps_eq_iff.mpr hsame]

end NanoCore.Assistant.Rules.Decisions
