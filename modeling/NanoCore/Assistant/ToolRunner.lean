import NanoCore.Foundation.PythonJson
import NanoCore.Tools.Registry

namespace NanoCore.Assistant.ToolRunner

open NanoCore.Foundation.PythonJson
open NanoCore.Foundation.PythonText
open NanoCore.Tools.Registry

structure ToolResult where
  tool : String
  /-- The content of a success, the error text of a failure. -/
  outcome : Except Text Text

def errorContent (message : Text) : Text :=
  "\x7b\"ok\": false, \"error\": ".toList ++ dumpsText message ++ ['}']

def ToolResult.content (result : ToolResult) : Text :=
  match result.outcome with
  | .ok content => content
  | .error message => errorContent message

def unknownToolMessage (tools : List ToolSpec) (toolName : String) : Text :=
  ("Unknown tool: " ++ toolName ++ ". Available tools: " ++
    ", ".intercalate (tools.map ToolSpec.name)).toList

/-- The error text of an exception of a handler. -/
def failureMessage (describe : PyError → Text) (toolName : String) : PyError → Text
  | .toolError message => message
  | e => ("Error while running " ++ toolName ++ ": ").toList ++ describe e

section Execute

variable {σ α : Type} (tools : List ToolSpec) (describe : PyError → Text)
variable (handler : String → α → σ → σ × Except PyError Text)

/-- `ToolRunner.execute`, which turns every exception into a failed result. -/
def execute (toolName : String) (args : α) (s : σ) : σ × ToolResult :=
  if (findTool tools toolName).isNone then
    (s, ⟨toolName, .error (unknownToolMessage tools toolName)⟩)
  else
    match handler toolName args s with
    | (s, .ok content) => (s, ⟨toolName, .ok content⟩)
    | (s, .error e) => (s, ⟨toolName, .error (failureMessage describe toolName e)⟩)

end Execute

end NanoCore.Assistant.ToolRunner
