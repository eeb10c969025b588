import NanoCore.Assistant.ResponsePolish
import NanoCore.Assistant.ToolExecutor
import NanoCore.Foundation.JsonWriters

namespace NanoCore.Assistant.ToolFailures

open NanoCore.Foundation.Effects
open NanoCore.Foundation.Effects.Effect
open NanoCore.Foundation.JsonLoads
open NanoCore.Foundation.JsonRepr
open NanoCore.Foundation.JsonText
open NanoCore.Foundation.JsonWriters
open NanoCore.Foundation.PythonJson
open NanoCore.Foundation.PythonText
open NanoCore.Assistant.Prompts (responseComposerPrompt)
open NanoCore.Assistant.ResponseComposer
open NanoCore.Assistant.ResponsePolish
open NanoCore.Assistant.Sources
open NanoCore.Assistant.State
open NanoCore.Assistant.ToolExecutor
open NanoCore.Assistant.ToolRunner (ToolResult errorContent)
open NanoCore.Runtime.State
open NanoCore.Timers.Operations

section Readers

variable {ω : Type} (parts : Parts ω)

end Readers

section Message

variable {ω : Type} (u : PyData) (parts : Parts ω) (message : Text)

end Message

section Reply

variable {ω : Type} (u : PyData) (parts : Parts ω)

variable {u} {environment : Environment} {request : Request} {toolName : String} {args : PyDict}
  {server : Server} {message : Text}

end Reply

end NanoCore.Assistant.ToolFailures
