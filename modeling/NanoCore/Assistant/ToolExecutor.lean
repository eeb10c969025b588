import NanoCore.Assistant.State
import NanoCore.Assistant.ToolRunner
import NanoCore.Timers.Operations

namespace NanoCore.Assistant.ToolExecutor

open NanoCore.Foundation.PythonText
open NanoCore.Assistant.Sources
open NanoCore.Assistant.State
open NanoCore.Assistant.ToolRunner (ToolResult errorContent)
open NanoCore.Runtime.State
open NanoCore.Timers.Labels
open NanoCore.Timers.Operations
open NanoCore.Tools.Registry

variable (u : PyData) (environment : Environment)

def runTool (toolName : String) (args : PyDict) (server : Server) :
    Server × Except PyError Text :=
  (runTimerTool u toolName args server).getD (environment.runOtherTool toolName args server)

def execute : String → PyDict → Server → Server × ToolResult :=
  ToolRunner.execute listTools environment.describe (runTool u environment)

def silentToolNames : List String := ["rename_timer", "rename_stopwatch"]

/-- The calls behind the buttons of the user interface. -/
def isSilent (toolName : String) (args : PyDict) : Bool :=
  silentToolNames.contains toolName ||
    (toolName = "cancel_timers" && (givenId (args.lookup "timer_id")).isSome) ||
    (toolName = "stop_stopwatches" && (givenId (args.lookup "stopwatch_id")).isSome)

/-- `_silent_tool_error_facts` of the content of a failure, which gives its
error text back. -/
def silentToolErrorFacts (message : Text) : Text :=
  if strip message = [] then errorContent message else strip message

def run (request : Request) (toolName : String) (args : PyDict) (server : Server) :
    Server × ResponseSource :=
  let (server, result) := execute u environment toolName args server
  let silent := isSilent toolName args
  (server,
    match result.outcome with
    | .ok content =>
        toolSource .toolResult request toolName (if silent then [] else content) silent
    | .error message =>
        toolSource .toolError request toolName
          (if silent then silentToolErrorFacts message else errorContent message) silent)

end NanoCore.Assistant.ToolExecutor
