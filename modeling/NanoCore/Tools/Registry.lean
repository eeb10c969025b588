import NanoCore.Foundation.PythonText

namespace NanoCore.Tools.Registry

open NanoCore.Foundation.PythonText

/-- The name of a registered tool and the keywords of its intent rule. -/
structure ToolSpec where
  name : String
  keywords : List String
  deriving DecidableEq, Repr

def listTools : List ToolSpec :=
  [{ name := "analyze_system"
     keywords := ["system analysis", "analyze system", "analyze my system",
       "run a system analysis", "can you run a system analysis", "system specs",
       "check system specs", "check my system", "what are my system specs", "hardware specs",
       "memory available", "how much memory"] },
   { name := "cancel_timers", keywords := ["timer", "timers", "countdown"] },
   { name := "check_health"
     keywords := ["check your health", "health check", "run diagnostics", "run diagnostic",
       "diagnostic check", "diagnostics check", "check diagnostics", "check diagnostic",
       "check yourself", "self check", "system check"] },
   { name := "clear_all_timers"
     keywords := ["timer", "timers", "clear all timers", "delete all timers"] },
   { name := "get_current_weather"
     keywords := ["weather", "temperature", "forecast", "rain", "how hot", "how cold",
       "is it raining"] },
   { name := "list_files", keywords := ["files", "folders", "directory", "workspace"] },
   { name := "list_google_calendars", keywords := ["google calendar", "calendars"] },
   { name := "list_internal_notes"
     keywords := ["internal notes", "follow-up notes", "discuss later"] },
   { name := "list_timers", keywords := ["timer", "timers", "stopwatch", "stopwatches"] },
   { name := "list_upcoming_calendar_events"
     keywords := ["calendar", "event", "schedule", "appointment", "meeting"] },
   { name := "read_file", keywords := ["file", "open", "read", "show"] },
   { name := "read_google_drive_file"
     keywords := ["google drive", "drive", "google doc", "google sheet", "spreadsheet",
       "gdrive"] },
   { name := "rename_stopwatch"
     keywords := ["rename", "change name", "stopwatch", "stop watch"] },
   { name := "rename_timer", keywords := ["rename", "change name", "timer"] },
   { name := "run_python", keywords := ["python", "calculate", "compute", "run code"] },
   { name := "start_stopwatch"
     keywords := ["stopwatch", "stop watch", "start stopwatch", "add stopwatch"] },
   { name := "start_timer"
     keywords := ["timer", "countdown", "add timer", "start timer", "set timer"] },
   { name := "stop_stopwatches", keywords := ["stopwatch", "stopwatches", "stop watch"] },
   { name := "write_file", keywords := ["write", "edit", "change", "update", "file"] }]

/-- `get_tool`, in a catalog of these tools. -/
def findTool (tools : List ToolSpec) (name : String) : Option ToolSpec :=
  tools.find? fun tool => tool.name == name

def flowOwnedTools : List String :=
  ["start_timer", "start_stopwatch", "list_timers", "cancel_timers", "stop_stopwatches",
   "clear_all_timers"]

/-- The catalog is sorted by name, so no name is registered twice. -/
theorem listTools_sorted : (listTools.map ToolSpec.name).Pairwise (· < ·) := by decide +kernel

end NanoCore.Tools.Registry
