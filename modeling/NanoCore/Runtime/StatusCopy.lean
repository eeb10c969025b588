import NanoCore.Foundation.PythonText

namespace NanoCore.Runtime.StatusCopy

open NanoCore.Foundation.PythonText

structure StatusLine where
  title : Text
  detail : Text
  deriving DecidableEq, Repr

def received : StatusLine := ⟨"On it.".toList, "Give me a moment.".toList⟩

def thinking : StatusLine := ⟨"I'm thinking.".toList, "Gathering what I need.".toList⟩

def composing : StatusLine := ⟨"Finishing up.".toList, "Almost there.".toList⟩

def planningAction : StatusLine :=
  ⟨"I'm planning an action.".toList, "Deciding how to handle this.".toList⟩

def answering : StatusLine := ⟨"I'm answering.".toList, "Working out what to say.".toList⟩

def reviewingCapabilities : StatusLine :=
  ⟨"I'm reviewing my capabilities.".toList, "Reviewing what I can actually do.".toList⟩

def introducing : StatusLine :=
  ⟨"I'm introducing myself.".toList, "Putting together an introduction.".toList⟩

def settingTimer : StatusLine :=
  ⟨"I'm setting a timer.".toList, "Scheduling the requested timer.".toList⟩

def preparingWipe : StatusLine :=
  ⟨"I'm wiping my memory.".toList, "Preparing confirmation for the destructive request.".toList⟩

def preparingReboot : StatusLine :=
  ⟨"I'm rebooting the Raspberry Pi.".toList,
    "Preparing confirmation for the reboot request.".toList⟩

def preparingServiceRestart : StatusLine :=
  ⟨"I'm restarting my service.".toList,
    "Preparing confirmation for the service restart request.".toList⟩

def preparingUpdate : StatusLine :=
  ⟨"A new version is available.".toList,
    "Preparing confirmation for the software update.".toList⟩

def notedForLaterTitle : Text := "I noted something to discuss later.".toList

def dismissedFollowUpTitle : Text := "I dismissed a follow-up note.".toList

def rescheduledFollowUpTitle : Text := "I rescheduled a follow-up note.".toList

def toolActivityTitles : List (String × String) :=
  [("analyze_system", "I'm analyzing system specs."),
   ("cancel_timers", "I'm cancelling timers."),
   ("clear_all_timers", "I'm clearing all timers."),
   ("rename_timer", "I'm renaming a timer."),
   ("rename_stopwatch", "I'm renaming a stopwatch."),
   ("stop_stopwatches", "I'm stopping stopwatches."),
   ("check_health", "I'm running a health check."),
   ("get_current_weather", "I'm checking the weather."),
   ("list_files", "I'm listing files."),
   ("list_internal_notes", "I'm reviewing internal notes."),
   ("list_timers", "I'm checking timers."),
   ("list_upcoming_calendar_events", "I'm checking your calendar."),
   ("list_google_calendars", "I'm listing your Google calendars."),
   ("read_google_drive_file", "I'm reading from Google Drive."),
   ("read_file", "I'm reading a file."),
   ("run_python", "I'm running code."),
   ("start_timer", "I'm setting a timer."),
   ("start_stopwatch", "I'm starting a stopwatch."),
   ("write_file", "I'm writing a file.")]

def runningToolTitle (toolName : String) : Text :=
  ((toolActivityTitles.lookup toolName).getD "I'm working on something.").toList

def runningTool (toolName : String) : StatusLine :=
  ⟨runningToolTitle toolName, "Give me a moment.".toList⟩

end NanoCore.Runtime.StatusCopy
