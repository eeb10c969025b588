import NanoCore.Foundation.PythonRegex

namespace NanoCore.Api.Routes

open NanoCore.Foundation.PythonRegex
open NanoCore.Foundation.PythonText
open NanoCore.Foundation.Regex
open NanoCore.Foundation.RegexSearch

inductive Piece where
  | text (s : String)
  | param
  deriving DecidableEq, Repr

def Piece.regex : Piece → Regex
  | .text s => lit s
  | .param => plus true (.sat fun c => c != '/')

structure Route where
  method : String
  /-- The literal text that the template starts with. -/
  base : String
  rest : List Piece := []
  endpoint : String
  deriving DecidableEq, Repr

def Route.pathRegex (route : Route) : Regex :=
  seqs (lit route.base :: route.rest.map Piece.regex ++ [atEnd])

def Route.fits (route : Route) (method : String) (path : Text) : Bool :=
  route.method == method && (matchPrefix route.pathRegex path).isSome

/-- `api_router.routes`. -/
def apiRouter : List Route :=
  [{ method := "GET", base := "/api/calendar/meeting-reminders"
     endpoint := "read_meeting_reminders" },
   { method := "PUT", base := "/api/calendar/meeting-reminders"
     endpoint := "upsert_meeting_reminder_route" },
   { method := "DELETE", base := "/api/calendar/meeting-reminders"
     endpoint := "delete_meeting_reminder_route" },
   { method := "GET", base := "/api/calendar/calendars", endpoint := "read_calendars" },
   { method := "GET", base := "/api/calendar/default", endpoint := "read_default_calendar" },
   { method := "GET", base := "/api/calendar/events", endpoint := "read_calendar_events" },
   { method := "GET", base := "/api/drive/files/", rest := [.param]
     endpoint := "read_drive_file_metadata" },
   { method := "GET", base := "/api/drive/files/", rest := [.param, .text "/content"]
     endpoint := "read_drive_file_content" },
   { method := "POST", base := "/api/chat", endpoint := "chat" },
   { method := "GET", base := "/api/chat/wake", endpoint := "wake" },
   { method := "GET", base := "/api/health", endpoint := "health" },
   { method := "GET", base := "/api/location", endpoint := "get_location" },
   { method := "POST", base := "/api/location", endpoint := "update_location" },
   { method := "GET", base := "/api/storage", endpoint := "read_storage_snapshot" },
   { method := "GET", base := "/api/greeting", endpoint := "greeting" },
   { method := "GET", base := "/api/status", endpoint := "status" },
   { method := "GET", base := "/api/events", endpoint := "events" },
   { method := "GET", base := "/api/system/metrics", endpoint := "system_metrics" },
   { method := "POST", base := "/api/timers", endpoint := "post_timer" },
   { method := "POST", base := "/api/stopwatches", endpoint := "post_stopwatch" },
   { method := "PATCH", base := "/api/timers/", rest := [.param], endpoint := "patch_timer" },
   { method := "DELETE", base := "/api/timers/", rest := [.param], endpoint := "delete_timer" },
   { method := "PATCH", base := "/api/stopwatches/", rest := [.param]
     endpoint := "patch_stopwatch" },
   { method := "DELETE", base := "/api/stopwatches/", rest := [.param]
     endpoint := "delete_stopwatch" },
   { method := "GET", base := "/api/proactive", endpoint := "proactive_status" },
   { method := "POST", base := "/api/proactive/dismiss", endpoint := "dismiss_proactive" },
   { method := "GET", base := "/api/voice/status", endpoint := "voice_status" },
   { method := "GET", base := "/api/voice/mode", endpoint := "voice_mode" },
   { method := "PUT", base := "/api/voice/mode", endpoint := "update_voice_mode" },
   { method := "GET", base := "/api/voice/volume", endpoint := "voice_volume" },
   { method := "PUT", base := "/api/voice/volume", endpoint := "update_voice_volume" },
   { method := "POST", base := "/api/voice/transcribe", endpoint := "transcribe_voice" },
   { method := "POST", base := "/api/voice/command", endpoint := "voice_command" },
   { method := "POST", base := "/api/voice", endpoint := "synthesize_voice" },
   { method := "GET", base := "/api/tool-commands", endpoint := "tool_commands" },
   { method := "GET", base := "/api/weather/current", endpoint := "current_weather" }]

/-- The route whose handler runs, the first that fits. -/
def findRoute (method : String) (path : Text) : Option Route :=
  apiRouter.find? fun route => route.fits method path

section

variable {route : Route} {method : String} {path : Text}

theorem mem_of_findRoute (h : findRoute method path = some route) : route ∈ apiRouter :=
  List.mem_of_find?_eq_some h

theorem base_prefix_of_findRoute (h : findRoute method path = some route) :
    route.base.toList <+: path := by
  have hfits := List.find?_some h
  rw [Route.fits, Bool.and_eq_true, matchPrefix_isSome_iff] at hfits
  obtain ⟨-, w, after, rfl, hmatches⟩ := hfits
  rw [Route.pathRegex, List.cons_append, matches_seqs_cons] at hmatches
  obtain ⟨v, rest, rfl, hbase, -⟩ := hmatches
  rw [matches_lit] at hbase
  subst hbase
  rw [List.append_assoc]
  exact List.prefix_append ..

end

end NanoCore.Api.Routes
