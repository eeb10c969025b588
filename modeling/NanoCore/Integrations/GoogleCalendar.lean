import NanoCore.Foundation.JsonLoads
import NanoCore.Foundation.JsonRepr
import NanoCore.Foundation.StableSorts
import NanoCore.MeetingReminders.Service

namespace NanoCore.Integrations.GoogleCalendar

open NanoCore.Foundation.JsonLoads
open NanoCore.Foundation.JsonRepr
open NanoCore.Foundation.JsonText
open NanoCore.Foundation.PythonDatetime
open NanoCore.Foundation.PythonIsoparse
open NanoCore.Foundation.PythonText
open NanoCore.Foundation.StableSorts
open NanoCore.MeetingReminders.Service

inductive CalendarError where
  | authentication (message : Text)
  | notFound (calendarId : Text)
  /-- `HttpError` and what else a request to the API raises. -/
  | api (text : Text)
  | raised (e : PyError)
  deriving DecidableEq, Repr

/-- The requests that are executed, with the responses decoded. -/
structure CalendarService where
  calendarList : Except CalendarError Json
  /-- The texts of the times are the isoformats of the datetimes. -/
  events : (calendarId : Text) → (timeMin : Datetime) → (timeMax : Option Datetime) →
    (maxResults : Nat) → Except CalendarError Json

def textOf : Option Json → Option Text
  | some (.str s) => some s
  | _ => none

/-- `datetime.max.replace(tzinfo=UTC)`. -/
def latestStart : Datetime := .utc maxWall

/-- A handler for `ValueError`. -/
def orOnValueError (x : Except PyError Datetime) (handler : Except PyError Datetime) :
    Except PyError Datetime :=
  match x with
  | .error .valueError => handler
  | x => x

def parseEventStartForSort (event : JsonObject) : Except PyError Datetime :=
  match (event.get "start").getD (.obj []) with
  | .obj start =>
      let fromDate : Except PyError Datetime :=
        match textOf (JsonObject.get start "date") with
        | some dateValue =>
            orOnValueError
              (do
                let parsed ← fromisoformat dateValue
                return ⟨parsed.wall, some 0⟩)
              (.ok latestStart)
        | none => .ok latestStart
      match textOf (JsonObject.get start "dateTime") with
      | some dateTime =>
          orOnValueError
            (do
              let parsed ← fromisoformat (replaceZulu dateTime)
              parsed.normalizeTimestamp.astimezoneUtc)
            fromDate
      | none => fromDate
  | _ => .error .attributeError

def eventSortKey (event : JsonObject) : Except PyError Datetime := parseEventStartForSort event

/-- The keys are all computed before the values are sorted. -/
def keyedEvents (events : List JsonObject) : Except PyError (List (Datetime × JsonObject)) :=
  events.mapM fun event => do
    let key ← eventSortKey event
    return (key, event)

def instantOf (keyed : Datetime × JsonObject) : Int := keyed.1.instant

/-- `events.sort(key=_event_sort_key)`. -/
def sortEvents (events : List JsonObject) : Except PyError (List JsonObject) := do
  let keyed ← keyedEvents events
  return (sortByKey instantOf keyed).map Prod.snd

variable (googleCalendarIds : Text) (service service' : Except CalendarError CalendarService)
  (now : Datetime) (maximumResults : Nat) (calendarId : Option Text)

end NanoCore.Integrations.GoogleCalendar
