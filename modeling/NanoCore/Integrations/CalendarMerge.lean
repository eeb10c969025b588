import NanoCore.Foundation.ExceptionLoops
import NanoCore.Integrations.GoogleCalendar

namespace NanoCore.Integrations.CalendarMerge

open NanoCore.Foundation.ExceptionLoops
open NanoCore.Foundation.Exceptions
open NanoCore.Foundation.JsonLoads
open NanoCore.Foundation.JsonRepr
open NanoCore.Foundation.JsonText
open NanoCore.Foundation.PythonDatetime
open NanoCore.Foundation.PythonText
open NanoCore.Foundation.StableSorts
open NanoCore.Integrations.GoogleCalendar

variable {event event' : JsonObject} {events : List JsonObject}
  {lists : List (List JsonObject)} {keyed : List (Datetime × JsonObject)} {n : Nat}

/-- Both events have a key, and the keys are in order. -/
def KeyLe (event event' : JsonObject) : Prop :=
  ∃ key key', eventSortKey event = .ok key ∧ eventSortKey event' = .ok key' ∧
    key.instant ≤ key'.instant

def KeysSorted (events : List JsonObject) : Prop := events.Pairwise KeyLe

theorem keyedEvents_eq_ok_iff : keyedEvents events = .ok keyed ↔
    (∀ pair ∈ keyed, eventSortKey pair.2 = .ok pair.1) ∧ keyed.map Prod.snd = events := by
  have hkeyed : ∀ event pair, (do
      let key ← eventSortKey event
      return (key, event)) = Except.ok pair ↔
      eventSortKey pair.2 = .ok pair.1 ∧ pair.2 = event := by
    intro event pair
    rw [bind_eq_ok_iff]
    constructor
    · rintro ⟨key, hkey, hpair⟩
      cases hpair
      exact ⟨hkey, rfl⟩
    · rintro ⟨hkey, rfl⟩
      exact ⟨pair.1, hkey, rfl⟩
  have hsame : keyed.map Prod.snd = events ↔
      List.Forall₂ (fun pair event => pair.2 = event) keyed events := by
    rw [← List.forall₂_map_left_iff, List.forall₂_eq_eq_eq]
  rw [keyedEvents, mapM_eq_ok_iff, hsame, ← List.forall₂_and_left]
  simp only [hkeyed]
  exact ⟨List.Forall₂.flip, List.Forall₂.flip⟩

theorem sortedByKey_of_keyedEvents (hsorted : KeysSorted events)
    (h : keyedEvents events = .ok keyed) : SortedByKey instantOf keyed := by
  obtain ⟨hkeys, rfl⟩ := keyedEvents_eq_ok_iff.mp h
  refine (List.pairwise_map.mp hsorted).imp_of_mem ?_
  rintro pair pair' hmem hmem' ⟨key, key', hkey, hkey', hle⟩
  rw [hkeys pair hmem] at hkey
  rw [hkeys pair' hmem'] at hkey'
  cases hkey
  cases hkey'
  exact hle

/-- The sort rearranges the events by their keys, and events that are in order, as
those with one key, stay in their order. -/
theorem sortEvents_eq_ok {sorted : List JsonObject} (h : sortEvents events = .ok sorted) :
    sorted.Perm events ∧ KeysSorted sorted ∧
      ∀ chosen, chosen.Sublist events → KeysSorted chosen → chosen.Sublist sorted := by
  obtain ⟨keyed, hkeyed, hsorted⟩ := bind_eq_ok_iff.mp h
  cases hsorted
  obtain ⟨hkeys, rfl⟩ := keyedEvents_eq_ok_iff.mp hkeyed
  have hperm : (sortByKey instantOf keyed).Perm keyed := perm_sortByKey keyed
  refine ⟨hperm.map Prod.snd, ?_, ?_⟩
  · refine List.pairwise_map.mpr ((sortedByKey_sortByKey keyed).imp_of_mem ?_)
    intro pair pair' hmem hmem' hle
    exact ⟨pair.1, pair'.1, hkeys pair (hperm.mem_iff.mp hmem),
      hkeys pair' (hperm.mem_iff.mp hmem'), hle⟩
  · intro chosen hchosen hinorder
    obtain ⟨front, hfront, rfl⟩ := List.sublist_map_iff.mp hchosen
    have hfrontKeys : keyedEvents (front.map Prod.snd) = .ok front :=
      keyedEvents_eq_ok_iff.mpr ⟨fun pair hmem => hkeys pair (hfront.subset hmem), rfl⟩
    exact (sublist_sortByKey (sortedByKey_of_keyedEvents hinorder hfrontKeys) hfront).map _

variable {googleCalendarIds : Text} {service service' : Except CalendarError CalendarService}
  {client : CalendarService} {now : Datetime} {calendarId : Option Text}
  {complete : Text → List JsonObject} {targets : List (Text × Text)}

def allDay (date : String) : JsonObject :=
  [("start".toList, .obj [("date".toList, .str date.toList)])]

/-- A calendar with an event of the same day as one of the other, and one without a start. -/
def sampleEvents (calendarId : Text) : List JsonObject :=
  if calendarId = "work".toList then [allDay "2026-01-02", allDay "2026-01-03"]
  else [allDay "2026-01-02", []]

def sampleService : CalendarService where
  calendarList := .ok (.obj [("items".toList, .arr [.obj [("id".toList, .str "work".toList)],
    .obj [("id".toList, .str "home".toList)]])])
  events calendarId _ _ maxResults :=
    .ok (.obj [("items".toList, .arr (((sampleEvents calendarId).take maxResults).map .obj))])

end NanoCore.Integrations.CalendarMerge
