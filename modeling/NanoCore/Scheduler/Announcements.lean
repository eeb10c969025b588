import NanoCore.Foundation.Runs
import NanoCore.Runtime.Activity
import NanoCore.Scheduler.Jobs

namespace NanoCore.Scheduler.Announcements

open NanoCore.Config
open NanoCore.Foundation.KeyedTable
open NanoCore.Foundation.NumberedLog
open NanoCore.Foundation.PythonDatetime
open NanoCore.Foundation.PythonText
open NanoCore.Foundation.Runs
open NanoCore.Memory.Models
open NanoCore.Memory.Repository
open NanoCore.Runtime.Activity
open NanoCore.Runtime.State
open NanoCore.Scheduler.Jobs
open NanoCore.Timers.Formatting

structure System where
  server : Server
  hub : ActivityHub

inductive Event where
  | completeTimer (timerId : Int)
  /-- Whatever else the server does. -/
  | elsewhere (server : Server) (calls : List HubCall)

def newCalls (before after : Server) : List HubCall :=
  (after.activity.drop before.activity.length).map hubCall

def step (u : PyData) (mode : VoicePlaybackMode) (system : System) : Event → System
  | .completeTimer timerId =>
      let server := completeTimer timerId system.server
      ⟨server, system.hub.calls u mode (newCalls system.server server)⟩
  | .elsewhere server calls => ⟨server, system.hub.calls u mode calls⟩

def start (server : Server) : System := ⟨server, (ActivityHub.initial 100).1⟩

structure Completes (timerId : Int) (server : Server) (timer : Timer) (dueAt : Int) : Prop where
  found : getTimer timerId server.database = some timer
  kind : timer.kind = .countdown
  due : timer.dueAt = some dueAt
  reached : dueAt ≤ server.clock.now

def completionDetail (timer : Timer) (dueAt : Int) : Text :=
  (formatDueTimer timer.label timer.createdAt dueAt timer.durationSeconds).2

def Announced (hub hub' : ActivityHub) : Prop :=
  ∃ event ∈ hub'.events, hub.nextId ≤ event.id ∧ event.source = voiceAnnounceSource

instance (hub hub' : ActivityHub) : Decidable (Announced hub hub') :=
  inferInstanceAs (Decidable (∃ event ∈ hub'.events, _))

def IsNews (u : PyData) (hub : ActivityHub) (message : Text) : Prop :=
  hub.lastVoiceAnnouncement ≠ some (normalizeVoiceAnnouncement u (spokenText message))

instance (u : PyData) (hub : ActivityHub) (message : Text) : Decidable (IsNews u hub message) :=
  inferInstanceAs (Decidable (_ ≠ _))

section Completion

variable {u : PyData} {mode : VoicePlaybackMode} {server : Server} {hub : ActivityHub}
variable {timerId dueAt : Int} {timer : Timer} {recorded : List ActivityEvent}

theorem newCalls_completeTimer (h : Completes timerId server timer dueAt) :
    newCalls server (completeTimer timerId server) =
      [.log (formatDueTimer timer.label timer.createdAt dueAt timer.durationSeconds).1
        (some (completionDetail timer dueAt)) "scheduler.timers".toList,
        .announceVoice (completionDetail timer dueAt)] := by
  have hactivity (server : Server) : (deleteTimer timerId server).1.activity = server.activity := by
    unfold deleteTimer
    split <;> rfl
  have hcompleted : (completeTimer timerId server).activity =
      (logCompletion timer dueAt server.clock.now server.tick).activity := by
    simp only [completeTimer, h.found, h.kind, h.due, if_neg (Int.not_lt.mpr h.reached)]
    exact hactivity _
  have hlogged : (logCompletion timer dueAt server.clock.now server.tick).activity =
      server.activity ++ [.log _ _ _, .announceVoice _] := List.append_assoc ..
  rw [newCalls, hcompleted, hlogged, List.drop_left]
  rfl

theorem spokenText_ne_nil {message : Text} {c : Char} (hc : c ∈ message)
    (hspace : isSpace c = false) (hstop : c ≠ '.') : spokenText message ≠ [] := by
  have hmem : c ∈ spokenText message := by
    rw [spokenText, rstripChars, List.mem_reverse]
    refine mem_dropWhile_of_not (List.mem_reverse.mpr (mem_strip hc hspace)) ?_
    simpa using hstop
  exact List.ne_nil_of_mem hmem

theorem spokenText_completionDetail_ne_nil : spokenText (completionDetail timer dueAt) ≠ [] := by
  have hmem : 'Y' ∈ completionDetail timer dueAt := List.mem_cons_self
  exact spokenText_ne_nil hmem (by decide) (by decide)

/-- The completion logged and announced is heard when the text is news. -/
theorem announced_calls_iff (hmode : mode ≠ .local) (hkeeps : hub.Keeps recorded)
    (hpos : 0 < hub.maxEvents) {title source message : Text} {detail : Option Text}
    (hspoken : spokenText message ≠ []) (hsource : source ≠ voiceAnnounceSource) :
    Announced hub (hub.calls u mode [.log title detail source, .announceVoice message]) ↔
      IsNews u hub message := by
  change Announced hub ((hub.log title detail source).1.announceVoice u mode message).1 ↔ _
  by_cases hnews : IsNews u hub message
  · refine iff_of_true ?_ hnews
    have hnews' : (hub.log title detail source).1.lastVoiceAnnouncement ≠
        some (normalizeVoiceAnnouncement u (spokenText message)) := hnews
    rw [announceVoice_of_new hmode hspoken hnews']
    exact ⟨_, mem_appendBounded_self hpos _, Nat.le_succ _, rfl⟩
  · refine iff_of_false ?_ hnews
    have hsame : (hub.log title detail source).1.lastVoiceAnnouncement =
        some (normalizeVoiceAnnouncement u (spokenText message)) := not_not.mp hnews
    rw [announceVoice_of_same hsame]
    rintro ⟨event, hmem, hnew, hvoice⟩
    -- the only new event is the entry of the log
    have hafter := hkeeps.record .log hub.state source title detail
    change event ∈ (hub.record .log hub.state source title detail).1.events at hmem
    rw [hafter.events] at hmem
    rcases List.mem_append.mp (mem_of_mem_newest hmem) with hold | hlogged
    · have hlt := hkeeps.numbered.lt_of_mem hold
      rw [hkeeps.nextId] at hnew
      omega
    · rw [List.mem_singleton.mp hlogged] at hvoice
      exact hsource hvoice

end Completion

section Runs

variable {u : PyData} {mode : VoicePlaybackMode} {server : Server} {events : List Event}

theorem keeps_stateAt (u : PyData) (mode : VoicePlaybackMode) (server : Server)
    (events : List Event) (k : Nat) :
    (stateAt (step u mode) (start server) events k).hub.maxEvents = 100 ∧
      ∃ recorded, (stateAt (step u mode) (start server) events k).hub.Keeps recorded := by
  refine invariant_of_kept (P := fun system : System =>
    system.hub.maxEvents = 100 ∧ ∃ recorded, system.hub.Keeps recorded)
    ⟨rfl, _, ActivityHub.keeps_initial 100⟩ ?_ k
  rintro system event ⟨hmax, recorded, hkeeps⟩
  cases event with
  | completeTimer timerId => exact ⟨(calls_maxEvents ..).trans hmax, hkeeps.calls _⟩
  | elsewhere server calls => exact ⟨(calls_maxEvents ..).trans hmax, hkeeps.calls _⟩

/-- In every run, a completion is heard exactly when its text is not the last
announcement again. -/
theorem announced_iff_isNews (hmode : mode ≠ .local) {k : Nat} {timerId dueAt : Int}
    {timer : Timer} (hevent : events[k]? = some (.completeTimer timerId))
    (hcompletes : Completes timerId (stateAt (step u mode) (start server) events k).server
      timer dueAt) :
    Announced (stateAt (step u mode) (start server) events k).hub
        (stateAt (step u mode) (start server) events (k + 1)).hub ↔
      IsNews u (stateAt (step u mode) (start server) events k).hub
        (completionDetail timer dueAt) := by
  obtain ⟨hmax, recorded, hkeeps⟩ := keeps_stateAt u mode server events k
  rw [stateAt_succ hevent, step]
  dsimp only
  rw [newCalls_completeTimer hcompletes]
  exact announced_calls_iff hmode hkeeps (hmax ▸ Nat.succ_pos 99)
    spokenText_completionDetail_ne_nil (by decide)

end Runs

def teaTimer (timerId : Int) : Timer where
  id := timerId
  label := "Tea".toList
  dueAt := some 0
  durationSeconds := some 60
  createdAt := -60 * second

def twoTeas : Server :=
  { Server.initial (.stopped 0) with
    database := { Database.empty with
      timers := (Table.empty.put (teaTimer 1)).put (teaTimer 2) } }

def bothComplete : List Event := [.completeTimer 1, .completeTimer 2]

theorem announced_first_tea :
    Announced (stateAt (step .ascii .both) (start twoTeas) bothComplete 0).hub
        (stateAt (step .ascii .both) (start twoTeas) bothComplete 1).hub ↔
      IsNews .ascii (stateAt (step .ascii .both) (start twoTeas) bothComplete 0).hub
        (completionDetail (teaTimer 1) 0) :=
  announced_iff_isNews (by decide) rfl ⟨by decide +kernel, rfl, rfl, by decide +kernel⟩

theorem not_announced_second_tea :
    ¬ ∀ (u : PyData) (mode : VoicePlaybackMode) (server : Server) (events : List Event) (k : Nat)
      (timerId dueAt : Int) (timer : Timer), mode ≠ .local →
      events[k]? = some (.completeTimer timerId) →
      Completes timerId (stateAt (step u mode) (start server) events k).server timer dueAt →
      Announced (stateAt (step u mode) (start server) events k).hub
        (stateAt (step u mode) (start server) events (k + 1)).hub := by
  intro h
  have hsecond := h .ascii .both twoTeas bothComplete 1 2 0 (teaTimer 2) (by decide) rfl
    ⟨by decide +kernel, rfl, rfl, by decide +kernel⟩
  revert hsecond
  decide +kernel

end NanoCore.Scheduler.Announcements
