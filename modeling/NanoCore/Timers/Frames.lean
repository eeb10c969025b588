import NanoCore.Timers.Operations

namespace NanoCore.Timers.Frames

open NanoCore.Foundation.PythonDatetime
open NanoCore.Foundation.PythonText
open NanoCore.Memory.Models
open NanoCore.Memory.Repository
open NanoCore.Runtime.State
open NanoCore.Scheduler.Jobs
open NanoCore.Timers.Operations

structure OnlyTimers (before after : Server) : Prop where
  chatMessages : after.database.chatMessages = before.database.chatMessages
  internalNotes : after.database.internalNotes = before.database.internalNotes
  meetingReminders : after.database.meetingReminders = before.database.meetingReminders

namespace OnlyTimers

variable {a b c : Server}

theorem refl (a : Server) : OnlyTimers a a := ⟨rfl, rfl, rfl⟩

theorem trans (h : OnlyTimers a b) (h' : OnlyTimers b c) : OnlyTimers a c where
  chatMessages := h'.chatMessages.trans h.chatMessages
  internalNotes := h'.internalNotes.trans h.internalNotes
  meetingReminders := h'.meetingReminders.trans h.meetingReminders

theorem of_database (h : b.database = a.database) : OnlyTimers a b where
  chatMessages := congrArg Database.chatMessages h
  internalNotes := congrArg Database.internalNotes h
  meetingReminders := congrArg Database.meetingReminders h

end OnlyTimers

variable (server : Server)

theorem onlyTimers_resolveTimerStartTime (startedAt : Option Datetime) :
    OnlyTimers server (resolveTimerStartTime startedAt server).1 := by
  have hclock : OnlyTimers server
      (if isPlausibleTimerStart (.utc server.clock.now) then
        ((server.tick, .ok (.utc server.clock.now)) : Server × Except PyError Datetime)
      else (server.tick, .error .valueError)).1 := by
    split
    · exact .of_database rfl
    · exact .of_database rfl
  unfold resolveTimerStartTime
  cases startedAt with
  | none => exact hclock
  | some value =>
      dsimp only
      split
      · exact .refl server
      · split
        · exact .refl server
        · exact hclock

theorem onlyTimers_addTimer (label : Text) (dueAt : Datetime) (durationSeconds : Int)
    (startedAt : Option Datetime) :
    OnlyTimers server (addTimer label dueAt durationSeconds startedAt server).1 := by
  have hstart := onlyTimers_resolveTimerStartTime server startedAt
  rw [addTimer]
  generalize resolveTimerStartTime startedAt server = started at hstart
  rcases started with ⟨server', e | startTime⟩
  · exact hstart
  · exact hstart.trans ⟨rfl, rfl, rfl⟩

theorem onlyTimers_addStopwatch (label : Text) (startedAt : Option Datetime) :
    OnlyTimers server (addStopwatch label startedAt server).1 := by
  have hstart := onlyTimers_resolveTimerStartTime server startedAt
  rw [addStopwatch]
  generalize resolveTimerStartTime startedAt server = started at hstart
  rcases started with ⟨server', e | startTime⟩
  · exact hstart
  · exact hstart.trans ⟨rfl, rfl, rfl⟩

theorem onlyTimers_deleteTimer (timerId : Int) :
    OnlyTimers server (deleteTimer timerId server).1 := by
  rw [deleteTimer]
  split
  · exact .refl server
  · exact ⟨rfl, rfl, rfl⟩

theorem onlyTimers_updateTimerLabel (timerId : Int) (label : Text) :
    OnlyTimers server (updateTimerLabel timerId label server).1 := by
  rw [updateTimerLabel]
  split
  · exact .refl server
  · exact ⟨rfl, rfl, rfl⟩

theorem onlyTimers_removeOfKind {kind : TimerKind} {remove : Server → Server × Bool} (timerId : Int)
    (hremove : OnlyTimers server (remove server).1) :
    OnlyTimers server (removeOfKind kind remove timerId server).1 := by
  rw [removeOfKind]
  split
  · exact .refl server
  · split
    · exact .refl server
    · exact hremove

theorem onlyTimers_removeCountdownTimer (timerId : Int) :
    OnlyTimers server (removeCountdownTimer timerId server).1 :=
  onlyTimers_removeOfKind server timerId
    (.trans (.of_database rfl : OnlyTimers server (unscheduleTimer timerId server))
      (onlyTimers_deleteTimer _ timerId))

theorem onlyTimers_removeStopwatch (stopwatchId : Int) :
    OnlyTimers server (removeStopwatch stopwatchId server).1 :=
  onlyTimers_removeOfKind server stopwatchId (onlyTimers_deleteTimer server stopwatchId)

theorem onlyTimers_foldl {remove : Timer → Server → Server}
    (hremove : ∀ timer server, OnlyTimers server (remove timer server)) (timers : List Timer)
    (server : Server) :
    OnlyTimers server (timers.foldl (fun server timer => remove timer server) server) := by
  induction timers generalizing server with
  | nil => exact .refl server
  | cons timer rest ih => exact (hremove timer server).trans (ih (remove timer server))

theorem onlyTimers_removeCountdownTimers (timers : List Timer) (server : Server) :
    OnlyTimers server (removeCountdownTimers timers server) :=
  onlyTimers_foldl (fun timer server => onlyTimers_removeCountdownTimer server timer.id) timers
    server

theorem onlyTimers_removeStopwatches (stopwatches : List Timer) (server : Server) :
    OnlyTimers server (removeStopwatches stopwatches server) :=
  onlyTimers_foldl (fun stopwatch server => onlyTimers_removeStopwatch server stopwatch.id)
    stopwatches server

theorem onlyTimers_logStopwatchStopped (server : Server) :
    OnlyTimers server (logStopwatchStopped server) := .of_database rfl

theorem onlyTimers_countdownStart (startedAt : Option Datetime) :
    OnlyTimers server (countdownStart startedAt server).1 := by
  cases startedAt with
  | none => exact .of_database rfl
  | some value => exact .refl server

theorem onlyTimers_insertCountdownTimer (durationSeconds : Int) (label : Text)
    (startedAt : Option Datetime) :
    OnlyTimers server (insertCountdownTimer durationSeconds label startedAt server).1 := by
  have hstart := onlyTimers_countdownStart server startedAt
  rw [insertCountdownTimer]
  split
  · exact .refl server
  · generalize countdownStart startedAt server = begun at hstart
    rcases begun with ⟨begun, startTime⟩
    dsimp only
    rcases startTime.add (durationSeconds * second) with e | dueAt
    · exact hstart
    · have hadded :=
        hstart.trans (onlyTimers_addTimer _ label dueAt durationSeconds (some startTime))
      dsimp only
      generalize addTimer label dueAt durationSeconds (some startTime) begun = added at hadded
      rcases added with ⟨added, e | timer⟩
      · exact hadded
      · exact hadded

theorem onlyTimers_createCountdownTimer (durationSeconds : Int) (label : Text)
    (startedAt : Option Datetime) :
    OnlyTimers server (createCountdownTimer durationSeconds label startedAt server).1 := by
  have hinsert := onlyTimers_insertCountdownTimer server durationSeconds label startedAt
  rw [createCountdownTimer]
  generalize insertCountdownTimer durationSeconds label startedAt server = inserted at hinsert
  rcases inserted with ⟨inserted, e | ⟨timer, dueAt⟩⟩
  · exact hinsert
  · exact hinsert.trans (.of_database rfl)

theorem onlyTimers_createStopwatch (label : Text) (startedAt : Option Datetime) :
    OnlyTimers server (createStopwatch label startedAt server).1 := by
  have hadd := onlyTimers_addStopwatch server label startedAt
  rw [createStopwatch]
  generalize addStopwatch label startedAt server = added at hadd
  rcases added with ⟨added, e | timer⟩
  · exact hadd
  · exact hadd.trans (.of_database rfl)

section Tools

variable (u : PyData) (args : PyDict)

theorem onlyTimers_startTimer : OnlyTimers server (startTimer u args server).1 := by
  rw [startTimer]
  split
  · exact .refl server
  · rename_i durationSeconds _
    have hcreate := onlyTimers_createCountdownTimer server durationSeconds
      (Formatting.strippedOr "Timer" (textArg args "label")) none
    dsimp only
    split
    · rename_i heq
      rwa [heq] at hcreate
    · rename_i heq
      rwa [heq] at hcreate

theorem onlyTimers_startStopwatch : OnlyTimers server (startStopwatch args server).1 := by
  have hcreate := onlyTimers_createStopwatch server
    (Formatting.strippedOr "Stopwatch" (textArg args "label")) none
  rw [startStopwatch]
  split
  · rename_i heq
    rwa [heq] at hcreate
  · rename_i heq
    rwa [heq] at hcreate

theorem onlyTimers_listTimers : OnlyTimers server (Operations.listTimers server).1 := by
  simp only [Operations.listTimers]
  split
  · exact .refl server
  · exact .of_database rfl

theorem onlyTimers_cancelTimers : OnlyTimers server (cancelTimers u args server).1 := by
  simp only [cancelTimers]
  split
  · exact .refl server
  · exact onlyTimers_removeCountdownTimers _ server

theorem onlyTimers_stopStopwatches : OnlyTimers server (stopStopwatches u args server).1 := by
  simp only [stopStopwatches]
  split
  · exact .refl server
  · exact (onlyTimers_removeStopwatches _ server).trans (onlyTimers_logStopwatchStopped _)

theorem onlyTimers_clearAllTimers : OnlyTimers server (clearAllTimers server).1 := by
  simp only [clearAllTimers]
  split
  · exact .refl server
  · have hremoved := (onlyTimers_removeCountdownTimers
        (activeCountdownTimers server.database) server).trans
      (onlyTimers_removeStopwatches (activeStopwatches server.database) _)
    dsimp only
    split
    · exact hremoved
    · exact hremoved.trans (onlyTimers_logStopwatchStopped _)

theorem onlyTimers_renameRow (items : Database → List Timer) (idName itemNoun default : String) :
    OnlyTimers server (renameRow u items idName itemNoun default args server).1 := by
  rw [renameRow]
  split
  · exact .refl server
  · split
    · exact .refl server
    · split
      · exact .refl server
      · rename_i target _ _ newLabel _
        have hupdate := onlyTimers_updateTimerLabel server target.id newLabel
        split
        · rename_i heq
          rwa [heq] at hupdate
        · rename_i heq
          rwa [heq] at hupdate

theorem onlyTimers_runTimerTool {name : String} {result : Server × Except PyError Text}
    (h : runTimerTool u name args server = some result) : OnlyTimers server result.1 := by
  rw [runTimerTool] at h
  split at h
  · cases h
    exact onlyTimers_startTimer server u args
  · split at h
    · cases h
      exact onlyTimers_startStopwatch server args
    · split at h
      · cases h
        exact onlyTimers_listTimers server
      · split at h
        · cases h
          exact onlyTimers_cancelTimers server u args
        · split at h
          · cases h
            exact onlyTimers_stopStopwatches server u args
          · split at h
            · cases h
              exact onlyTimers_renameRow server u args ..
            · split at h
              · cases h
                exact onlyTimers_renameRow server u args ..
              · split at h
                · cases h
                  exact onlyTimers_clearAllTimers server
                · cases h

end Tools

end NanoCore.Timers.Frames
