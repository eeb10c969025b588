import NanoCore.Common.Duration
import NanoCore.Foundation.Runs

/-!
The wake-word listener of `app/voice/listener.py` and the mode requests of
`app/api/voice.py`.  The listener runs on a thread of its own.
-/

namespace NanoCore.Voice.Listener

open NanoCore.Common.Duration
open NanoCore.Foundation.PythonRegex
open NanoCore.Foundation.PythonText
open NanoCore.Foundation.RegexSearch
open NanoCore.Foundation.Runs

inductive ClipError where
  | speechToText
  | other
  deriving DecidableEq, Repr

/-- What a thread meets outside of the listener during one step. -/
structure Outside where
  /-- Of `_record_audio` and `transcribe_audio`. -/
  transcript : Except ClipError Text
  /-- Whether `handle_wake` or `handle_command` returns, and does not raise. -/
  handled : Bool

/-- What the thread of a loop does next. -/
inductive LoopStage where
  | begin
  | testStop
  | recordClip
  | pause
  | wake (command : Text)
  | recordCommand
  | handleCommand (command : Text)
  /-- The `finally` block, left by the loop's condition or by an exception. -/
  | leave (raised : Bool)
  | ended
  deriving DecidableEq, Repr

section Loop

variable (u : PyData) (voiceWakePhrase : Text)

def wakePhrase : Text := u.lower (strip voiceWakePhrase)

def containsWakePhrase (transcript : Text) : Bool :=
  hasSubstring (wakePhrase u voiceWakePhrase) transcript

def commandPattern : Regex :=
  seqs [word foldsTo (wakePhrase u voiceWakePhrase), optSpaces, opt (lit ","), optSpaces,
    .group "1" anything, atEnd]

def extractCommand (transcript : Text) : Text :=
  match search (commandPattern u voiceWakePhrase) transcript with
  | none => []
  | some found => strip (groupText found.groups "1")

def afterClip : Except ClipError Text → LoopStage
  | .error .speechToText => .testStop
  | .error .other => .pause
  | .ok heard =>
      let transcript := u.lower heard
      if !containsWakePhrase u voiceWakePhrase transcript then .testStop
      else .wake (extractCommand u voiceWakePhrase transcript)

def afterCommand (command : Text) : LoopStage :=
  if strip command = [] then .testStop else .handleCommand (strip command)

def afterCommandClip : Except ClipError Text → LoopStage
  | .error .speechToText => .testStop
  | .error .other => .leave true
  | .ok command => afterCommand command

/-- One step of `_listener_loop`. -/
def actLoop (stopSet : Bool) (outside : Outside) : LoopStage → LoopStage
  | .begin => .testStop
  | .testStop => if stopSet then .leave false else .recordClip
  | .recordClip => afterClip u voiceWakePhrase outside.transcript
  | .pause => .testStop
  | .wake command =>
      if !outside.handled then .leave true
      else if command = [] then .recordCommand
      else afterCommand command
  | .recordCommand => afterCommandClip outside.transcript
  | .handleCommand _ => if !outside.handled then .leave true else .testStop
  | .leave _ => .ended
  | .ended => .ended

end Loop

/-- The globals of the module and the threads it has started; `joining` says that a
request waits in `join`, and `lastEnabled` what the last completed request set. -/
structure ListenerState where
  modeEnabled : Bool
  listenerThread : Option Nat
  stopEvent : Bool
  listening : Bool
  threads : List LoopStage
  joining : Bool
  lastEnabled : Bool
  deriving DecidableEq, Repr

namespace ListenerState

def Lives (listener : ListenerState) (i : Nat) : Prop :=
  ∃ stage, listener.threads[i]? = some stage ∧ stage ≠ .ended

/-- `_listener_thread is not None and _listener_thread.is_alive()`. -/
def hasLiveThread (listener : ListenerState) : Bool :=
  match listener.listenerThread.bind (listener.threads[·]?) with
  | none => false
  | some stage => stage ≠ .ended

def startVoiceListener (listener : ListenerState) : ListenerState :=
  if !listener.modeEnabled then listener
  else if listener.hasLiveThread then listener
  else
    { listener with
      stopEvent := false
      listenerThread := some listener.threads.length
      threads := listener.threads ++ [.begin] }

/-- `stop_voice_listener` up to the return of `join`, if it is called. -/
def stopVoiceListener (listener : ListenerState) : ListenerState :=
  { listener with stopEvent := true, joining := listener.hasLiveThread }

def setVoiceModeEnabled (enabled : Bool) (listener : ListenerState) : ListenerState :=
  { listener with modeEnabled := enabled }

/-- `update_voice_mode`.  A request that finds a loop to stop is completed when
`join` returns. -/
def updateVoiceMode (enabled : Bool) (listener : ListenerState) : ListenerState :=
  let set := listener.setVoiceModeEnabled enabled
  if enabled then { set.startVoiceListener with lastEnabled := true }
  else
    let stopped := set.stopVoiceListener
    { stopped with lastEnabled := if stopped.joining then listener.lastEnabled else false }

/-- `join` returns when the thread has ended or after two seconds. -/
def joinReturns (listener : ListenerState) : ListenerState :=
  { listener with joining := false, lastEnabled := false }

/-- The start of the service. -/
def boot (voiceInputEnabled : Bool) : ListenerState :=
  let initial : ListenerState :=
    { modeEnabled := voiceInputEnabled, listenerThread := none, stopEvent := false
      listening := false, threads := [], joining := false, lastEnabled := voiceInputEnabled }
  if voiceInputEnabled then initial.startVoiceListener else initial

end ListenerState

/-- `_listening` after a step of a loop from `stage`. -/
def listeningAfter (stage : LoopStage) (listening : Bool) : Bool :=
  match stage with
  | .begin => true
  | .leave _ => false
  | _ => listening

inductive Event where
  /-- A request, which waits for the one before it. -/
  | request (enabled : Bool)
  | joinReturns
  | loop (i : Nat) (outside : Outside)

variable (u : PyData) (voiceWakePhrase : Text)

def step (listener : ListenerState) : Event → ListenerState
  | .request enabled =>
      if listener.joining then listener else listener.updateVoiceMode enabled
  | .joinReturns => if listener.joining then listener.joinReturns else listener
  | .loop i outside =>
      match listener.threads[i]? with
      | none => listener
      | some stage =>
          { listener with
            threads := listener.threads.set i
              (actLoop u voiceWakePhrase listener.stopEvent outside stage)
            listening := listeningAfter stage listener.listening }

variable {u voiceWakePhrase} {listener : ListenerState}

/-- Only the thread of the module lives. -/
def OneThread (listener : ListenerState) : Prop :=
  ∀ i, listener.Lives i → listener.listenerThread = some i

theorem hasLiveThread_of_lives {i : Nat} (hthread : listener.listenerThread = some i)
    (hlives : listener.Lives i) : listener.hasLiveThread = true := by
  obtain ⟨stage, hstage, hne⟩ := hlives
  simp [ListenerState.hasLiveThread, hthread, hstage, hne]

theorem lives_of_hasLiveThread (h : listener.hasLiveThread = true) : ∃ i, listener.Lives i := by
  unfold ListenerState.hasLiveThread at h
  split at h
  · cases h
  · rename_i stage hstage
    obtain ⟨i, -, hi⟩ := Option.bind_eq_some_iff.mp hstage
    exact ⟨i, stage, hi, of_decide_eq_true h⟩

/-- No thread lives that a start would leave behind. -/
theorem not_lives_of_not_hasLiveThread (hone : OneThread listener)
    (h : listener.hasLiveThread = false) (i : Nat) : ¬listener.Lives i := by
  intro hlives
  rw [hasLiveThread_of_lives (hone i hlives) hlives] at h
  cases h

theorem actLoop_eq_ended_iff {stopSet : Bool} {outside : Outside} {stage : LoopStage} :
    actLoop u voiceWakePhrase stopSet outside stage = .ended ↔
      stage = .ended ∨ ∃ raised, stage = .leave raised := by
  cases stage <;> simp only [actLoop, afterClip, afterCommand, afterCommandClip] <;> grind

theorem stopSet_of_actLoop_eq_leave {stopSet : Bool} {outside : Outside} {stage : LoopStage}
    (h : actLoop u voiceWakePhrase stopSet outside stage = .leave false) : stopSet = true := by
  cases stage <;> simp only [actLoop, afterClip, afterCommand, afterCommandClip] at h <;> grind

theorem lives_of_lives_set {i j : Nat} {stage next : LoopStage} {listening : Bool}
    (hstage : listener.threads[i]? = some stage) (hnext : next ≠ .ended → stage ≠ .ended)
    (h : ListenerState.Lives
      { listener with threads := listener.threads.set i next, listening := listening } j) :
    listener.Lives j := by
  obtain ⟨found, hfound, hne⟩ := h
  by_cases hij : i = j
  · subst hij
    rw [List.getElem?_set_self (List.getElem?_eq_some_iff.mp hstage).1] at hfound
    exact ⟨stage, hstage, hnext (Option.some.inj hfound ▸ hne)⟩
  · rw [List.getElem?_set_ne hij] at hfound
    exact ⟨found, hfound, hne⟩

theorem lives_set {i j : Nat} {stage next : LoopStage} {listening : Bool}
    (hstage : listener.threads[i]? = some stage) (hnext : stage ≠ .ended → next ≠ .ended)
    (h : listener.Lives j) : ListenerState.Lives
      { listener with threads := listener.threads.set i next, listening := listening } j := by
  obtain ⟨found, hfound, hne⟩ := h
  by_cases hij : i = j
  · subst hij
    obtain rfl := Option.some.inj (hstage.symm.trans hfound)
    exact ⟨next, List.getElem?_set_self (List.getElem?_eq_some_iff.mp hstage).1, hnext hne⟩
  · exact ⟨found, (List.getElem?_set_ne hij).trans hfound, hne⟩

/-- The thread that a start leaves is the one that lives. -/
theorem lives_startVoiceListener (h : listener.hasLiveThread = false)
    (hone : OneThread listener) {i : Nat} :
    ListenerState.Lives { listener with
      stopEvent := false
      listenerThread := some listener.threads.length
      threads := listener.threads ++ [.begin] } i ↔ i = listener.threads.length := by
  constructor
  · rintro ⟨stage, hstage, hne⟩
    rw [List.getElem?_append] at hstage
    split at hstage
    · exact absurd ⟨stage, hstage, hne⟩ (not_lives_of_not_hasLiveThread hone h i)
    · rename_i hle
      have hi : i - listener.threads.length < 1 := (List.getElem?_eq_some_iff.mp hstage).1
      omega
  · rintro rfl
    exact ⟨.begin, by simp, by simp⟩

structure Inv (listener : ListenerState) : Prop where
  one : OneThread listener
  stops : ∀ i : Nat, listener.threads[i]? = some (LoopStage.leave false) → listener.stopEvent = true
  joins : listener.joining = true → listener.stopEvent = true
  enabled : ∀ i : Nat, listener.Lives i → listener.stopEvent = false → listener.lastEnabled = true

theorem startVoiceListener_of_live (h : listener.hasLiveThread = true) :
    (listener.setVoiceModeEnabled true).startVoiceListener =
      listener.setVoiceModeEnabled true := by
  have hlive : (listener.setVoiceModeEnabled true).hasLiveThread = true := h
  have henabled : ¬(!(listener.setVoiceModeEnabled true).modeEnabled) = true := Bool.false_ne_true
  rw [ListenerState.startVoiceListener, if_neg henabled, if_pos hlive]

theorem startVoiceListener_of_not_live (h : listener.hasLiveThread = false) :
    (listener.setVoiceModeEnabled true).startVoiceListener =
      { listener.setVoiceModeEnabled true with
        stopEvent := false
        listenerThread := some listener.threads.length
        threads := listener.threads ++ [.begin] } := by
  have hlive : ¬(listener.setVoiceModeEnabled true).hasLiveThread = true := by
    change ¬listener.hasLiveThread = true
    rw [h]
    exact Bool.false_ne_true
  have henabled : ¬(!(listener.setVoiceModeEnabled true).modeEnabled) = true := Bool.false_ne_true
  rw [ListenerState.startVoiceListener, if_neg henabled, if_neg hlive]
  rfl

theorem inv_startVoiceListener (h : Inv listener) (hjoining : listener.joining = false) :
    Inv { (listener.setVoiceModeEnabled true).startVoiceListener with lastEnabled := true } := by
  cases hlive : listener.hasLiveThread with
  | true =>
      rw [startVoiceListener_of_live hlive]
      exact ⟨h.one, h.stops, h.joins, fun _ _ _ => rfl⟩
  | false =>
      rw [startVoiceListener_of_not_live hlive]
      have hlives {i : Nat} := lives_startVoiceListener (i := i) hlive h.one
      refine ⟨fun i hi => ?_, fun i hi => ?_, fun hfalse => ?_, fun _ _ _ => rfl⟩
      · exact congrArg some (hlives.mp hi).symm
      · obtain rfl := hlives.mp ⟨_, hi, by simp⟩
        simp at hi
      · exact absurd (hjoining.symm.trans hfalse) (by decide)

theorem inv_step (h : Inv listener) (event : Event) :
    Inv (step u voiceWakePhrase listener event) := by
  cases event with
  | request enabled =>
      rw [step]
      split
      · exact h
      · rename_i hjoining
        cases enabled with
        | true => exact inv_startVoiceListener h (Bool.not_eq_true _ ▸ hjoining)
        | false =>
            exact ⟨h.one, fun _ _ => rfl, fun _ => rfl, fun _ _ hstop => Bool.noConfusion hstop⟩
  | joinReturns =>
      rw [step]
      split
      · rename_i hjoining
        refine ⟨h.one, h.stops, fun hfalse => Bool.noConfusion hfalse, fun i _ hstop => ?_⟩
        have hset : listener.stopEvent = true := h.joins hjoining
        exact absurd (hset.symm.trans hstop) (by decide)
      · exact h
  | loop i outside =>
      cases hstage : listener.threads[i]? with
      | none =>
          rw [step, hstage]
          exact h
      | some stage =>
          rw [step, hstage]
          have hback : actLoop u voiceWakePhrase listener.stopEvent outside stage ≠ .ended →
              stage ≠ .ended := mt fun hended => actLoop_eq_ended_iff.mpr (.inl hended)
          refine ⟨fun j hj => h.one j (lives_of_lives_set hstage hback hj), fun j hj => ?_,
            h.joins, fun j hj => h.enabled j (lives_of_lives_set hstage hback hj)⟩
          by_cases hij : i = j
          · subst hij
            rw [List.getElem?_set_self (List.getElem?_eq_some_iff.mp hstage).1] at hj
            exact stopSet_of_actLoop_eq_leave (Option.some.inj hj)
          · exact h.stops j ((List.getElem?_set_ne hij).symm.trans hj)

/-- When no request is under way and the last one enabled the listening, a loop lives
whose stop event is cleared. -/
def FollowsMode (listener : ListenerState) : Prop :=
  listener.joining = false → listener.lastEnabled = true →
    listener.stopEvent = false ∧ ∃ i, listener.Lives i

/-- A start finds no loop that is to stop, and no exception ends a loop that is not to
stop. -/
def Careful (listener : ListenerState) : Event → Prop
  | .request true =>
      listener.joining = false → listener.hasLiveThread = true → listener.stopEvent = false
  | .loop i _ => listener.threads[i]? = some (.leave true) → listener.stopEvent = true
  | _ => True

theorem followsMode_start_iff (h : Inv listener) (hjoining : listener.joining = false) :
    FollowsMode { (listener.setVoiceModeEnabled true).startVoiceListener with
        lastEnabled := true } ↔
      (listener.hasLiveThread = true → listener.stopEvent = false) := by
  cases hlive : listener.hasLiveThread with
  | true =>
      rw [startVoiceListener_of_live hlive]
      constructor
      · exact fun hfollows _ => (hfollows hjoining rfl).1
      · exact fun hcleared _ _ => ⟨hcleared rfl, lives_of_hasLiveThread hlive⟩
  | false =>
      rw [startVoiceListener_of_not_live hlive]
      refine iff_of_true (fun _ _ => ⟨rfl, listener.threads.length, ?_⟩) fun hfalse => ?_
      · exact (lives_startVoiceListener hlive h.one).mpr rfl
      · cases hfalse

theorem followsMode_loop_iff (h : Inv listener) (hfollows : FollowsMode listener) {i : Nat}
    {outside : Outside} {stage : LoopStage} (hstage : listener.threads[i]? = some stage) :
    FollowsMode (step u voiceWakePhrase listener (.loop i outside)) ↔
      (stage = .leave true → listener.stopEvent = true) := by
  rw [step, hstage]
  by_cases hstop : listener.stopEvent = true
  · -- the last request was no start, or has not returned
    refine iff_of_true (fun hjoining henabled => ?_) fun _ => hstop
    exact absurd (hstop.symm.trans (hfollows hjoining henabled).1) (by decide)
  · rw [Bool.not_eq_true] at hstop
    constructor
    · rintro hafter rfl
      have hlives : listener.Lives i := ⟨_, hstage, by simp⟩
      have hjoining : listener.joining = false := by
        by_contra hjoining
        exact absurd ((h.joins (Bool.not_eq_false _ ▸ hjoining)).symm.trans hstop) (by decide)
      obtain ⟨-, j, hj⟩ := hafter hjoining (h.enabled i hlives hstop)
      obtain rfl : j = i :=
        Option.some.inj ((h.one j (lives_of_lives_set hstage (by simp) hj)).symm.trans
          (h.one i hlives))
      obtain ⟨next, hnext, hne⟩ := hj
      rw [List.getElem?_set_self (List.getElem?_eq_some_iff.mp hstage).1] at hnext
      exact absurd (Option.some.inj hnext).symm hne
    · intro hraised hjoining henabled
      obtain ⟨hcleared, j, hj⟩ := hfollows hjoining henabled
      refine ⟨hcleared, j, lives_set hstage (fun hne hended => ?_) hj⟩
      rcases actLoop_eq_ended_iff.mp hended with hended | ⟨raised, rfl⟩
      · exact hne hended
      · cases raised with
        | true => exact absurd ((hraised rfl).symm.trans hstop) (by decide)
        | false => exact absurd ((h.stops i hstage).symm.trans hstop) (by decide)

theorem followsMode_step_iff (h : Inv listener) (hfollows : FollowsMode listener)
    (event : Event) :
    FollowsMode (step u voiceWakePhrase listener event) ↔ Careful listener event := by
  cases event with
  | request enabled =>
      rw [step]
      split
      · rename_i hjoining
        refine iff_of_true hfollows ?_
        cases enabled with
        | true => exact fun hidle => absurd (hjoining.symm.trans hidle) (by decide)
        | false => trivial
      · rename_i hjoining
        rw [Bool.not_eq_true] at hjoining
        cases enabled with
        | true =>
            rw [Careful]
            refine (followsMode_start_iff h hjoining).trans ⟨fun hcleared _ => hcleared, ?_⟩
            exact fun hcleared => hcleared hjoining
        | false =>
            refine iff_of_true (fun hreturned henabled => ?_) trivial
            cases hlive : listener.hasLiveThread with
            | true => exact absurd (hlive.symm.trans hreturned) (by decide)
            | false =>
                change (if listener.hasLiveThread then listener.lastEnabled else false) = true
                  at henabled
                rw [hlive] at henabled
                cases henabled
  | joinReturns =>
      rw [step]
      split
      · exact iff_of_true (fun _ henabled => Bool.noConfusion henabled) trivial
      · exact iff_of_true hfollows trivial
  | loop i outside =>
      cases hstage : listener.threads[i]? with
      | none =>
          rw [step, Careful, hstage]
          exact iff_of_true hfollows (by simp)
      | some stage =>
          rw [followsMode_loop_iff h hfollows hstage, Careful, hstage, Option.some.injEq]

theorem inv_boot (voiceInputEnabled : Bool) : Inv (.boot voiceInputEnabled) := by
  have hoff : Inv (.boot false) := by
    refine ⟨?_, ?_, ?_, ?_⟩ <;> simp [OneThread, ListenerState.Lives, ListenerState.boot]
  cases voiceInputEnabled with
  | false => exact hoff
  | true => exact inv_startVoiceListener hoff rfl

theorem followsMode_boot (voiceInputEnabled : Bool) : FollowsMode (.boot voiceInputEnabled) := by
  cases voiceInputEnabled with
  | false => exact fun _ henabled => Bool.noConfusion henabled
  | true =>
      exact (followsMode_start_iff (inv_boot false) rfl).mpr fun hlive => Bool.noConfusion hlive

/-- One loop at most lives, and the mode is followed, in every state. -/
structure ListensAsAsked (u : PyData) (voiceWakePhrase : Text) (voiceInputEnabled : Bool)
    (events : List Event) : Prop where
  follows : ∀ k, FollowsMode
    (stateAt (step u voiceWakePhrase) (.boot voiceInputEnabled) events k)
  alone : ∀ k i j,
    (stateAt (step u voiceWakePhrase) (.boot voiceInputEnabled) events k).Lives i →
    (stateAt (step u voiceWakePhrase) (.boot voiceInputEnabled) events k).Lives j → i = j

/-- A start that finds a loop still at its last clip, and an exception out of a wake or
a command, are all that leaves an enabled mode without a loop that listens. -/
theorem listensAsAsked_iff (u : PyData) (voiceWakePhrase : Text) (voiceInputEnabled : Bool)
    (events : List Event) :
    ListensAsAsked u voiceWakePhrase voiceInputEnabled events ↔
      ∀ k event, events[k]? = some event →
        Careful (stateAt (step u voiceWakePhrase) (.boot voiceInputEnabled) events k) event := by
  have hiff : (∀ k, Inv (stateAt (step u voiceWakePhrase) (.boot voiceInputEnabled) events k) ∧
      FollowsMode (stateAt (step u voiceWakePhrase) (.boot voiceInputEnabled) events k)) ↔
      ∀ k event, events[k]? = some event →
        Careful (stateAt (step u voiceWakePhrase) (.boot voiceInputEnabled) events k) event :=
    invariant_iff_guarded (P := fun listener => Inv listener ∧ FollowsMode listener)
      ⟨inv_boot voiceInputEnabled, followsMode_boot voiceInputEnabled⟩ fun _ event h =>
        (and_iff_right (inv_step h.1 event)).trans (followsMode_step_iff h.1 h.2 event)
  have hinv (k : Nat) :
      Inv (stateAt (step u voiceWakePhrase) (.boot voiceInputEnabled) events k) :=
    invariant_of_kept (inv_boot voiceInputEnabled) (fun _ event h => inv_step h event) k
  rw [← hiff]
  constructor
  · exact fun h k => ⟨hinv k, h.follows k⟩
  · intro h
    refine ⟨fun k => (h k).2, fun k i j hi hj => ?_⟩
    exact Option.some.inj (((hinv k).one i hi).symm.trans ((hinv k).one j hj))

/-- The loop records a clip, and the requests switch the mode off and on meanwhile. -/
theorem not_listensAsAsked_off_and_on :
    ¬ ∀ (u : PyData) (voiceWakePhrase : Text) (voiceInputEnabled : Bool) (events : List Event),
      ListensAsAsked u voiceWakePhrase voiceInputEnabled events := by
  intro h
  let quiet : Outside := ⟨.ok [], true⟩
  let events : List Event :=
    [.request true, .loop 0 quiet, .loop 0 quiet, .request false, .joinReturns, .request true]
  have hfollows := (h .ascii "hey nano".toList false events).follows 6 (by decide +kernel)
    (by decide +kernel)
  exact absurd hfollows.1 (by decide +kernel)

end NanoCore.Voice.Listener
