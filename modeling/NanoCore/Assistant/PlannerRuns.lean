import NanoCore.Assistant.Flows.Planner

namespace NanoCore.Assistant.PlannerRuns

open NanoCore.Foundation.JsonLoads
open NanoCore.Foundation.PythonText
open NanoCore.Assistant.Flows.Planner
open NanoCore.Assistant.Prompts
open NanoCore.Assistant.Rules.Decisions
open NanoCore.Assistant.Rules.Intents
open NanoCore.Assistant.ToolRunner
open NanoCore.Tools.Registry

section Log

def outputs (log : List Event) : List Text :=
  log.filterMap fun event => match event with
    | .completed output => some output
    | _ => none

def executedCalls (log : List Event) : List Call :=
  log.filterMap fun event => match event with
    | .executed call => some call
    | _ => none

@[simp] theorem outputs_append (log events : List Event) :
    outputs (log ++ events) = outputs log ++ outputs events := List.filterMap_append

@[simp] theorem executedCalls_append (log events : List Event) :
    executedCalls (log ++ events) = executedCalls log ++ executedCalls events :=
  List.filterMap_append

@[simp] theorem mem_executedCalls {log : List Event} {call : Call} :
    call ∈ executedCalls log ↔ .executed call ∈ log := by
  rw [executedCalls, List.mem_filterMap]
  constructor
  · rintro ⟨event, hmem, hcall⟩
    cases event with
    | executed other =>
        cases hcall
        exact hmem
    | _ => cases hcall
  · exact fun h => ⟨.executed call, h, rfl⟩

@[simp] theorem mem_outputs {log : List Event} {raw : Text} :
    raw ∈ outputs log ↔ .completed raw ∈ log := by
  rw [outputs, List.mem_filterMap]
  constructor
  · rintro ⟨event, hmem, hraw⟩
    cases event with
    | completed other =>
        cases hraw
        exact hmem
    | _ => cases hraw
  · exact fun h => ⟨.completed raw, h, rfl⟩

def executeEvents (tools : List ToolSpec) (call : Call) : List Event :=
  .executed call :: if (findTool tools call.tool).isSome then [.handled call] else []

@[simp] theorem outputs_executeEvents (tools : List ToolSpec) (call : Call) :
    outputs (executeEvents tools call) = [] := by
  rw [executeEvents]
  split <;> rfl

@[simp] theorem executedCalls_executeEvents (tools : List ToolSpec) (call : Call) :
    executedCalls (executeEvents tools call) = [call] := by
  rw [executeEvents]
  split <;> rfl

@[simp] theorem handled_mem_executeEvents {tools : List ToolSpec} {call other : Call} :
    .handled other ∈ executeEvents tools call ↔
      other = call ∧ (findTool tools call.tool).isSome = true := by
  rw [executeEvents]
  cases (findTool tools call.tool).isSome <;> simp

@[simp] theorem refused_notMem_executeEvents {tools : List ToolSpec} {call other : Call} :
    .refused other ∉ executeEvents tools call := by
  rw [executeEvents]
  cases (findTool tools call.tool).isSome <;> simp

end Log

section Running

variable {ω : Type} (u : PyData) (tools : List ToolSpec) (readFloat : ReadFloat) (message : Text)

def isInvalid (raw : Text) : Bool :=
  match parseDecision readFloat raw with
  | .ok .invalid => true
  | _ => false

inductive Passes (raw : Text) : Prop where
  | invalid (h : parseDecision readFloat raw = .ok .invalid)
  | call {call : Call} {matched : Bool} (h : Asks readFloat raw call)
      (htest : toolMatchesRequestIn u tools message call.tool = .ok matched)

/-- What holds between the rounds of a run. -/
structure Running (s : PlannerState ω) : Prop where
  keys : s.executedTools.map Prod.fst = (executedCalls s.log).map Call.signature
  distinct : ((executedCalls s.log).map Call.signature).Nodup
  matching : ∀ call, .executed call ∈ s.log →
    toolMatchesRequestIn u tools message call.tool = .ok true
  handled : ∀ call, .handled call ∈ s.log ↔
    .executed call ∈ s.log ∧ (findTool tools call.tool).isSome
  refused : ∀ before call after, s.log = before ++ .refused call :: after →
    ∃ earlier ∈ executedCalls before, earlier.signature = call.signature
  attempts : s.invalidJsonAttempts = (outputs s.log).countP (isInvalid readFloat)
  attempts_le : s.invalidJsonAttempts ≤ 1
  asked : ∀ raw call, .completed raw ∈ s.log → Asks readFloat raw call →
    toolMatchesRequestIn u tools message call.tool = .ok true →
    call.signature ∈ (executedCalls s.log).map Call.signature
  asks : ∀ call, .executed call ∈ s.log → ∃ raw, .completed raw ∈ s.log ∧ Asks readFloat raw call
  passed : ∀ raw, .completed raw ∈ s.log → Passes u tools readFloat message raw

end Running

section Steps

variable {ω : Type} {u : PyData} {tools : List ToolSpec} {parts : Parts ω} {message : Text}
variable {s s' : PlannerState ω} {raw : Text}

theorem running_initial (messages : List PromptMessage) (world : ω) :
    Running u tools parts.readFloat message (.initial messages world) where
  keys := rfl
  distinct := List.nodup_nil
  matching := nofun
  handled call := ⟨nofun, fun h => nomatch h.1⟩
  refused before call after h := absurd h.symm (by simp [PlannerState.initial])
  attempts := rfl
  attempts_le := Nat.zero_le 1
  asked := nofun
  asks := nofun
  passed := nofun

theorem passes_of_turn (h : Turn u tools parts.readFloat message raw s (.goesOn s')) :
    Passes u tools parts.readFloat message raw := by
  cases h with
  | firstInvalid h => exact .invalid h
  | mismatched h htest => exact .call h htest
  | refused h htest => exact .call h htest
  | executed h htest => exact .call h htest

theorem asks_unique {readFloat : ReadFloat} {a b : Call} (ha : Asks readFloat raw a)
    (hb : Asks readFloat raw b) : a = b := by
  rcases a with ⟨tool, args⟩
  rcases b with ⟨tool', args'⟩
  have hsame := ha.symm.trans hb
  cases hsame
  rfl

theorem split_append {log events before after : List Event} {event : Event}
    (h : log ++ events = before ++ event :: after) :
    (∃ after', log = before ++ event :: after') ∨
      ∃ before', before = log ++ before' ∧ events = before' ++ event :: after := by
  rcases List.append_eq_append_iff.mp h with ⟨between, hbefore, hevents⟩ | ⟨between, hlog, hrest⟩
  · exact .inr ⟨between, hbefore, hevents⟩
  · rcases between with _ | ⟨first, between⟩
    · exact .inr ⟨[], by simpa using hlog.symm, hrest.symm⟩
    · obtain ⟨rfl, -⟩ := List.cons.inj hrest
      exact .inl ⟨between, hlog⟩

theorem Running.passed_of_outputs (h : Running u tools parts.readFloat message s)
    (houtputs : outputs s'.log = outputs s.log ++ [raw])
    (hpasses : Passes u tools parts.readFloat message raw) :
    ∀ raw', .completed raw' ∈ s'.log → Passes u tools parts.readFloat message raw' := by
  intro raw' hmem
  rw [← mem_outputs, houtputs, List.mem_append, mem_outputs, List.mem_singleton] at hmem
  rcases hmem with hmem | rfl
  · exact h.passed raw' hmem
  · exact hpasses

theorem Running.attempts_of_outputs (h : Running u tools parts.readFloat message s)
    (houtputs : outputs s'.log = outputs s.log ++ [raw])
    (hattempts : s'.invalidJsonAttempts =
      s.invalidJsonAttempts + if isInvalid parts.readFloat raw then 1 else 0) :
    s'.invalidJsonAttempts = (outputs s'.log).countP (isInvalid parts.readFloat) := by
  rw [hattempts, h.attempts, houtputs, List.countP_append, List.countP_singleton]

theorem attempts_of_asked {call : Call} (hasked : Asks parts.readFloat raw call)
    (hattempts : s'.invalidJsonAttempts = s.invalidJsonAttempts) :
    s'.invalidJsonAttempts =
      s.invalidJsonAttempts + if isInvalid parts.readFloat raw then 1 else 0 := by
  rw [hattempts, isInvalid, hasked]
  rfl

theorem Running.quiet (h : Running u tools parts.readFloat message s)
    (hpasses : Passes u tools parts.readFloat message raw)
    (hlog : s'.log = s.log ++ [.completed raw])
    (htools : s'.executedTools = s.executedTools)
    (hattempts : s'.invalidJsonAttempts =
      s.invalidJsonAttempts + if isInvalid parts.readFloat raw then 1 else 0)
    (hle : s'.invalidJsonAttempts ≤ 1)
    (hasks : ∀ call, Asks parts.readFloat raw call →
      toolMatchesRequestIn u tools message call.tool ≠ .ok true) :
    Running u tools parts.readFloat message s' where
  keys := by simpa [htools, hlog, executedCalls] using h.keys
  distinct := by simpa [hlog, executedCalls] using h.distinct
  matching call hcall := h.matching call (by simpa [hlog] using hcall)
  handled call := by simpa [hlog] using h.handled call
  refused before call after hsplit := by
    rw [hlog] at hsplit
    rcases split_append hsplit with ⟨after', hlog'⟩ | ⟨before', -, hevents⟩
    · exact h.refused before call after' hlog'
    · have hmem : Event.refused call ∈ [Event.completed raw] := by simp [hevents]
      simp at hmem
  attempts := h.attempts_of_outputs (by rw [hlog, outputs_append]; rfl) hattempts
  attempts_le := hle
  asked raw' call hmem hasked hmatches := by
    rw [hlog, List.mem_append, List.mem_singleton] at hmem
    rcases hmem with hmem | hmem
    · simpa [hlog, executedCalls] using h.asked raw' call hmem hasked hmatches
    · cases hmem
      exact absurd hmatches (hasks call hasked)
  asks call hcall := by
    obtain ⟨raw', hmem, hasked⟩ := h.asks call (by simpa [hlog] using hcall)
    exact ⟨raw', by simp [hlog, hmem], hasked⟩
  passed := h.passed_of_outputs (by rw [hlog, outputs_append]; rfl) hpasses

theorem Running.refuse (h : Running u tools parts.readFloat message s) {call : Call}
    (hpasses : Passes u tools parts.readFloat message raw)
    (hasked : Asks parts.readFloat raw call)
    (hknown : call.signature ∈ s.executedTools.map Prod.fst)
    (hlog : s'.log = s.log ++ [.completed raw] ++ [.refused call])
    (htools : s'.executedTools = s.executedTools)
    (hattempts : s'.invalidJsonAttempts = s.invalidJsonAttempts) :
    Running u tools parts.readFloat message s' where
  keys := by simpa [htools, hlog, executedCalls] using h.keys
  distinct := by simpa [hlog, executedCalls] using h.distinct
  matching other hother := h.matching other (by simpa [hlog] using hother)
  handled other := by simpa [hlog] using h.handled other
  refused before other after hsplit := by
    rw [hlog, List.append_assoc] at hsplit
    rcases split_append hsplit with ⟨after', hlog'⟩ | ⟨before', rfl, hevents⟩
    · exact h.refused before other after' hlog'
    · have hmem : Event.refused other ∈ [.completed raw] ++ [Event.refused call] := by
        simp [hevents]
      have hsame : other = call := by simpa using hmem
      rw [h.keys, List.mem_map] at hknown
      obtain ⟨earlier, hearlier, hsignature⟩ := hknown
      exact ⟨earlier, by simp [mem_executedCalls.mp hearlier], hsame ▸ hsignature⟩
  attempts := h.attempts_of_outputs (by simp [hlog, outputs]) (attempts_of_asked hasked hattempts)
  attempts_le := hattempts ▸ h.attempts_le
  asked raw' other hmem hother hmatches := by
    have hkeys : (executedCalls s'.log).map Call.signature =
        (executedCalls s.log).map Call.signature := by simp [hlog, executedCalls]
    rw [hkeys]
    simp only [hlog, List.append_assoc, List.mem_append, List.mem_singleton,
      Event.completed.injEq, reduceCtorEq, or_false] at hmem
    rcases hmem with hmem | rfl
    · exact h.asked raw' other hmem hother hmatches
    · rw [asks_unique hother hasked, ← h.keys]
      exact hknown
  asks other hother := by
    obtain ⟨raw', hmem, hraw⟩ := h.asks other (by simpa [hlog] using hother)
    exact ⟨raw', by simp [hlog, hmem], hraw⟩
  passed := h.passed_of_outputs (by simp [hlog, outputs]) hpasses

theorem Running.execute (h : Running u tools parts.readFloat message s) {call : Call}
    {result : ToolResult} (hasked : Asks parts.readFloat raw call)
    (htest : toolMatchesRequestIn u tools message call.tool = .ok true)
    (hnew : call.signature ∉ s.executedTools.map Prod.fst)
    (hlog : s'.log = s.log ++ [.completed raw] ++ executeEvents tools call)
    (htools : s'.executedTools = s.executedTools ++ [(call.signature, result)])
    (hattempts : s'.invalidJsonAttempts = s.invalidJsonAttempts) :
    Running u tools parts.readFloat message s' := by
  have hcalls : executedCalls s'.log = executedCalls s.log ++ [call] := by
    rw [hlog, executedCalls_append, executedCalls_append, executedCalls_executeEvents]
    simp [executedCalls]
  have hexecuted (other : Call) :
      .executed other ∈ s'.log ↔ .executed other ∈ s.log ∨ other = call := by
    rw [← mem_executedCalls, hcalls, List.mem_append, List.mem_singleton, mem_executedCalls]
  have houtputs : outputs s'.log = outputs s.log ++ [raw] := by
    rw [hlog, outputs_append, outputs_append, outputs_executeEvents, List.append_nil]
    rfl
  have hcompleted (raw' : Text) :
      .completed raw' ∈ s'.log ↔ .completed raw' ∈ s.log ∨ raw' = raw := by
    rw [← mem_outputs, houtputs, List.mem_append, mem_outputs, List.mem_singleton]
  constructor
  case keys =>
    rw [htools, hcalls, List.map_append, List.map_append, h.keys]
    rfl
  case distinct =>
    rw [h.keys] at hnew
    rw [hcalls, List.map_append, List.nodup_append]
    refine ⟨h.distinct, List.nodup_singleton _, ?_⟩
    rintro signature hmem _ hlast rfl
    rw [List.map_singleton, List.mem_singleton] at hlast
    exact hnew (hlast ▸ hmem)
  case matching =>
    intro other hother
    rcases (hexecuted other).mp hother with hmem | rfl
    · exact h.matching other hmem
    · exact htest
  case handled =>
    intro other
    rw [hexecuted, hlog, List.append_assoc, List.mem_append, List.mem_append,
      handled_mem_executeEvents, h.handled other]
    simp only [List.mem_singleton, reduceCtorEq, false_or]
    constructor
    · rintro (⟨hmem, hregistered⟩ | ⟨rfl, hregistered⟩)
      · exact ⟨.inl hmem, hregistered⟩
      · exact ⟨.inr rfl, hregistered⟩
    · rintro ⟨hmem | rfl, hregistered⟩
      · exact .inl ⟨hmem, hregistered⟩
      · exact .inr ⟨rfl, hregistered⟩
  case refused =>
    intro before other after hsplit
    rw [hlog, List.append_assoc] at hsplit
    rcases split_append hsplit with ⟨after', hlog'⟩ | ⟨before', -, hevents⟩
    · exact h.refused before other after' hlog'
    · have hmem : Event.refused other ∈ [.completed raw] ++ executeEvents tools call := by
        simp [hevents]
      rw [List.mem_append] at hmem
      rcases hmem with hmem | hmem
      · simp at hmem
      · exact absurd hmem refused_notMem_executeEvents
  case attempts => exact h.attempts_of_outputs houtputs (attempts_of_asked hasked hattempts)
  case attempts_le => exact hattempts ▸ h.attempts_le
  case asked =>
    intro raw' other hmem hother hmatches
    rw [hcalls, List.map_append, List.mem_append]
    rcases (hcompleted raw').mp hmem with hmem | rfl
    · exact .inl (h.asked raw' other hmem hother hmatches)
    · rw [asks_unique hother hasked]
      exact .inr (by simp)
  case asks =>
    intro other hother
    rcases (hexecuted other).mp hother with hmem | rfl
    · obtain ⟨raw', hraw, hasks⟩ := h.asks other hmem
      exact ⟨raw', (hcompleted raw').mpr (.inl hraw), hasks⟩
    · exact ⟨raw, (hcompleted raw).mpr (.inr rfl), hasked⟩
  case passed => exact h.passed_of_outputs houtputs (.call hasked htest)

structure Completes (s : PlannerState ω) (raw : Text) (c : PlannerState ω) : Prop where
  log : c.log = s.log ++ [.completed raw]
  executedTools : c.executedTools = s.executedTools
  attempts : c.invalidJsonAttempts = s.invalidJsonAttempts

/-- Every round that goes on keeps all of this. -/
theorem Running.turn (h : Running u tools parts.readFloat message s) {c : PlannerState ω}
    (hc : Completes s raw c)
    (hturn : Turn u tools parts.readFloat message raw c (.goesOn s')) :
    Running u tools parts.readFloat message s' := by
  have hpasses := passes_of_turn hturn
  cases hturn with
  | firstInvalid hparse hfirst hattempts htools hlog =>
      have hinvalid : isInvalid parts.readFloat raw = true := by rw [isInvalid, hparse]
      refine h.quiet hpasses (hlog.trans hc.log) (htools.trans hc.executedTools) ?_
        (le_of_eq hattempts) ?_
      · rw [hattempts, ← hc.attempts, hfirst, hinvalid]
        rfl
      · intro call hcall
        rw [Asks, hparse] at hcall
        cases hcall
  | @mismatched call _ hasked htest hattempts htools hlog =>
      have hvalid : isInvalid parts.readFloat raw = false := by rw [isInvalid, hasked]
      rw [hc.attempts] at hattempts
      refine h.quiet hpasses (hlog.trans hc.log) (htools.trans hc.executedTools) ?_
        (hattempts ▸ h.attempts_le) ?_
      · rw [hattempts, hvalid]
        rfl
      · intro other hother
        rw [asks_unique hother hasked, htest]
        nofun
  | refused hasked htest hknown hattempts htools hlog =>
      rw [hc.executedTools] at hknown
      rw [hc.log] at hlog
      exact h.refuse hpasses hasked hknown hlog (htools.trans hc.executedTools)
        (hattempts.trans hc.attempts)
  | executed hasked htest hnew hattempts htools hlog =>
      rw [hc.executedTools] at hnew htools
      rw [hc.log] at hlog
      exact h.execute hasked htest hnew hlog htools (hattempts.trans hc.attempts)

inductive Left (u : PyData) (tools : List ToolSpec) (readFloat : ReadFloat) (message : Text)
    (s : PlannerState ω) : Outcome ω → Prop where
  | used : Left u tools readFloat message s
      (.ends s (if s.executedTools.isEmpty then .confused else .stepLimit))
  | ends {raw : Text} {c s' : PlannerState ω} {ending : Ending} (hc : Completes s raw c)
      (hturn : Turn u tools readFloat message raw c (.ends s' ending)) :
      Left u tools readFloat message s (.ends s' ending)
  | raises {raw : Text} {c s' : PlannerState ω} {e : PyError} (hc : Completes s raw c)
      (hturn : Turn u tools readFloat message raw c (.raises s' e)) :
      Left u tools readFloat message s (.raises s' e)

theorem outputs_of_turn {c : PlannerState ω} {outcome : Outcome ω}
    (hturn : Turn u tools parts.readFloat message raw c outcome) :
    outputs (Outcome.state outcome).log = outputs c.log := by
  cases hturn with
  | unparsed => rfl
  | answered => rfl
  | secondInvalid _ _ hlog => exact congrArg outputs hlog
  | firstInvalid _ _ _ _ hlog => exact congrArg outputs hlog
  | failed => rfl
  | mismatched _ _ _ _ hlog => exact congrArg outputs hlog
  | refused _ _ _ _ _ hlog =>
      refine (congrArg outputs hlog).trans ?_
      simp [outputs]
  | executed _ _ _ _ _ hlog =>
      refine (congrArg outputs hlog).trans ?_
      rw [outputs_append]
      exact (congrArg _ (outputs_executeEvents tools _)).trans (List.append_nil _)

/-- The rounds that are left end somewhere, after no more outputs than rounds. -/
theorem left_rounds (h : Running u tools parts.readFloat message s) (n : Nat) :
    (∃ s', Running u tools parts.readFloat message s' ∧
      Left u tools parts.readFloat message s' (rounds u tools parts message n s)) ∧
    (outputs (Outcome.state (rounds u tools parts message n s)).log).length ≤
      (outputs s.log).length + n := by
  induction n generalizing s with
  | zero => exact ⟨⟨s, h, .used⟩, Nat.le_refl _⟩
  | succ n ih =>
      rw [rounds]
      generalize hcomplete : complete parts s = completed
      obtain ⟨c, raw⟩ := completed
      have hc : Completes s raw c := by
        have hcompletes : Completes s (complete parts s).2 (complete parts s).1 := ⟨rfl, rfl, rfl⟩
        rwa [hcomplete] at hcompletes
      have hcount : (outputs c.log).length = (outputs s.log).length + 1 := by
        rw [hc.log, outputs_append, List.length_append]
        rfl
      have hturn : Turn u tools parts.readFloat message raw c
        (handleDecision u tools parts message raw c) := turn_handleDecision raw c
      have houtputs := outputs_of_turn hturn
      dsimp only
      generalize handleDecision u tools parts message raw c = outcome at hturn houtputs ⊢
      cases outcome with
      | goesOn s' =>
          obtain ⟨hleft, hlength⟩ := ih (h.turn hc hturn)
          refine ⟨hleft, hlength.trans (le_of_eq ?_)⟩
          change outputs s'.log = _ at houtputs
          rw [houtputs, hcount]
          omega
      | ends s' ending =>
          refine ⟨⟨s, h, .ends hc hturn⟩, ?_⟩
          rw [houtputs, hcount]
          omega
      | raises s' e =>
          refine ⟨⟨s, h, .raises hc hturn⟩, ?_⟩
          rw [houtputs, hcount]
          omega

theorem world_executeCall {P : ω → Prop} {call : Call}
    (hhandler : ∀ name args w, P w → P (parts.handler name args w).1) (hworld : P s.world) :
    P (executeCall tools parts raw call s).world := by
  have hexecute : P (execute tools parts.describe parts.handler call.tool call.args s.world).1 := by
    have hresult := hhandler call.tool call.args s.world hworld
    rw [execute]
    split
    · exact hworld
    · generalize parts.handler call.tool call.args s.world = result at hresult
      obtain ⟨w, e | content⟩ := result
      · exact hresult
      · exact hresult
  rw [executeCall]
  split
  · exact hworld
  · exact hexecute

theorem world_handleDecision {P : ω → Prop} (raw : Text)
    (hhandler : ∀ name args w, P w → P (parts.handler name args w).1) (hworld : P s.world) :
    P (handleDecision u tools parts message raw s).state.world := by
  rw [handleDecision]
  split
  · exact hworld
  · exact hworld
  · exact hworld
  · split
    · exact hworld
    · exact hworld
  · split
    · exact hworld
    · exact hworld
    · exact world_executeCall hhandler hworld

theorem world_rounds {P : ω → Prop} (hcomplete : ∀ prompt w, P w → P (parts.complete prompt w).1)
    (hhandler : ∀ name args w, P w → P (parts.handler name args w).1) (n : Nat)
    (hworld : P s.world) : P (rounds u tools parts message n s).state.world := by
  induction n generalizing s with
  | zero => exact hworld
  | succ n ih =>
      have hcompleted : P (complete parts s).1.world := hcomplete s.messages s.world hworld
      have hhandled : P (handleDecision u tools parts message (complete parts s).2
          (complete parts s).1).state.world :=
        world_handleDecision (complete parts s).2 hhandler hcompleted
      rw [rounds]
      generalize complete parts s = completed at hhandled
      obtain ⟨c, raw⟩ := completed
      dsimp only at hhandled ⊢
      generalize handleDecision u tools parts message raw c = outcome at hhandled
      cases outcome with
      | goesOn s' => exact ih hhandled
      | ends s' ending => exact hhandled
      | raises s' e => exact hhandled

end Steps

structure SoundCalls (u : PyData) (tools : List ToolSpec) (message : Text) (log : List Event) :
    Prop where
  distinct : ((executedCalls log).map Call.signature).Nodup
  matching : ∀ call, .executed call ∈ log →
    toolMatchesRequestIn u tools message call.tool = .ok true
  handled : ∀ call, .handled call ∈ log ↔
    .executed call ∈ log ∧ (findTool tools call.tool).isSome
  refused : ∀ before call after, log = before ++ .refused call :: after →
    ∃ earlier ∈ executedCalls before, earlier.signature = call.signature

section Finished

variable {ω : Type} {u : PyData} {tools : List ToolSpec} {parts : Parts ω} {message : Text}
variable {s : PlannerState ω} {raw : Text} {outcome : Outcome ω}

theorem Running.soundCalls (h : Running u tools parts.readFloat message s) :
    SoundCalls u tools message s.log :=
  ⟨h.distinct, h.matching, h.handled, h.refused⟩

theorem SoundCalls.completed {log : List Event} (h : SoundCalls u tools message log) :
    SoundCalls u tools message (log ++ [.completed raw]) where
  distinct := by simpa [executedCalls] using h.distinct
  matching call hcall := h.matching call (by simpa using hcall)
  handled call := by simpa using h.handled call
  refused before call after hsplit := by
    rcases split_append hsplit with ⟨after', hlog⟩ | ⟨before', -, hevents⟩
    · exact h.refused before call after' hlog
    · have hmem : Event.refused call ∈ [Event.completed raw] := by simp [hevents]
      simp at hmem

theorem log_of_turn {c : PlannerState ω}
    (hturn : Turn u tools parts.readFloat message raw c outcome)
    (hends : ∀ s', outcome ≠ .goesOn s') : (Outcome.state outcome).log = c.log := by
  cases hturn with
  | unparsed => rfl
  | answered => rfl
  | secondInvalid _ _ hlog => exact hlog
  | failed => rfl
  | firstInvalid => exact absurd rfl (hends _)
  | mismatched => exact absurd rfl (hends _)
  | refused => exact absurd rfl (hends _)
  | executed => exact absurd rfl (hends _)

theorem Left.soundCalls (h : Running u tools parts.readFloat message s)
    (hleft : Left u tools parts.readFloat message s outcome) :
    SoundCalls u tools message (Outcome.state outcome).log := by
  cases hleft with
  | used => exact h.soundCalls
  | ends hc hturn =>
      rw [log_of_turn hturn nofun, hc.log]
      exact h.soundCalls.completed
  | raises hc hturn =>
      rw [log_of_turn hturn nofun, hc.log]
      exact h.soundCalls.completed

end Finished

section Run

variable {ω : Type} (u : PyData) (tools : List ToolSpec) (parts : Parts ω) (message : Text)
variable (messages : List PromptMessage) (world : ω)

theorem left_run : ∃ s, Running u tools parts.readFloat message s ∧
    Left u tools parts.readFloat message s (run u tools parts message messages world) :=
  (left_rounds (running_initial messages world) maxRounds).1

/-- A run asks the model at most eight times. -/
theorem length_outputs_run :
    (outputs (run u tools parts message messages world).state.log).length ≤ maxRounds :=
  (left_rounds (running_initial messages world) maxRounds).2.trans (le_of_eq (Nat.zero_add _))

/-- What the model and the handlers keep, the planner keeps. -/
theorem world_run {P : ω → Prop} (hcomplete : ∀ prompt w, P w → P (parts.complete prompt w).1)
    (hhandler : ∀ name args w, P w → P (parts.handler name args w).1) (hworld : P world) :
    P (run u tools parts message messages world).state.world :=
  world_rounds hcomplete hhandler maxRounds hworld

theorem soundCalls_run : SoundCalls u tools message
    (run u tools parts message messages world).state.log := by
  obtain ⟨s, hrunning, hleft⟩ := left_run u tools parts message messages world
  exact Left.soundCalls hrunning hleft

end Run

section Traces

variable {ω : Type} (u : PyData) (tools : List ToolSpec) (parts : Parts ω) (message : Text)

/-- The parts, with a list of what the model has put out and which handlers have run. -/
def traced : Parts (ω × List Event) where
  readFloat := parts.readFloat
  complete messages world :=
    let (after, raw) := parts.complete messages world.1
    ((after, world.2 ++ [.completed raw]), raw)
  handler name args world :=
    let (after, result) := parts.handler name args world.1
    ((after, world.2 ++ [.handled ⟨name, args⟩]), result)
  describe := parts.describe

/-- The event is one of the world's, not only of the planner's. -/
def isOutside : Event → Bool
  | .completed _ | .handled _ => true
  | .executed _ | .refused _ => false

def withoutTrace (s : PlannerState (ω × List Event)) : PlannerState ω :=
  ⟨s.world.1, s.messages, s.invalidJsonAttempts, s.executedTools, s.log⟩

def outcomeWithoutTrace : Outcome (ω × List Event) → Outcome ω
  | .goesOn s => .goesOn (withoutTrace s)
  | .ends s ending => .ends (withoutTrace s) ending
  | .raises s e => .raises (withoutTrace s) e

/-- The trace is what the log has of the world's events. -/
def Told (s : PlannerState (ω × List Event)) : Prop := s.world.2 = s.log.filter isOutside

theorem execute_traced (call : Call) (world : ω) (trace : List Event) :
    execute tools (traced parts).describe (traced parts).handler call.tool call.args
        (world, trace) =
      (((execute tools parts.describe parts.handler call.tool call.args world).1,
        trace ++ if (findTool tools call.tool).isSome then [.handled call] else []),
        (execute tools parts.describe parts.handler call.tool call.args world).2) := by
  rw [execute, execute]
  cases findTool tools call.tool with
  | none => exact congrArg (fun rest => ((world, rest), _)) (List.append_nil trace).symm
  | some tool =>
      have hhandler : (traced parts).handler call.tool call.args (world, trace) =
          (((parts.handler call.tool call.args world).1, trace ++ [.handled call]),
            (parts.handler call.tool call.args world).2) := rfl
      dsimp only [Option.isNone, Option.isSome]
      rw [if_neg Bool.false_ne_true, if_neg Bool.false_ne_true, if_pos rfl, hhandler]
      rcases parts.handler call.tool call.args world with ⟨after, e | content⟩ <;> rfl

theorem executeCall_traced (raw : Text) (call : Call) {s : PlannerState (ω × List Event)}
    (h : Told s) :
    withoutTrace (executeCall tools (traced parts) raw call s) =
        executeCall tools parts raw call (withoutTrace s) ∧
      Told (executeCall tools (traced parts) raw call s) := by
  have hsame : (withoutTrace s).executedTools = s.executedTools := rfl
  rw [executeCall, executeCall, hsame]
  cases s.executedTools.lookup call.signature with
  | some result =>
      refine ⟨rfl, h.trans ?_⟩
      change _ = (s.log ++ [_]).filter isOutside
      rw [List.filter_append]
      exact (List.append_nil _).symm
  | none =>
      have hexecute := execute_traced tools parts call s.world.1 s.world.2
      rw [Prod.mk.eta] at hexecute
      dsimp only
      rw [hexecute]
      refine ⟨rfl, ?_⟩
      change s.world.2 ++ _ = (s.log ++ _ :: _).filter isOutside
      rw [List.filter_append, h]
      congr 1
      cases (findTool tools call.tool).isSome <;> rfl

theorem handleDecision_traced (raw : Text) {s : PlannerState (ω × List Event)} (h : Told s) :
    outcomeWithoutTrace (handleDecision u tools (traced parts) message raw s) =
        handleDecision u tools parts message raw (withoutTrace s) ∧
      Told (handleDecision u tools (traced parts) message raw s).state := by
  have hreads : (traced parts).readFloat = parts.readFloat := rfl
  rw [handleDecision, handleDecision, hreads]
  cases parseDecision parts.readFloat raw with
  | error e => exact ⟨rfl, h⟩
  | ok decision =>
      cases decision with
      | answerIntent content => exact ⟨rfl, h⟩
      | final content => exact ⟨rfl, h⟩
      | invalid =>
          have hattempts : (withoutTrace s).addInvalid.invalidJsonAttempts =
              s.addInvalid.invalidJsonAttempts := rfl
          dsimp only
          rw [hattempts]
          split <;> exact ⟨rfl, h⟩
      | toolCall tool args =>
          dsimp only
          cases toolMatchesRequestIn u tools message tool with
          | error e => exact ⟨rfl, h⟩
          | ok matching =>
              cases matching with
              | false => exact ⟨rfl, h⟩
              | true =>
                  obtain ⟨hstate, htold⟩ := executeCall_traced tools parts raw ⟨tool, args⟩ h
                  exact ⟨congrArg Outcome.goesOn hstate, htold⟩

theorem rounds_traced (n : Nat) {s : PlannerState (ω × List Event)} (h : Told s) :
    outcomeWithoutTrace (rounds u tools (traced parts) message n s) =
        rounds u tools parts message n (withoutTrace s) ∧
      Told (rounds u tools (traced parts) message n s).state := by
  induction n generalizing s with
  | zero => exact ⟨rfl, h⟩
  | succ n ih =>
      have hcompleted : Told (complete (traced parts) s).1 := by
        change s.world.2 ++ [_] = (s.log ++ [_]).filter isOutside
        rw [List.filter_append, h]
        rfl
      obtain ⟨hstate, htold⟩ := handleDecision_traced u tools parts message
        (complete (traced parts) s).2 hcompleted
      have hforget : complete parts (withoutTrace s) =
          (withoutTrace (complete (traced parts) s).1, (complete (traced parts) s).2) := rfl
      rw [rounds, rounds, hforget]
      dsimp only
      rw [← hstate]
      generalize handleDecision u tools (traced parts) message _ _ = outcome at htold ⊢
      cases outcome with
      | goesOn s' => exact ih htold
      | ends s' ending => exact ⟨rfl, htold⟩
      | raises s' e => exact ⟨rfl, htold⟩

/-- A run with a trace is the run without it, and the log of the run holds the outputs of the
model and the handlers as they came and ran. -/
theorem run_traced (messages : List PromptMessage) (world : ω) :
    outcomeWithoutTrace (run u tools (traced parts) message messages (world, [])) =
        run u tools parts message messages world ∧
      (run u tools (traced parts) message messages (world, [])).state.world.2 =
        (run u tools parts message messages world).state.log.filter isOutside := by
  have hinitial : Told (PlannerState.initial messages (world, [])) := rfl
  obtain ⟨hstate, htold⟩ := rounds_traced u tools parts message maxRounds hinitial
  refine ⟨hstate, ?_⟩
  change _ = (rounds u tools parts message maxRounds
    (withoutTrace (.initial messages (world, [])))).state.log.filter isOutside
  rw [← hstate]
  refine htold.trans ?_
  generalize rounds u tools (traced parts) message _ _ = outcome
  cases outcome <;> rfl

end Traces

end NanoCore.Assistant.PlannerRuns
