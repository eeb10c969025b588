import NanoCore.Assistant.Confirmations
import NanoCore.Assistant.PlannerRuns
import NanoCore.Assistant.RoutingFailures

namespace NanoCore.Assistant.PlannerSafety

open NanoCore.Foundation.Exceptions
open NanoCore.Foundation.JsonLoads
open NanoCore.Foundation.JsonText
open NanoCore.Foundation.PythonText
open NanoCore.Assistant.AgentRouter
open NanoCore.Assistant.Flows.Planner
open NanoCore.Assistant.Pending
open NanoCore.Assistant.PlannerRuns
open NanoCore.Assistant.RoutingFailures
open NanoCore.Assistant.Prompts
open NanoCore.Assistant.Rules.Decisions
open NanoCore.Assistant.Rules.Intents
open NanoCore.Memory.Models
open NanoCore.Timers.Parsing
open NanoCore.Tools.Registry

def routerOwnedTools : List String :=
  flowOwnedTools ++
    ["rename_timer", "rename_stopwatch", "check_health", "analyze_system", "list_internal_notes"]

section RouterOwned

variable {u : PyData} {message : Text} {db : Database}

theorem not_taken_of_planner {taken : Bool} {decision : RouteDecision}
    {rest : Except PyError RouteDecision}
    (h : (if taken = true then pure decision else rest) = .ok .planner)
    (hdecision : decision ≠ .planner) :
    taken = false ∧ rest = .ok .planner := by
  cases taken with
  | false => exact ⟨rfl, h⟩
  | true => exact absurd (Except.ok.inj h) hdecision

theorem reachesToolIntents_of_planner (h : freshRoute u message = .ok .planner) :
    ReachesToolIntents u message := by
  rw [freshRoute] at h
  obtain ⟨hstopwatch, h⟩ := not_taken_of_planner h (by simp)
  rcases hduration : needsTimerDuration u message with e | duration
  · rw [hduration] at h
    cases h
  · rw [hduration] at h
    obtain ⟨htimer, h⟩ := not_taken_of_planner h (by simp)
    obtain ⟨hshort, hstart⟩ := Bool.or_eq_false_iff.mp htimer
    rw [hshort] at hduration
    obtain ⟨hwipe, h⟩ := not_taken_of_planner h (by simp)
    obtain ⟨hservice, h⟩ := not_taken_of_planner h (by simp)
    obtain ⟨hupdate, h⟩ := not_taken_of_planner h (by simp)
    obtain ⟨hreboot, h⟩ := not_taken_of_planner h (by simp)
    obtain ⟨hhealth, h⟩ := not_taken_of_planner h (by simp)
    obtain ⟨hanalysis, h⟩ := not_taken_of_planner h (by simp)
    obtain ⟨hnotes, h⟩ := not_taken_of_planner h (by simp)
    obtain ⟨hcapabilities, h⟩ := not_taken_of_planner h (by simp)
    obtain ⟨hidentity, h⟩ := not_taken_of_planner h (by simp)
    obtain ⟨hdirect, h⟩ := not_taken_of_planner h (by simp)
    exact ⟨hstopwatch, hduration, hstart, hwipe, hservice, hupdate, hreboot, hhealth, hanalysis,
      hnotes, hcapabilities, hidentity, hdirect⟩

/-- A message for the planner matches no tool of the router. -/
theorem toolMatchesRequest_routerOwned (hfresh : NoTimerRequest u message)
    (h : freshRoute u message = .ok .planner) {name : String} (hname : name ∈ routerOwnedTools) :
    toolMatchesRequest u message name = .ok false := by
  have hreaches := reachesToolIntents_of_planner h
  have hrenameTimer : isTimerRenameRequest u message = .ok false := by
    rw [isTimerRenameRequest, hfresh.renameTimer]
    rfl
  have hrenameStopwatch : isStopwatchRenameRequest u message = .ok false := by
    rw [isStopwatchRenameRequest, hfresh.renameStopwatch]
    rfl
  simp only [routerOwnedTools, flowOwnedTools, List.cons_append, List.nil_append, List.mem_cons,
    List.not_mem_nil, or_false] at hname
  rcases hname with rfl | rfl | rfl | rfl | rfl | rfl | rfl | rfl | rfl | rfl | rfl
  · exact congrArg Except.ok hreaches.startTimer
  · exact congrArg Except.ok hreaches.startStopwatch
  · exact congrArg Except.ok hfresh.status
  · exact congrArg Except.ok hfresh.cancel
  · exact congrArg Except.ok hfresh.stop
  · exact congrArg Except.ok hfresh.clearAll
  · exact hrenameTimer
  · exact hrenameStopwatch
  · exact congrArg Except.ok hreaches.healthCheck
  · exact congrArg Except.ok hreaches.systemAnalysis
  · exact congrArg Except.ok hreaches.internalNotes

theorem planner_of_decide {c : String} {pending : PendingStore}
    (h : (decide u message c db pending).1 = .ok .planner) :
    NoTimerRequest u message ∧ freshRoute u message = .ok .planner := by
  obtain ⟨hfresh, -, ⟨-, hroute⟩ | ⟨-, hpending⟩⟩ := of_decide h (by simp) (by simp)
  · exact ⟨hfresh, hroute⟩
  · cases hpending

/-- A run for a message of the planner never executes a tool of the router. -/
theorem planner_avoids_routerOwned {ω : Type} (parts : Parts ω) (messages : List PromptMessage)
    (world : ω) {c : String} {pending : PendingStore}
    (h : (decide u message c db pending).1 = .ok .planner) {name : String}
    (hname : name ∈ routerOwnedTools) :
    toolMatchesRequest u message name = .ok false ∧
      ∀ call, call.tool = name →
        .executed call ∉ (Outcome.state (run u listTools parts message messages world)).log ∧
        .handled call ∉ (Outcome.state (run u listTools parts message messages world)).log := by
  obtain ⟨hfresh, hroute⟩ := planner_of_decide h
  have hmatches := toolMatchesRequest_routerOwned hfresh hroute hname
  have hsound := soundCalls_run u listTools parts message messages world
  refine ⟨hmatches, ?_⟩
  rintro call rfl
  have hexecuted :
      .executed call ∉ (Outcome.state (run u listTools parts message messages world)).log := by
    intro hcall
    have htrue := hsound.matching call hcall
    rw [toolMatchesRequest] at hmatches
    rw [hmatches] at htrue
    cases htrue
  exact ⟨hexecuted, fun hhandled => hexecuted ((hsound.handled call).mp hhandled).1⟩

end RouterOwned

def scripted : Parts (List Text) where
  readFloat _ := .zero
  complete _ replies := (replies.tail, replies.headD [])
  handler _ _ replies := (replies, .ok "ok".toList)
  describe _ := []

def driveCall : Text :=
  "\x7b\"type\": \"tool_call\", \"tool\": \"read_google_drive_file\"\x7d".toList

def unregisteredCall : Text := "\x7b\"type\": \"tool_call\", \"tool\": \"frobnicate\"\x7d".toList

def doneAnswer : Text := "\x7b\"type\": \"final\", \"content\": \"Done.\"\x7d".toList

def startTimerCall : Text := "\x7b\"type\": \"tool_call\", \"tool\": \"start_timer\"\x7d".toList

/-- A model that asks for a timer when it is asked for the weather. -/
theorem planner_avoids_startTimer :
    toolMatchesRequest .ascii "what is the weather in paris".toList "start_timer" = .ok false ∧
      ∀ call, call.tool = "start_timer" →
        .executed call ∉ (Outcome.state (run .ascii listTools scripted
          "what is the weather in paris".toList [] [startTimerCall, doneAnswer])).log ∧
        .handled call ∉ (Outcome.state (run .ascii listTools scripted
          "what is the weather in paris".toList [] [startTimerCall, doneAnswer])).log :=
  have hplanner : (decide .ascii "what is the weather in paris".toList "default" .empty .empty).1 =
      .ok .planner := by decide +kernel
  planner_avoids_routerOwned scripted [] [startTimerCall, doneAnswer] hplanner (by decide)

section Endings

variable (u : PyData) (tools : List ToolSpec) (readFloat : ReadFloat) (message : Text)

inductive Stops (raw : Text) : Prop where
  | unparsed (h : Raises (parseDecision readFloat raw))
  | failed {call : Call} (h : Asks readFloat raw call)
      (hregistered : (findTool tools call.tool).isSome = true)
      (hfails : FailsToMatch u message call.tool)

def AsksForAnswer (raw : Text) : Prop :=
  ∃ decision content, parseDecision readFloat raw = .ok decision ∧ Answers decision content

def AsksMatching (raw : Text) : Prop :=
  ∃ call, Asks readFloat raw call ∧ toolMatchesRequestIn u tools message call.tool = .ok true

def AsksRegistered (raw : Text) : Prop :=
  ∃ call, Asks readFloat raw call ∧ (findTool tools call.tool).isSome = true ∧
    toolMatchesRequestIn u tools message call.tool = .ok true

def AsksUnregistered (raw : Text) : Prop :=
  ∃ call, Asks readFloat raw call ∧ findTool tools call.tool = none

end Endings

/-- What a run of the planner promises. -/
structure Safe {ω : Type} (u : PyData) (tools : List ToolSpec) (readFloat : ReadFloat)
    (message : Text) (outcome : Outcome ω) : Prop where
  completions : (outputs (Outcome.state outcome).log).length ≤ 8
  handlers : ∀ call, .handled call ∈ (Outcome.state outcome).log →
    (findTool tools call.tool).isSome = true ∧
      toolMatchesRequestIn u tools message call.tool = .ok true
  distinct : (executedCalls (Outcome.state outcome).log).Pairwise fun a b => ¬a.Same b
  refusals : ∀ before call after,
    (Outcome.state outcome).log = before ++ .refused call :: after →
      ∃ earlier ∈ executedCalls before, earlier.Same call
  idle : executedCalls (Outcome.state outcome).log = [] → ∃ s, outcome = .ends s .confused
  invalid : ∀ before raw after, (Outcome.state outcome).log = before ++ .completed raw :: after →
    isInvalid readFloat raw = true → (outputs before).countP (isInvalid readFloat) = 1 →
      after = [] ∧ ∃ s, outcome = .ends s .confused

def Grounded {ω : Type} (outcome : Outcome ω) : Prop :=
  (∃ call, .handled call ∈ (Outcome.state outcome).log) ∨
    (∃ s, outcome = .ends s .confused) ∨ ∃ s, outcome = .ends s .stepLimit

section Ends

variable {ω : Type} {u : PyData} {tools : List ToolSpec} {parts : Parts ω} {message : Text}
variable {s : PlannerState ω} {raw : Text} {outcome : Outcome ω}

theorem same_of_signature_eq {a b : Call} : a.signature = b.signature ↔ a.Same b :=
  toolSignature_eq_iff

theorem executedCalls_eq_nil_iff (h : Running u tools parts.readFloat message s) :
    executedCalls s.log = [] ↔
      ¬∃ raw ∈ outputs s.log, AsksMatching u tools parts.readFloat message raw := by
  constructor
  · rintro hnil ⟨raw, hraw, call, hasks, hmatches⟩
    have hmem := h.asked raw call (mem_outputs.mp hraw) hasks hmatches
    rw [hnil] at hmem
    cases hmem
  · intro hnone
    by_contra hcalls
    obtain ⟨call, hcall⟩ := List.exists_mem_of_ne_nil _ hcalls
    have hexecuted := mem_executedCalls.mp hcall
    obtain ⟨raw, hraw, hasks⟩ := h.asks call hexecuted
    exact hnone ⟨raw, mem_outputs.mpr hraw, call, hasks, h.matching call hexecuted⟩

theorem handled_iff (h : Running u tools parts.readFloat message s) :
    (∃ call, .handled call ∈ s.log) ↔
      ∃ raw ∈ outputs s.log, AsksRegistered u tools parts.readFloat message raw := by
  constructor
  · rintro ⟨call, hhandled⟩
    obtain ⟨hexecuted, hregistered⟩ := (h.handled call).mp hhandled
    obtain ⟨raw, hraw, hasks⟩ := h.asks call hexecuted
    exact ⟨raw, mem_outputs.mpr hraw, call, hasks, hregistered, h.matching call hexecuted⟩
  · rintro ⟨raw, hraw, call, hasks, hregistered, hmatches⟩
    obtain ⟨earlier, hearlier, hsignature⟩ :=
      List.mem_map.mp (h.asked raw call (mem_outputs.mp hraw) hasks hmatches)
    have hsame := (same_of_signature_eq.mp hsignature).1
    exact ⟨earlier, (h.handled earlier).mpr ⟨mem_executedCalls.mp hearlier, hsame ▸ hregistered⟩⟩

theorem not_stops_of_passes (h : Passes u tools parts.readFloat message raw) :
    ¬Stops u tools parts.readFloat message raw := by
  intro hstops
  cases h with
  | invalid hparse =>
      cases hstops with
      | unparsed hraises => exact not_raises_of_ok hparse hraises
      | failed hasks =>
          rw [Asks, hparse] at hasks
          cases hasks
  | call hasks htest =>
      cases hstops with
      | unparsed hraises => exact not_raises_of_ok hasks hraises
      | failed hother hregistered hfails =>
          rw [asks_unique hother hasks] at hregistered hfails
          exact not_raises_of_ok htest (raises_toolMatchesRequestIn_iff.mpr ⟨hregistered, hfails⟩)

theorem not_asksForAnswer_of_passes (h : Passes u tools parts.readFloat message raw) :
    ¬AsksForAnswer parts.readFloat raw := by
  rintro ⟨decision, content, hparse, hanswers⟩
  cases h with
  | invalid hinvalid =>
      rw [hinvalid] at hparse
      cases hparse
      cases hanswers
  | call hasks =>
      rw [hasks] at hparse
      cases hparse
      cases hanswers

theorem stops_iff_of_turn {c : PlannerState ω}
    (hturn : Turn u tools parts.readFloat message raw c outcome) :
    Stops u tools parts.readFloat message raw ↔ ∃ s e, outcome = .raises s e := by
  cases hturn with
  | unparsed h => exact ⟨fun _ => ⟨_, _, rfl⟩, fun _ => .unparsed ⟨_, h⟩⟩
  | failed h htest =>
      obtain ⟨hregistered, hfails⟩ := raises_toolMatchesRequestIn_iff.mp ⟨_, htest⟩
      exact ⟨fun _ => ⟨_, _, rfl⟩, fun _ => .failed h hregistered hfails⟩
  | answered h hanswers =>
      refine ⟨fun hstops => ?_, by rintro ⟨_, _, ⟨⟩⟩⟩
      cases hstops with
      | unparsed hraises => exact absurd hraises (not_raises_of_ok h)
      | failed hasks =>
          rw [Asks, h] at hasks
          cases hasks
          cases hanswers
  | secondInvalid h => exact iff_of_false (not_stops_of_passes (.invalid h)) (by simp)
  | firstInvalid h => exact iff_of_false (not_stops_of_passes (.invalid h)) (by simp)
  | mismatched h htest =>
      exact iff_of_false (not_stops_of_passes (.call h htest)) (by simp)
  | refused h htest =>
      exact iff_of_false (not_stops_of_passes (.call h htest)) (by simp)
  | executed h htest =>
      exact iff_of_false (not_stops_of_passes (.call h htest)) (by simp)

theorem isInvalid_iff {readFloat : ReadFloat} :
    isInvalid readFloat raw = true ↔ parseDecision readFloat raw = .ok .invalid := by
  rw [isInvalid]
  split
  · rename_i h
    exact ⟨fun _ => h, fun _ => rfl⟩
  · rename_i h
    exact iff_of_false Bool.false_ne_true h

theorem forall_last_iff {texts : List Text} {P : List Text → Text → Prop} :
    (∀ before last, texts ++ [raw] = before ++ [last] → P before last) ↔ P texts raw := by
  constructor
  · exact fun h => h texts raw rfl
  · intro h before last hsplit
    obtain ⟨hbefore, hlast⟩ := List.append_inj' hsplit rfl
    cases hlast
    exact hbefore ▸ h

theorem executedTools_eq_nil_iff (h : Running u tools parts.readFloat message s) :
    s.executedTools = [] ↔ executedCalls s.log = [] := by
  rw [← List.map_eq_nil_iff (f := Prod.fst), h.keys, List.map_eq_nil_iff]

theorem buildAnswer_eq_confused_iff {content : Option Text} :
    s.buildAnswer content = .confused ↔ s.executedTools = [] := by
  rw [PlannerState.buildAnswer, ← List.getLast?_eq_none_iff]
  cases s.executedTools.getLast? with
  | none => simp
  | some latest =>
      refine ⟨fun hconfused => ?_, nofun⟩
      cases content with
      | none => cases hconfused
      | some text =>
          dsimp only at hconfused
          split at hconfused <;> cases hconfused

theorem buildAnswer_ne_stepLimit {content : Option Text} :
    s.buildAnswer content ≠ .stepLimit := by
  rw [PlannerState.buildAnswer]
  intro hlimit
  split at hlimit
  · cases hlimit
  · split at hlimit
    · split at hlimit <;> cases hlimit
    · cases hlimit

theorem executedCalls_completed {c : PlannerState ω} (hc : Completes s raw c) :
    executedCalls c.log = executedCalls s.log := by
  rw [hc.log, executedCalls_append]
  exact List.append_nil _

theorem handled_completed {c : PlannerState ω} (hc : Completes s raw c) {call : Call} :
    .handled call ∈ c.log ↔ .handled call ∈ s.log := by
  rw [hc.log]
  simp

theorem outputs_completed {c : PlannerState ω} (hc : Completes s raw c) :
    outputs c.log = outputs s.log ++ [raw] := by
  rw [hc.log, outputs_append]
  rfl

/-- A running loop has not yet seen a second output that cannot be parsed. -/
theorem log_ne_of_invalid (h : Running u tools parts.readFloat message s)
    {before after : List Event} (hraw : isInvalid parts.readFloat raw = true)
    (hone : (outputs before).countP (isInvalid parts.readFloat) = 1) :
    s.log ≠ before ++ .completed raw :: after := by
  have hcount := h.attempts ▸ h.attempts_le
  have houtputs : outputs (Event.completed raw :: after) = raw :: outputs after := rfl
  intro hlog
  rw [hlog, outputs_append, List.countP_append, houtputs, List.countP_cons, hraw, hone] at hcount
  simp only [if_true] at hcount
  omega

theorem eq_last_of_split {log before after : List Event} {last : Text}
    (hne : ∀ after', log ≠ before ++ .completed raw :: after')
    (hsplit : log ++ [.completed last] = before ++ .completed raw :: after) :
    last = raw ∧ after = [] := by
  rcases split_append hsplit with ⟨after', hlog⟩ | ⟨before', -, hevents⟩
  · exact absurd hlog (hne after')
  · cases before' with
    | nil =>
        cases hevents
        exact ⟨rfl, rfl⟩
    | cons event rest =>
        have hnil := (List.cons.inj hevents).2
        simp at hnil

theorem invalid_of_left (h : Running u tools parts.readFloat message s)
    (hleft : Left u tools parts.readFloat message s outcome) {before after : List Event}
    (hsplit : (Outcome.state outcome).log = before ++ .completed raw :: after)
    (hraw : isInvalid parts.readFloat raw = true)
    (hone : (outputs before).countP (isInvalid parts.readFloat) = 1) :
    after = [] ∧ ∃ s', outcome = .ends s' .confused := by
  have hearlier : ∀ after', s.log ≠ before ++ .completed raw :: after' :=
    fun after' => log_ne_of_invalid h hraw hone
  have hparse := isInvalid_iff.mp hraw
  cases hleft with
  | used => exact absurd hsplit (hearlier after)
  | ends hc hturn =>
      rw [log_of_turn hturn nofun, hc.log] at hsplit
      obtain ⟨rfl, hafter⟩ := eq_last_of_split hearlier hsplit
      refine ⟨hafter, ?_⟩
      cases hturn with
      | secondInvalid => exact ⟨_, rfl⟩
      | answered hother hanswers =>
          rw [hparse] at hother
          cases hother
          cases hanswers
  | raises hc hturn =>
      rw [log_of_turn hturn nofun, hc.log] at hsplit
      obtain ⟨rfl, -⟩ := eq_last_of_split hearlier hsplit
      have hstops := (stops_iff_of_turn hturn).mpr ⟨_, _, rfl⟩
      exact absurd hstops (not_stops_of_passes (.invalid hparse))

theorem passes_last (h : Running u tools parts.readFloat message s) {before : List Text}
    {last : Text} (houtputs : outputs s.log = before ++ [last]) :
    Passes u tools parts.readFloat message last := by
  apply h.passed last
  rw [← mem_outputs, houtputs]
  exact List.mem_append_right before List.mem_cons_self

theorem idle_iff (h : Running u tools parts.readFloat message s)
    (hleft : Left u tools parts.readFloat message s outcome) :
    (executedCalls (Outcome.state outcome).log = [] → ∃ s', outcome = .ends s' .confused) ↔
      ∀ before last, outputs (Outcome.state outcome).log = before ++ [last] →
        Stops u tools parts.readFloat message last →
          ∃ raw ∈ before, AsksMatching u tools parts.readFloat message raw := by
  cases hleft with
  | used =>
      constructor
      · intro _ before last houtputs hstops
        exact absurd hstops (not_stops_of_passes (passes_last h houtputs))
      · intro _ hnil
        refine ⟨s, ?_⟩
        rw [(executedTools_eq_nil_iff h).mpr hnil]
        rfl
  | @ends raw c s' ending hc hturn =>
      have hstate : (Outcome.state (.ends s' ending)).log = c.log := log_of_turn hturn nofun
      rw [hstate, executedCalls_completed hc, outputs_completed hc, forall_last_iff]
      constructor
      · intro _ hstops
        obtain ⟨_, _, hraises⟩ := (stops_iff_of_turn hturn).mp hstops
        cases hraises
      · intro _ hnil
        cases hturn with
        | secondInvalid => exact ⟨_, rfl⟩
        | answered =>
            have htools := hc.executedTools.trans ((executedTools_eq_nil_iff h).mpr hnil)
            exact ⟨_, congrArg _ (buildAnswer_eq_confused_iff.mpr htools)⟩
  | @raises raw c s' e hc hturn =>
      have hstate : (Outcome.state (.raises s' e)).log = c.log := log_of_turn hturn nofun
      have hstops := (stops_iff_of_turn hturn).mpr ⟨_, _, rfl⟩
      rw [hstate, executedCalls_completed hc, outputs_completed hc, forall_last_iff,
        executedCalls_eq_nil_iff h]
      constructor
      · intro hidle _
        by_contra hnone
        obtain ⟨_, hends⟩ := hidle hnone
        cases hends
      · exact fun hasked hnone => absurd (hasked hstops) hnone

theorem asksMatching_iff :
    AsksMatching u tools parts.readFloat message raw ↔
      AsksRegistered u tools parts.readFloat message raw ∨
        AsksUnregistered tools parts.readFloat raw := by
  constructor
  · rintro ⟨call, hasks, hmatches⟩
    cases hfind : findTool tools call.tool with
    | none => exact .inr ⟨call, hasks, hfind⟩
    | some tool => exact .inl ⟨call, hasks, by rw [hfind]; rfl, hmatches⟩
  · rintro (⟨call, hasks, -, hmatches⟩ | ⟨call, hasks, hfind⟩)
    · exact ⟨call, hasks, hmatches⟩
    · refine ⟨call, hasks, ?_⟩
      rw [toolMatchesRequestIn, hfind]

theorem executedCalls_eq_nil_iff_of_none (h : Running u tools parts.readFloat message s)
    (hnone : ¬∃ call, .handled call ∈ s.log) :
    executedCalls s.log = [] ↔
      ∀ raw ∈ outputs s.log, ¬AsksUnregistered tools parts.readFloat raw := by
  rw [handled_iff h] at hnone
  rw [executedCalls_eq_nil_iff h]
  constructor
  · exact fun hmatching raw hraw hasks => hmatching ⟨raw, hraw, asksMatching_iff.mpr (.inr hasks)⟩
  · rintro hunregistered ⟨raw, hraw, hasks⟩
    rcases asksMatching_iff.mp hasks with hregistered | hother
    · exact hnone ⟨raw, hraw, hregistered⟩
    · exact hunregistered raw hraw hother

/-- Where no call was handled, an answer confuses unless a tool that does not exist was
asked for before it. -/
theorem buildAnswer_eq_confused_iff_of_none (h : Running u tools parts.readFloat message s)
    {c : PlannerState ω} (hc : Completes s raw c) (hnone : ¬∃ call, .handled call ∈ s.log)
    (content : Option Text) :
    c.buildAnswer content = .confused ↔
      ∀ raw ∈ outputs s.log, ¬AsksUnregistered tools parts.readFloat raw := by
  rw [buildAnswer_eq_confused_iff, hc.executedTools]
  exact (executedTools_eq_nil_iff h).trans (executedCalls_eq_nil_iff_of_none h hnone)

theorem grounded_iff_of_left (h : Running u tools parts.readFloat message s)
    (hleft : Left u tools parts.readFloat message s outcome) :
    Grounded outcome ↔
      ∀ before last, outputs (Outcome.state outcome).log = before ++ [last] →
        (∃ raw ∈ before, AsksRegistered u tools parts.readFloat message raw) ∨
          (¬Stops u tools parts.readFloat message last ∧
            (AsksForAnswer parts.readFloat last →
              ∀ raw ∈ before, ¬AsksUnregistered tools parts.readFloat raw)) := by
  cases hleft with
  | used =>
      constructor
      · intro _ before last houtputs
        have hpasses := passes_last h houtputs
        exact .inr ⟨not_stops_of_passes hpasses,
          fun hanswer => absurd hanswer (not_asksForAnswer_of_passes hpasses)⟩
      · intro _
        refine .inr ?_
        cases s.executedTools.isEmpty with
        | true => exact .inl ⟨_, rfl⟩
        | false => exact .inr ⟨_, rfl⟩
  | @ends raw c s' ending hc hturn =>
      have hstate : (Outcome.state (.ends s' ending)).log = c.log := log_of_turn hturn nofun
      have hstops : ¬Stops u tools parts.readFloat message raw := by
        rw [stops_iff_of_turn hturn]
        rintro ⟨_, _, hraises⟩
        cases hraises
      rw [Grounded, hstate, outputs_completed hc, forall_last_iff, ← handled_iff h]
      simp only [handled_completed hc]
      refine or_congr_right' fun hnone => ?_
      cases hturn with
      | secondInvalid hparse =>
          have hpasses : Passes u tools parts.readFloat message raw := .invalid hparse
          refine ⟨fun _ => ⟨hstops, ?_⟩, fun _ => .inl ⟨_, rfl⟩⟩
          exact fun hanswer => absurd hanswer (not_asksForAnswer_of_passes hpasses)
      | @answered _ content hparse hanswers =>
          rw [← buildAnswer_eq_confused_iff_of_none h hc hnone content]
          constructor
          · rintro (⟨_, hends⟩ | ⟨_, hends⟩)
            · exact ⟨hstops, fun _ => (Outcome.ends.inj hends).2⟩
            · exact absurd (Outcome.ends.inj hends).2 buildAnswer_ne_stepLimit
          · rintro ⟨-, hanswer⟩
            exact .inl ⟨_, congrArg _ (hanswer ⟨_, _, hparse, hanswers⟩)⟩
  | @raises raw c s' e hc hturn =>
      have hstate : (Outcome.state (.raises s' e)).log = c.log := log_of_turn hturn nofun
      have hstops := (stops_iff_of_turn hturn).mpr ⟨_, _, rfl⟩
      rw [Grounded, hstate, outputs_completed hc, forall_last_iff, ← handled_iff h]
      simp only [handled_completed hc]
      refine or_congr_right ⟨?_, fun hnot => absurd hstops hnot.1⟩
      rintro (⟨_, hends⟩ | ⟨_, hends⟩) <;> cases hends

end Ends

section Runs

variable {ω : Type} (u : PyData) (tools : List ToolSpec) (parts : Parts ω) (message : Text)
variable (messages : List PromptMessage) (world : ω)

/-- A run keeps its promises unless it raises before a call was executed. -/
theorem safe_run_iff :
    Safe u tools parts.readFloat message (run u tools parts message messages world) ↔
      ∀ before last,
        outputs (Outcome.state (run u tools parts message messages world)).log =
            before ++ [last] →
          Stops u tools parts.readFloat message last →
            ∃ raw ∈ before, AsksMatching u tools parts.readFloat message raw := by
  obtain ⟨s, hrunning, hleft⟩ := left_run u tools parts message messages world
  have hsound := soundCalls_run u tools parts message messages world
  rw [← idle_iff hrunning hleft]
  constructor
  · exact Safe.idle
  · intro hidle
    constructor
    case completions => exact length_outputs_run u tools parts message messages world
    case handlers =>
      intro call hhandled
      obtain ⟨hexecuted, hregistered⟩ := (hsound.handled call).mp hhandled
      exact ⟨hregistered, hsound.matching call hexecuted⟩
    case distinct =>
      refine (List.pairwise_map.mp hsound.distinct).imp ?_
      exact fun hne hsame => hne (same_of_signature_eq.mpr hsame)
    case refusals =>
      intro before call after hsplit
      obtain ⟨earlier, hmem, hsignature⟩ := hsound.refused before call after hsplit
      exact ⟨earlier, hmem, same_of_signature_eq.mp hsignature⟩
    case idle => exact hidle
    case invalid =>
      intro before raw after hsplit hraw hone
      exact invalid_of_left hrunning hleft hsplit hraw hone

/-- A link that cannot be read, and a model that wants to read it. -/
theorem not_safe_run_bracket :
    (∃ decision, parseDecision scripted.readFloat driveCall = .ok decision) ∧
      ¬Safe .ascii listTools scripted.readFloat "http://[ weather".toList
        (run .ascii listTools scripted "http://[ weather".toList [] [driveCall]) := by
  have hparsed : (parseDecision scripted.readFloat driveCall).isOk = true := by decide +kernel
  have hidle : (executedCalls (Outcome.state
      (run .ascii listTools scripted "http://[ weather".toList [] [driveCall])).log).isEmpty =
        true := by decide +kernel
  have hraises :
      (run .ascii listTools scripted "http://[ weather".toList [] [driveCall]).returns = false := by
    decide +kernel
  constructor
  · cases hdecision : parseDecision scripted.readFloat driveCall with
    | ok decision => exact ⟨decision, rfl⟩
    | error e =>
        rw [hdecision] at hparsed
        cases hparsed
  · intro hsafe
    obtain ⟨s, hends⟩ := hsafe.idle (List.isEmpty_iff.mp hidle)
    rw [hends] at hraises
    cases hraises

/-- An answer of the model is grounded unless all its calls are of tools that are
not registered, or the run raises. -/
theorem grounded_run_iff :
    Grounded (run u tools parts message messages world) ↔
      ∀ before last,
        outputs (Outcome.state (run u tools parts message messages world)).log =
            before ++ [last] →
          (∃ raw ∈ before, AsksRegistered u tools parts.readFloat message raw) ∨
            (¬Stops u tools parts.readFloat message last ∧
              (AsksForAnswer parts.readFloat last →
                ∀ raw ∈ before, ¬AsksUnregistered tools parts.readFloat raw)) := by
  obtain ⟨s, hrunning, hleft⟩ := left_run u tools parts message messages world
  exact grounded_iff_of_left hrunning hleft

/-- A call of a tool that does not exist, and an answer after it. -/
theorem not_grounded_run_unregistered :
    ¬Grounded
      (run .ascii listTools scripted "weather".toList [] [unregisteredCall, doneAnswer]) := by
  have hcalls : (executedCalls (Outcome.state (run .ascii listTools scripted "weather".toList []
      [unregisteredCall, doneAnswer])).log).any
        (fun call => (findTool listTools call.tool).isSome) = false := by decide +kernel
  have hanswer : (run .ascii listTools scripted "weather".toList []
      [unregisteredCall, doneAnswer]).answerText = some "Done.".toList := by decide +kernel
  have hsound := soundCalls_run .ascii listTools scripted "weather".toList []
    [unregisteredCall, doneAnswer]
  rintro (⟨call, hcall⟩ | ⟨s, hends⟩ | ⟨s, hends⟩)
  · obtain ⟨hexecuted, hregistered⟩ := (hsound.handled call).mp hcall
    exact List.any_eq_false.mp hcalls call (mem_executedCalls.mpr hexecuted) hregistered
  · rw [hends] at hanswer
    cases hanswer
  · rw [hends] at hanswer
    cases hanswer

end Runs

end NanoCore.Assistant.PlannerSafety
