import NanoCore.Assistant.Flows.Timer
import NanoCore.Assistant.Guard.Rewriter

namespace NanoCore.Assistant.FalsePrompts

open NanoCore.Foundation.Effects
open NanoCore.Foundation.Effects.Effect
open NanoCore.Foundation.JsonText
open NanoCore.Foundation.PythonRegex
open NanoCore.Foundation.PythonText
open NanoCore.Foundation.Regex
open NanoCore.Foundation.RegexSearch
open NanoCore.Assistant.Flows
open NanoCore.Assistant.Guard.Detectors
open NanoCore.Assistant.Guard.Rewriter
open NanoCore.Assistant.Prompts
open NanoCore.Assistant.ResponseComposer
open NanoCore.Assistant.Rules.Messages
open NanoCore.Assistant.Sources
open NanoCore.Assistant.State

/-- Every yes/no prompt that is written is about the action of the source. -/
def NoFalsePrompt {ω : Type} (u : PyData) (parts : Parts ω) (source : ResponseSource) (world : ω) :
    Prop :=
  ∀ action ∈ (composeAndGuard u parts source (world, [])).1.2,
    source.confirmationAction = some action

/-- A confirmation of no action, whose facts stand for a request or are checked by
the guard. -/
structure AsksInVain (source : ResponseSource) : Prop where
  kind : source.kind = .confirmation
  action : source.confirmationAction = none
  facts : isRequested source.facts = true ∨
    (source.skipEnrichment = false ∧ strip source.facts ≠ [])

section Prompts

variable {ω : Type} {u : PyData} {parts : Parts ω} {source : ResponseSource}
variable {P : List ConfirmationAction → Prop}

theorem keeps_ask (system user : Text) : Keeps Prod.snd (ask parts system user) :=
  (keeps_onFirst _).bind fun _ => keeps_pure _

def promptedAction (source : ResponseSource) : ConfirmationAction :=
  source.confirmationAction.getD .wipe

theorem preserves_systemPrompt {action : ConfirmationAction} (hP : ∀ prompted, P prompted →
    P (prompted ++ [action])) (message : Text) :
    Preserves (fun session : Session ω => P session.2) (systemPrompt u action message) :=
  (preserves_change fun session h => hP session.2 h).bind fun _ => preserves_pure _

theorem preserves_wipePrompt (hP : ∀ prompted, P prompted → P (prompted ++ [.wipe]))
    (message : Text) :
    Preserves (fun session : Session ω => P session.2) (wipePrompt u message) :=
  (preserves_change fun session h => hP session.2 h).bind fun _ => preserves_pure _

theorem preserves_composeConfirmation
    (hP : ∀ prompted, P prompted → P (prompted ++ [promptedAction source])) :
    Preserves (fun session : Session ω => P session.2) (composeConfirmation u source) := by
  rw [composeConfirmation]
  cases haction : source.confirmationAction with
  | some action =>
      rw [promptedAction, haction] at hP
      exact preserves_systemPrompt hP _
  | none =>
      rw [promptedAction, haction] at hP
      dsimp only
      split
      · exact preserves_pure _
      · exact preserves_wipePrompt hP _

theorem keeps_composeWithHint : Keeps Prod.snd (composeWithHint parts source) :=
  (keeps_ask _ _).bind fun _ => keeps_pure _

theorem keeps_composeWithLlm : Keeps Prod.snd (composeWithLlm parts source) := by
  refine (keeps_ask _ _).bind fun summary => ?_
  split
  · split
    · exact keeps_ofExcept _
    · exact keeps_pure _
  · exact keeps_pure _

theorem keeps_composePayload : Keeps Prod.snd (composePayload parts source) := by
  refine (keeps_ofExcept _).bind fun isJson => ?_
  split
  · exact keeps_pure _
  · exact keeps_composeWithLlm

theorem preserves_compose
    (hP : source.kind = .confirmation → ∀ prompted, P prompted →
      P (prompted ++ [promptedAction source])) :
    Preserves (fun session : Session ω => P session.2) (compose u parts source) := by
  rw [compose]
  cases hkind : source.kind with
  | confirmation => exact preserves_composeConfirmation (hP hkind)
  | followUp => exact preserves_pure _
  | answer => exact preserves_pure _
  | toolError => exact keeps_composePayload.preserves P
  | toolResult =>
      dsimp only
      split
      · exact preserves_ofExcept _
      · split
        · exact keeps_composeWithHint.preserves P
        · exact keeps_composePayload.preserves P

theorem keeps_collectProblems (content : Text) :
    Keeps Prod.snd (collectProblems u parts source content) := by
  simp only [collectProblems]
  split
  · exact keeps_pure _
  · split
    · exact (keeps_ask _ _).bind fun _ => (keeps_ofExcept _).bind fun _ => keeps_pure _
    · exact keeps_pure _

theorem keeps_guardPasses (n : Nat) (content : Text) :
    Keeps Prod.snd (guardPasses u parts source n content) := by
  induction n generalizing content with
  | zero => exact keeps_pure _
  | succ n ih =>
      refine (keeps_collectProblems content).bind fun problems => ?_
      split
      · exact keeps_pure _
      · refine Keeps.bind ?_ fun revised => ih revised
        exact (keeps_ask _ _).bind fun _ => keeps_pure _

theorem preserves_enforce
    (hP : source.kind = .confirmation → ∀ prompted, P prompted →
      P (prompted ++ [promptedAction source])) (content : Text) :
    Preserves (fun session : Session ω => P session.2)
      (enforceUserFacingAnswer u parts source content) := by
  rw [enforceUserFacingAnswer]
  split
  · exact preserves_pure _
  · refine ((keeps_guardPasses _ _).preserves P).bind fun guarded => ?_
    rw [replaceRefusal]
    split
    · rename_i hrefusal
      rw [Bool.and_eq_true, decide_eq_true_eq] at hrefusal
      have hwritten := hP hrefusal.1
      cases haction : source.confirmationAction with
      | some action =>
          rw [promptedAction, haction] at hwritten
          exact preserves_systemPrompt hwritten _
      | none =>
          rw [promptedAction, haction] at hwritten
          exact preserves_wipePrompt hwritten _
    · exact preserves_pure _

end Prompts

theorem noFalsePrompt_of_not_asksInVain {ω : Type} {u : PyData} {source : ResponseSource}
    (h : ¬AsksInVain source) (parts : Parts ω) (world : ω) :
    NoFalsePrompt u parts source world := by
  by_cases hvain : source.kind = .confirmation ∧ source.confirmationAction = none
  · -- nothing is written: the facts go through the composer and past the guard
    obtain ⟨hkind, haction⟩ := hvain
    have hrequested : isRequested source.facts = false := by
      by_contra hrequested
      exact h ⟨hkind, haction, .inl (Bool.not_eq_false _ ▸ hrequested)⟩
    have hpasses : (strip source.facts = [] || source.skipEnrichment) = true := by
      by_contra hchecked
      rw [Bool.or_eq_true, decide_eq_true_eq, not_or, Bool.not_eq_true] at hchecked
      exact h ⟨hkind, haction, .inr ⟨hchecked.2, hchecked.1⟩⟩
    have hcompose : compose u parts source = (pure source.facts : Step ω Text) := by
      rw [compose, hkind]
      dsimp only
      rw [composeConfirmation, haction]
      dsimp only
      rw [hrequested]
      rfl
    have hrun : composeAndGuard u parts source (world, []) = ((world, []), .ok source.facts) := by
      rw [composeAndGuard, hcompose]
      change enforceUserFacingAnswer u parts source source.facts (world, []) = _
      rw [enforceUserFacingAnswer, if_pos hpasses]
      rfl
    rw [NoFalsePrompt, hrun]
    nofun
  · have hfits (hkind : source.kind = .confirmation) (prompted : List ConfirmationAction)
        (hprompted : ∀ action ∈ prompted, source.confirmationAction = some action) :
        ∀ action ∈ prompted ++ [promptedAction source],
          source.confirmationAction = some action := by
      intro action hmem
      rcases List.mem_append.mp hmem with hmem | hmem
      · exact hprompted action hmem
      · rw [List.mem_singleton.mp hmem, promptedAction]
        cases haction : source.confirmationAction with
        | none => exact absurd ⟨hkind, haction⟩ hvain
        | some action => rfl
    have hkeeps : Preserves (fun session : Session ω => ∀ action ∈ session.2,
        source.confirmationAction = some action) (composeAndGuard u parts source) :=
      (preserves_compose hfits).bind (preserves_enforce hfits)
    exact hkeeps (world, []) nofun

def refusingReply : Text := "\x7b\"aligned\": false, \"note\": \"I must decline\"\x7d".toList

def refusing : Parts Unit where
  complete _ := pure refusingReply
  readFloat _ := .zero
  isPrintable _ := true

section Refusing

variable {u : PyData} {source : ResponseSource}

theorem matches_mustDecline (before after : Text) :
    Matches (spacedWords ["i", "must", "decline"]) before "I must decline".toList after := by
  have hspace (before after : Text) : Matches spaces before [' '] after :=
    matches_spaces.mpr ⟨by decide, List.all_eq_true.mp (by decide)⟩
  have hword {word : String} {text : Text} (h : List.Forall₂ (fun x c => foldsTo x c = true)
      word.toList text) (before after : Text) : Matches (litCI word) before text after :=
    matches_litCI.mpr h
  change Matches (seqs [litCI "i", spaces, litCI "must", spaces, litCI "decline"]) _ _ _
  simp only [matches_seqs_cons, matches_seqs_nil]
  exact ⟨"I".toList, _, rfl, hword (by decide) _ _, " ".toList, _, rfl, hspace _ _,
    "must".toList, _, rfl, hword (by decide) _ _, " ".toList, _, rfl, hspace _ _,
    "decline".toList, _, rfl, hword (by decide) _ _, rfl⟩

theorem looksLikeRefusal_refusingReply : looksLikeRefusal u refusingReply = true := by
  have hquote : u.isWord '"' = false := isWord_ascii u (by decide)
  have hfirst : u.isWord 'I' = true := isWord_ascii u (by decide)
  have hlast : u.isWord 'e' = true := isWord_ascii u (by decide)
  have hmatches : Matches (bounded u (spacedWords ["i", "must", "decline"]))
      ("\x7b\"aligned\": false, \"note\": \"".toList.reverse ++ []) "I must decline".toList
      "\"\x7d".toList := by
    simp only [bounded, matches_seqs_cons, matches_seqs_nil, matches_wordBoundary]
    refine ⟨[], _, rfl, ⟨rfl, ?_⟩, "I must decline".toList, [], rfl, matches_mustDecline _ _,
      [], [], rfl, ⟨rfl, ?_⟩, rfl⟩
    · change u.isWord '"' ≠ u.isWord 'I'
      rw [hquote, hfirst]
      decide
    · change u.isWord 'e' ≠ u.isWord '"'
      rw [hquote, hlast]
      decide
  rw [looksLikeRefusal, matchesAny, List.any_eq_true]
  refine ⟨bounded u (spacedWords ["i", "must", "decline"]), by simp [refusalPatterns], ?_⟩
  exact occurs_iff.mpr ⟨"\x7b\"aligned\": false, \"note\": \"".toList, _, _, rfl, hmatches⟩

theorem ask_refusing (system user : Text) (session : Session Unit) :
    ask refusing system user session = (session, .ok refusingReply) := by
  have hstrip : strip refusingReply = refusingReply := by decide +kernel
  change (session, Except.ok (strip refusingReply)) = _
  rw [hstrip]

theorem judgeAlignment_refusing (content : Text) (session : Session Unit) :
    judgeAlignment refusing source content session = (session, .ok [notAligned]) := by
  have hproblems : (parseAlignmentResponse refusing.readFloat refusingReply).map
      (fun payload => payload.elim [] (judgedProblems refusing.isPrintable)) =
        .ok [notAligned] := by decide +kernel
  rw [judgeAlignment, bind_of_ok (ask_refusing _ _ session)]
  rcases hparsed : parseAlignmentResponse refusing.readFloat refusingReply with e | payload
  · rw [hparsed] at hproblems
    cases hproblems
  · rw [hparsed] at hproblems
    exact congrArg (Prod.mk session) hproblems

theorem exists_problems (u : PyData) (source : ResponseSource) (content : Text)
    (session : Session Unit) :
    ∃ problems ≠ [],
      collectProblems u refusing source content session = (session, .ok problems) := by
  simp only [collectProblems]
  split
  · exact ⟨_, List.append_ne_nil_of_right_ne_nil _ (List.cons_ne_nil _ _), rfl⟩
  · split
    · exact ⟨_, List.cons_ne_nil _ _, judgeAlignment_refusing content session⟩
    · rename_i hproblems
      exact ⟨_, hproblems, rfl⟩

theorem rewriteWithContext_refusing (content : Text) (problems : List Text)
    (session : Session Unit) :
    rewriteWithContext refusing source content problems session =
      (session, .ok refusingReply) := by
  rw [rewriteWithContext, bind_of_ok (ask_refusing _ _ session)]
  rfl

theorem guardPasses_refusing (n : Nat) (content : Text) (session : Session Unit) :
    guardPasses u refusing source (n + 1) content session = (session, .ok refusingReply) := by
  induction n generalizing content with
  | zero =>
      obtain ⟨problems, hne, hproblems⟩ := exists_problems u source content session
      rw [guardPasses, bind_of_ok hproblems, if_neg hne,
        bind_of_ok (rewriteWithContext_refusing content problems session)]
      rfl
  | succ n ih =>
      obtain ⟨problems, hne, hproblems⟩ := exists_problems u source content session
      rw [guardPasses, bind_of_ok hproblems, if_neg hne,
        bind_of_ok (rewriteWithContext_refusing content problems session)]
      exact ih refusingReply

theorem wipe_mem_of_asksInVain (h : AsksInVain source) :
    .wipe ∈ (composeAndGuard u refusing source ((), [])).1.2 := by
  obtain ⟨hkind, haction, hfacts⟩ := h
  have hcompose : compose u refusing source =
      if !isRequested source.facts then pure source.facts
      else wipePrompt u source.userMessage := by
    rw [compose, hkind]
    dsimp only
    rw [composeConfirmation, haction]
  cases hrequested : isRequested source.facts with
  | true =>
      -- the composer writes it, and the guard takes nothing back
      rw [hrequested] at hcompose
      have hstays (content : Text) : Preserves (fun session : Session Unit => .wipe ∈ session.2)
          (enforceUserFacingAnswer u refusing source content) :=
        preserves_enforce (P := fun prompted => .wipe ∈ prompted)
          (fun _ _ hmem => List.mem_append_left _ hmem) content
      have hwipe : wipePrompt u source.userMessage ((), []) =
          (((), [.wipe]), .ok (wipeConfirmationPrompt u source.userMessage)) := rfl
      rw [composeAndGuard, hcompose, Bool.not_true, if_neg Bool.false_ne_true, bind_of_ok hwipe]
      exact hstays _ _ (List.mem_singleton.mpr rfl)
  | false =>
      -- the guard replaces the facts by the refusal, and the refusal by the prompt
      rw [hrequested] at hcompose hfacts
      obtain ⟨hskip, hblank⟩ := hfacts.resolve_left Bool.false_ne_true
      have hchecked : ¬(strip source.facts = [] || source.skipEnrichment) = true := by
        rw [hskip, Bool.or_false, decide_eq_true_eq]
        exact hblank
      have hrefusal : (source.kind = .confirmation && looksLikeRefusal u refusingReply) = true := by
        rw [looksLikeRefusal_refusingReply, hkind]
        rfl
      have hpure : (pure source.facts : Step Unit Text) ((), []) =
          (((), []), .ok source.facts) := rfl
      have hguard : guardPasses u refusing source maxGuardPasses source.facts ((), []) =
          (((), []), .ok refusingReply) := guardPasses_refusing 1 source.facts ((), [])
      rw [composeAndGuard, hcompose, Bool.not_false, if_pos rfl, bind_of_ok hpure,
        enforceUserFacingAnswer, if_neg hchecked,
        bind_of_ok hguard, replaceRefusal, if_pos hrefusal, haction]
      exact List.mem_singleton.mpr rfl

end Refusing

/-- Exactly the confirmations of no action can be turned into a prompt for a wipe. -/
theorem noFalsePrompt_iff (u : PyData) (source : ResponseSource) :
    (∀ (ω : Type) (parts : Parts ω) (world : ω), NoFalsePrompt u parts source world) ↔
      ¬AsksInVain source := by
  constructor
  · intro hall hvain
    have haction := hall Unit refusing () .wipe (wipe_mem_of_asksInVain hvain)
    rw [hvain.action] at haction
    cases haction
  · exact fun h ω parts world => noFalsePrompt_of_not_asksInVain h parts world

/-- A rejected timer, and a model that refuses. -/
theorem not_noFalsePrompt_cancelled :
    ∃ source, (Timer.cancelPendingTimer ⟨"default", "cancel".toList⟩
        (.initial (.initial (.stopped 0)))).2 = .ok source ∧
      ¬NoFalsePrompt .ascii refusing source () := by
  refine ⟨_, rfl, fun hsafe => ?_⟩
  have haction := hsafe .wipe
    (wipe_mem_of_asksInVain ⟨rfl, rfl, .inr ⟨rfl, by decide +kernel⟩⟩)
  cases haction

end NanoCore.Assistant.FalsePrompts
