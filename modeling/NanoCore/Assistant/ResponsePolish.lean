import NanoCore.Assistant.Guard.Rewriter
import NanoCore.Foundation.ExceptionLoops

namespace NanoCore.Assistant.ResponsePolish

open NanoCore.Foundation.Effects
open NanoCore.Foundation.Effects.Effect
open NanoCore.Foundation.ExceptionLoops
open NanoCore.Foundation.Exceptions
open NanoCore.Foundation.JsonRepr
open NanoCore.Foundation.JsonText
open NanoCore.Foundation.PythonText
open NanoCore.Assistant.Guard.Detectors
open NanoCore.Assistant.Guard.Rewriter
open NanoCore.Assistant.Prompts
  (fragment sectionOf personality firstPerson responseComposerPrompt alignmentCheckSystemPrompt
    guardRewriteSystemPrompt)
open NanoCore.Assistant.ResponseComposer
open NanoCore.Assistant.Rules.Messages
open NanoCore.Assistant.Sources

def polish : Text :=
  fragment [
    "You are polishing your final reply before it is shown to the user.",
    "Remove repetition, merge redundant list items, and tighten wording.",
    "Group related capabilities or details instead of naming the same kind of thing twice.",
    "Preserve all facts, capabilities, numbers, confirmations, and your clinical dry voice.",
    "Do not add new facts or capabilities.",
    "Do not remove required yes/no confirmation instructions.",
    "Return only the polished reply text."]

def polishSystemPrompt : Text := sectionOf [personality, firstPerson, polish]

/-- `_POLISH_EXEMPT_TOOLS`. -/
def polishExemptTools : List String := ["analyze_system", "check_health"]

/-- The longest runs of code points with a property. -/
def runsOf (p : Char → Bool) (s : Text) : List Text :=
  (s.splitOnP fun c => !p c).filter fun run => !run.isEmpty

/-- `[a-z']+`. -/
def isLetterOrQuote (c : Char) : Bool := ('a'.toNat ≤ c.toNat && c.toNat ≤ 'z'.toNat) || c == '\''

def hasRepeat : List Text → Bool
  | [] => false
  | word :: rest => rest.contains word || hasRepeat rest

section Polish

variable {ω : Type} (u : PyData) (parts : Parts ω)

/-- The lower case that a back reference compares under `re.IGNORECASE`. -/
def foldWord (word : Text) : Text := word.map fun c => (u.lowerOf c).headD c

/-- `\b(\w+)\b(?:.*\b\1\b){1,}`: a whole word comes again on its line. -/
def repeatsWord (content : Text) : Bool :=
  (content.splitOn '\n').any fun line => hasRepeat ((runsOf u.isWord line).map (foldWord u))

def looksRepetitive (content : Text) : Bool :=
  let words := runsOf isLetterOrQuote (u.lower content)
  if words.length < 25 then false
  else
    let significant := words.filter fun word => 4 < word.length
    significant.any (fun word => 3 ≤ (significant.filter fun other => other == word).length) ||
      5 ≤ content.count ',' || repeatsWord u content

def shouldPolish (source : ResponseSource) (content : Text) : Bool :=
  if strip content = [] then false
  else if source.skipEnrichment then false
  else if source.kind = .followUp || source.kind = .confirmation then false
  else if source.toolName.any polishExemptTools.contains then false
  else if source.kind = .answer then true
  else looksRepetitive u content

def polishUserFacingAnswer (source : ResponseSource) (content : Text) : Step ω Text :=
  if !shouldPolish u source content then pure content
  else do
    let polished ← ask parts polishSystemPrompt ("User question: ".toList ++ source.userMessage ++
      "\n\nDraft reply:\n".toList ++ content)
    return if polished = [] then content else polished

/-- The text of `finalize_response`. -/
def finalText (source : ResponseSource) : Step ω Text := do
  polishUserFacingAnswer u parts source (← composeAndGuard u parts source)

end Polish

section Ink

variable {ω : Type} {u : PyData} {parts : Parts ω} {source : ResponseSource} {content : Text}

/-- What a model gives, where anything is left of it without its white space. -/
theorem yields_ask (system user : Text) :
    Yields (fun answer => answer ≠ [] → HasInk answer) (ask parts system user) := by
  refine Yields.of_next fun raw => yields_pure fun hne => ?_
  exact (hasInk_iff.mpr hne).strip

theorem hasInk_of_literal {s : String} (h : s.toList.any (fun c => !isSpace c) = true) :
    HasInk s.toList := by
  obtain ⟨c, hc, hspace⟩ := List.any_eq_true.mp h
  exact ⟨c, hc, (Bool.not_eq_true' _).mp hspace⟩

theorem hasInk_promptFor (subject : Text) : HasInk (promptFor u subject) := by
  refine HasInk.append_left ?_ _
  rw [confirmationLead]
  split
  · exact hasInk_of_literal (by decide +kernel)
  · split
    · simp only [List.append_assoc]
      exact (hasInk_of_literal (by decide +kernel)).append_left _
    · split
      · simp only [List.append_assoc]
        exact (hasInk_of_literal (by decide +kernel)).append_left _
      · simp only [List.append_assoc]
        exact (hasInk_of_literal (by decide +kernel)).append_left _

theorem hasInk_systemConfirmationPrompt (action : ConfirmationAction) (message : Text) :
    HasInk (systemConfirmationPrompt u action message) := by
  cases action with
  | wipe => exact hasInk_promptFor _
  | reboot => exact hasInk_promptFor _
  | serviceRestart => exact hasInk_promptFor _

theorem yields_systemPrompt (action : ConfirmationAction) (message : Text) :
    Yields HasInk (systemPrompt u action message : Step ω Text) :=
  Yields.of_next fun _ => yields_pure (hasInk_systemConfirmationPrompt action message)

theorem yields_wipePrompt (message : Text) :
    Yields HasInk (wipePrompt u message : Step ω Text) :=
  Yields.of_next fun _ => yields_pure (hasInk_promptFor _)

theorem hasInk_failingLine {check : Json} {line : Text}
    (h : failingLine parts check = .ok line) : HasInk line := by
  obtain ⟨name, -, h⟩ := bind_eq_ok_iff.mp h
  obtain ⟨detail, -, h⟩ := bind_eq_ok_iff.mp h
  dsimp only at h
  split at h
  · cases h
    simp only [List.append_assoc]
    exact (hasInk_of_literal (by decide +kernel)).append_left _
  · cases h
    simp only [List.append_assoc]
    exact (hasInk_of_literal (by decide +kernel)).append_left _

theorem hasInk_joinWords {words : List Text} (hne : words ≠ [])
    (h : ∀ word ∈ words, HasInk word) : HasInk (joinWords words) := by
  obtain ⟨word, rest, rfl⟩ := List.exists_cons_of_ne_nil hne
  obtain ⟨c, hc, hspace⟩ := h word List.mem_cons_self
  exact ⟨c, mem_joinWords List.mem_cons_self hc, hspace⟩

theorem hasInk_composeHealthResult {facts reply : Text}
    (h : composeHealthResult u parts facts = .ok reply) : HasInk reply := by
  rw [composeHealthResult] at h
  split at h
  · cases h
    exact hasInk_of_literal (by decide +kernel)
  · cases h
  · obtain ⟨checks, -, h⟩ := bind_eq_ok_iff.mp h
    split at h
    · cases h
      exact hasInk_of_literal (by decide +kernel)
    · obtain ⟨listed, -, h⟩ := bind_eq_ok_iff.mp h
      obtain ⟨failingChecks, -, h⟩ := bind_eq_ok_iff.mp h
      split at h
      · cases h
        exact hasInk_of_literal (by decide +kernel)
      · rename_i hsome
        obtain ⟨lines, hlines, h⟩ := bind_eq_ok_iff.mp h
        cases h
        refine hasInk_joinWords ?_ fun line hline => ?_
        · rintro rfl
          exact hsome (List.isEmpty_iff.mpr (eq_nil_of_mapM_eq_nil hlines))
        · obtain ⟨check, -, hcheck⟩ := exists_of_mem_mapM hlines hline
          exact hasInk_failingLine hcheck

theorem yields_orElse {system user : Text} {fallback : Step ω Text} (h : Yields HasInk fallback) :
    Yields HasInk (do
      let answer ← ask parts system user
      if answer = [] then fallback else return answer : Step ω Text) := by
  refine (yields_ask system user).bind fun answer hanswer => ?_
  split
  · exact h
  · rename_i hne
    exact yields_pure (hanswer hne)

/-- `client.complete(..).strip() or default`. -/
theorem yields_askOr {system user default : Text} (h : HasInk default) :
    Yields HasInk (do
      let answer ← ask parts system user
      return if answer = [] then default else answer : Step ω Text) := by
  refine (yields_ask system user).bind fun answer hanswer => yields_pure ?_
  split
  · exact h
  · rename_i hne
    exact hanswer hne

theorem hasInk_toolErrorFallback {reply : Text}
    (h : toolErrorFallback parts source = .ok reply) : HasInk reply := by
  have hunnamed (name : Text) : HasInk ("I could not complete ".toList ++ name ++ ".".toList) := by
    rw [List.append_assoc]
    exact (hasInk_of_literal (by decide +kernel)).append_left _
  rw [toolErrorFallback] at h
  split at h
  · cases h
    exact hunnamed _
  · cases h
  · obtain ⟨error, -, h⟩ := bind_eq_ok_iff.mp h
    dsimp only at h
    split at h
    · cases h
      exact hunnamed _
    · rename_i hne
      cases h
      exact (hasInk_iff.mpr hne).strip

theorem hasInk_summaryMissing : HasInk summaryMissing := hasInk_of_literal (by decide +kernel)

theorem yields_composeWithLlm : Yields HasInk (composeWithLlm parts source) := by
  refine yields_orElse ?_
  split
  · exact yields_ofExcept fun reply hreply => hasInk_toolErrorFallback hreply
  · exact yields_pure hasInk_summaryMissing

theorem yields_composePayload (h : HasInk source.facts) :
    Yields HasInk (composePayload parts source) := by
  refine Yields.of_next fun isJson => ?_
  split
  · exact yields_pure h
  · exact yields_composeWithLlm

theorem yields_composeConfirmation (h : HasInk source.facts) :
    Yields HasInk (composeConfirmation u source : Step ω Text) := by
  rw [composeConfirmation]
  split
  · exact yields_systemPrompt _ _
  · split
    · exact yields_pure h
    · exact yields_wipePrompt _

theorem yields_compose (h : HasInk source.facts) : Yields HasInk (compose u parts source) := by
  rw [compose]
  split
  · exact yields_composeConfirmation h
  · exact yields_pure h
  · exact yields_pure h
  · split
    · exact yields_ofExcept fun reply hreply => hasInk_composeHealthResult hreply
    · split
      · exact yields_askOr hasInk_summaryMissing
      · exact yields_composePayload h
  · exact yields_composePayload h

theorem yields_guardPasses (n : Nat) (h : HasInk content) :
    Yields HasInk (guardPasses u parts source n content) := by
  induction n generalizing content with
  | zero => exact yields_pure h
  | succ n ih =>
      refine Yields.of_next fun problems => ?_
      split
      · exact yields_pure h
      · exact (yields_askOr h).bind fun revised hrevised => ih hrevised

theorem yields_replaceRefusal (h : HasInk content) :
    Yields HasInk (replaceRefusal u source content : Step ω Text) := by
  rw [replaceRefusal]
  split
  · split
    · exact yields_systemPrompt _ _
    · exact yields_wipePrompt _
  · exact yields_pure h

theorem yields_enforceUserFacingAnswer (h : HasInk content) :
    Yields HasInk (enforceUserFacingAnswer u parts source content) := by
  rw [enforceUserFacingAnswer]
  split
  · exact yields_pure h
  · exact (yields_guardPasses maxGuardPasses h).bind fun _ hguarded =>
      yields_replaceRefusal hguarded

theorem yields_polishUserFacingAnswer (h : HasInk content) :
    Yields HasInk (polishUserFacingAnswer u parts source content) := by
  rw [polishUserFacingAnswer]
  split
  · exact yields_pure h
  · exact yields_askOr h

/-- Whatever the model says, and however often it says nothing, a reply about facts that
are not blank is not blank. -/
theorem finalText_hasInk (u : PyData) (parts : Parts ω) (h : HasInk source.facts) :
    Yields HasInk (finalText u parts source) := by
  have hguarded : Yields HasInk (composeAndGuard u parts source) :=
    (yields_compose h).bind fun _ hcomposed => yields_enforceUserFacingAnswer hcomposed
  exact hguarded.bind fun _ hcontent => yields_polishUserFacingAnswer hcontent

end Ink

/-- A model that says nothing. -/
def mute : Parts Unit where
  complete := fun _ world => (world, .ok [])
  readFloat := fun _ => .zero
  isPrintable := fun _ => true

def brokenForecast : ResponseSource where
  kind := .toolError
  userMessage := "What is the weather?".toList
  facts := "\x7b\"ok\": false, \"error\": \"No place is set.\"\x7d".toList
  toolName := some "get_current_weather"

theorem finalText_hasInk_brokenForecast : Yields HasInk (finalText .ascii mute brokenForecast) :=
  finalText_hasInk .ascii mute ⟨'o', by decide +kernel, by decide⟩

section Unchanged

variable {ω : Type} {u : PyData} {parts : Parts ω} {source : ResponseSource} {content : Text}

theorem gives_guardPasses_of_aligned (h : Gives [] (collectProblems u parts source content))
    (n : Nat) : Gives content (guardPasses u parts source n content) := by
  cases n with
  | zero => exact gives_pure content
  | succ n => exact h.bind (gives_pure content)

theorem gives_enforceUserFacingAnswer (hkind : source.kind ≠ .confirmation)
    (hguarded : Gives content (guardPasses u parts source maxGuardPasses content)) :
    Gives content (enforceUserFacingAnswer u parts source content) := by
  rw [enforceUserFacingAnswer]
  split
  · exact gives_pure content
  · refine hguarded.bind ?_
    rw [replaceRefusal, decide_eq_false hkind]
    exact gives_pure content

theorem gives_polishUserFacingAnswer_of_exempt
    (h : source.toolName.any polishExemptTools.contains = true) :
    Gives content (polishUserFacingAnswer u parts source content) := by
  have hnone : shouldPolish u source content = false := by
    rw [shouldPolish, h]
    split
    · rfl
    · split
      · rfl
      · split <;> rfl
  rw [polishUserFacingAnswer, hnone]
  exact gives_pure content

/-- The reply of a tool that is exempt from polishing stays as it was composed unless the
guard finds a problem in it. -/
theorem gives_finalText_of_aligned (hkind : source.kind ≠ .confirmation)
    (hexempt : source.toolName.any polishExemptTools.contains = true)
    (hcomposed : Gives content (compose u parts source))
    (haligned : Gives [] (collectProblems u parts source content)) :
    Gives content (finalText u parts source) :=
  (hcomposed.bind (gives_enforceUserFacingAnswer hkind
    (gives_guardPasses_of_aligned haligned _))).bind
      (gives_polishUserFacingAnswer_of_exempt hexempt)

end Unchanged

/-- The parts, with a count of the completions of the model. -/
def counted {ω : Type} (parts : Parts ω) : Parts (ω × Nat) where
  complete := fun messages world =>
    let (after, answer) := parts.complete messages world.1
    ((after, world.2 + 1), answer)
  readFloat := parts.readFloat
  isPrintable := parts.isPrintable

def completions {ω : Type} (session : Session (ω × Nat)) : Nat := session.1.2

section Cost

variable {ω : Type} {u : PyData} {parts : Parts ω} {source : ResponseSource} {content : Text}

end Cost

end NanoCore.Assistant.ResponsePolish
