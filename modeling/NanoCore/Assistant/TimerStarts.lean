import NanoCore.Assistant.RoutingFailures
import NanoCore.Assistant.SilentCommands
import NanoCore.Timers.MassWords

namespace NanoCore.Assistant.TimerStarts

open NanoCore.Foundation.PythonText
open NanoCore.Foundation.Regex
open NanoCore.Foundation.RegexSearch
open NanoCore.Foundation.PythonRegex
open NanoCore.Foundation.WordSearch
open NanoCore.Assistant.AgentRouter
open NanoCore.Assistant.Pending
open NanoCore.Assistant.SilentCommands
open NanoCore.Common.Duration
open NanoCore.Memory.Models
open NanoCore.Timers.CommandShapes
open NanoCore.Timers.MassWords
open NanoCore.Timers.Parsing

variable {u : PyData} {message : Text}

structure StartWords (u : PyData) (lowered : Text) : Prop where
  stopwatch : hasStopwatchTrigger lowered = false
  cancel : hasTimerCancelKeyword u lowered = false
  timer : hasTimerTrigger lowered = true
  start : hasTimerStartKeyword u lowered = true

theorem startWords_of_isTimerStartRequest (h : isTimerStartRequest u message = true) :
    StartWords u (u.lower message) := by
  simp only [isTimerStartRequest] at h
  split at h
  · exact Bool.noConfusion h
  · rename_i hstopwatch
    split at h
    · exact Bool.noConfusion h
    · rename_i hcancel
      obtain ⟨htimer, hstart⟩ := Bool.and_eq_true_iff.mp h
      exact ⟨Bool.eq_false_iff.mpr hstopwatch, Bool.eq_false_iff.mpr hcancel, htimer, hstart⟩

/-- Respelling stopwatches brings in no keyword that cancels. -/
theorem hasTimerCancelKeyword_of_respelled {s : Text}
    (h : hasTimerCancelKeyword u (normalizeStopwatchSpelling u s) = true) :
    hasTimerCancelKeyword u s = true := by
  rw [hasTimerCancelKeyword, hasAnyWord_iff] at h ⊢
  obtain ⟨keyword, hkeyword, hocc⟩ := h
  have hplain : IsWordText u keyword.toList ∧ keyword.toList ≠ "stopwatches".toList ∧
      keyword.toList ≠ "stopwatch".toList := by
    simp only [timerCancelKeywords, List.mem_cons, List.not_mem_nil, or_false] at hkeyword
    rcases hkeyword with rfl | rfl | rfl | rfl | rfl | rfl | rfl <;>
      exact ⟨isWordText_of_ascii u (by decide) (forall_mem_of_all (by decide)), by decide,
        by decide⟩
  obtain ⟨hword, hplural, hsingular⟩ := hplain
  rcases occurs_wholeWord_substitute matchesWords_stopwatchTwoWordRe isWordText_respelling hword
    hocc with hocc | ⟨pre, w, post, found, -, -, -, hfound⟩
  · exact ⟨keyword, hkeyword, hocc⟩
  · split at hfound
    · exact absurd hfound.symm hplural
    · exact absurd hfound.symm hsingular

theorem isStopwatchStopRequest_of_startWords (h : StartWords u (u.lower message)) :
    isStopwatchStopRequest u message = false := by
  rw [isStopwatchStopRequest, Bool.and_eq_false_iff]
  refine .inr (Bool.eq_false_iff.mpr fun hcancel => ?_)
  have hplain := hasTimerCancelKeyword_of_respelled hcancel
  rw [h.cancel] at hplain
  exact Bool.noConfusion hplain

/-- The letters of which one is in every text that names a timer and none in a
command that stops a stopwatch. -/
def timerLetters : Text := ['m', 'd']

theorem exists_timerLetter {lowered : Text} (h : hasTimerTrigger lowered = true) :
    ∃ x ∈ timerLetters, x ∈ lowered := by
  rw [hasTimerTrigger, hasAnySubstring_iff] at h
  obtain ⟨trigger, htrigger, hfound⟩ := h
  simp only [timerRequestTriggers, List.mem_cons, List.not_mem_nil, or_false] at htrigger
  rcases htrigger with rfl | rfl
  · exact ⟨'m', by decide, hfound.subset (by decide)⟩
  · exact ⟨'d', by decide, hfound.subset (by decide)⟩

/-- A text that names a timer does so with one of these letters, in either case. -/
theorem exists_mem_of_timerLetter (h : hasTimerTrigger (u.lower message) = true) :
    ∃ c ∈ message, c ∈ ['m', 'd', 'M', 'D'] := by
  obtain ⟨x, hx, hmem⟩ := exists_timerLetter h
  have hascii : ∀ x ∈ timerLetters, x.toNat < 128 ∧ x ≠ 'i' ∧ x ≠ 'k' :=
    forall_mem_of_all (by decide)
  obtain ⟨hlt, hi, hk⟩ := hascii x hx
  obtain ⟨c, hc, ⟨hclt, hlower⟩ | ⟨-, heq⟩ | ⟨-, heq⟩⟩ := mem_lower_ascii hlt hmem
  · refine ⟨c, hc, ?_⟩
    rw [← hlower] at hx
    exact ascii_forall (P := fun c => c.toLower ∈ timerLetters → c ∈ ['m', 'd', 'M', 'D'])
      (by decide) c hclt hx
  · exact absurd heq hi
  · exact absurd heq hk

theorem letters_of_stopwatchTwoWordRe {before w after : Text}
    (h : Matches (stopwatchTwoWordRe u) before w after) :
    ∀ c ∈ w, (∃ x ∈ "stopwatches".toList, foldsTo x c = true) ∨ isSpace c = true := by
  simp only [stopwatchTwoWordRe, matches_seqs_cons, matches_seqs_nil, matches_wordBoundary,
    matches_litCI, matches_spaces] at h
  obtain ⟨_, _, rfl, ⟨rfl, -⟩, stop, _, rfl, hstop, sp, _, rfl, ⟨-, hsp⟩, watch, _, rfl, hwatch,
    es, _, rfl, hes, _, _, rfl, ⟨rfl, -⟩, rfl⟩ := h
  have hletters {word : String} {s : Text} (hword : word.toList ⊆ "stopwatches".toList)
      (hs : List.Forall₂ (fun x c => foldsTo x c = true) word.toList s) :
      ∀ c ∈ s, ∃ x ∈ "stopwatches".toList, foldsTo x c = true := by
    intro c hc
    obtain ⟨x, hx, hfold⟩ := exists_letter hs hc
    exact ⟨x, hword hx, hfold⟩
  intro c hc
  simp only [List.nil_append, List.append_nil, List.mem_append] at hc
  rcases hc with hc | hc | hc | hc
  · exact .inl (hletters (by decide) hstop c hc)
  · exact .inr (hsp c hc)
  · exact .inl (hletters (by decide) hwatch c hc)
  · rcases hes with hes | rfl
    · exact .inl (hletters (by decide) (matches_litCI.mp hes) c hc)
    · exact absurd hc List.not_mem_nil

theorem parseStopwatchStopArgs_of_startWords (h : StartWords u (u.lower message)) :
    parseStopwatchStopArgs u message = .ok none := by
  obtain ⟨c, hc, hletter⟩ := exists_mem_of_timerLetter h.timer
  have hforeign : ∀ c ∈ ['m', 'd', 'M', 'D'],
      ("stopwatches".toList.all fun x => !foldsTo x c) = true ∧ isSpace c = false ∧
        (c.toNat < 128 ∧ c.isDigit = false) ∧ straightQuote c = c ∧ c ≠ '.' ∧ c ≠ '!' :=
    forall_mem_of_all (by decide)
  obtain ⟨hfolds, hspace, ⟨hlt, hdigit⟩, hquote, hstop, hbang⟩ := hforeign c hletter
  have hdecimal : u.isDecimal c = false := by
    rw [PyData.isDecimal, u.decimal_ascii c hlt, hdigit]
    rfl
  have hnot : ¬ ((∃ x ∈ "stopwatches".toList, foldsTo x c = true) ∨ isSpace c = true) := by
    rintro (⟨x, hx, hfold⟩ | hmem)
    · have hnone := List.all_eq_true.mp hfolds x hx
      rw [hfold] at hnone
      exact Bool.noConfusion hnone
    · exact Bool.noConfusion (hmem.symm.trans hspace)
  have hfiller : ¬ IsFiller c := by
    rintro (hmem | hmem | hmem)
    · exact Bool.noConfusion (hmem.symm.trans hspace)
    · exact hstop hmem
    · exact hbang hmem
  by_contra hparse
  have hkept : c ∈ normalizeStopwatchSpelling u (normalizeRenameCommandMessage message) :=
    mem_substitute (fun _ _ _ hm hmem => hnot (letters_of_stopwatchTwoWordRe hm c hmem))
      (mem_normalizeRenameCommandMessage hfiller hquote hc)
  rcases letters_of_commandById (matchPrefix_of_parseCommandArgs hparse) c hkept with
    ⟨x, hx, hfold⟩ | hmem | hmem
  · have hsubset : "stop".toList ++ "stopwatch".toList ⊆ "stopwatches".toList := by decide
    exact hnot (.inl ⟨x, hsubset hx, hfold⟩)
  · exact hnot (.inr hmem)
  · exact Bool.noConfusion (hmem.symm.trans hdecimal)

/-- A cancel command has its verb as a word of its own. -/
theorem hasTimerCancelKeyword_of_cancel (h : parseTimerCancelArgs u message ≠ .ok none) :
    hasTimerCancelKeyword u (u.lower message) = true := by
  rw [hasTimerCancelKeyword, hasAnyWord_iff]
  refine ⟨"cancel", by decide, occurs_lower_of_normalized
    (respects_wholeWord (forall_mem_of_all (by decide))) ?_⟩
  rw [occurs_wholeWord_iff u (isWordText_of_ascii u (by decide) (forall_mem_of_all (by decide)))]
  obtain ⟨w, after, htext, hm⟩ := matchPrefix_isSome_iff.mp (matchPrefix_of_parseCommandArgs h)
  simp only [cancelTimerByIdRe, commandByIdRe, matches_seqs_cons, matches_atStart, matches_litCI,
    matches_spaces] at hm
  obtain ⟨_, _, rfl, ⟨rfl, -⟩, verb, _, rfl, hverb, sp, rest, rfl, ⟨hne, hsp⟩, -⟩ := hm
  obtain ⟨hmap, hascii⟩ := map_toLower_of_spells hverb
    (forall_mem_of_all (by decide))
  obtain ⟨c, sp, rfl⟩ := List.exists_cons_of_ne_nil hne
  have hc : isSpace c = true := hsp c List.mem_cons_self
  refine ⟨[], u.lowerIn verb.reverse (c :: (sp ++ rest) ++ after) [], ?_, rfl, ?_⟩
  · have hlower : u.lowerIn [] verb (c :: (sp ++ rest) ++ after ++ []) = "cancel".toList := by
      rw [lowerIn_eq_map u ?_, hmap]
      intro d hd
      refine ⟨u.lowerOf_ascii d (hascii d hd), ?_⟩
      rintro rfl
      exact absurd (hascii _ hd) (by decide)
    rw [htext, PyData.lower]
    simp only [List.nil_append, List.append_assoc, List.cons_append]
    rw [lowerIn_append]
    simp only [List.append_nil, List.append_assoc, List.cons_append] at hlower ⊢
    rw [hlower]
  · rw [List.cons_append, PyData.lowerIn, lowerChar_eq u (ne_sigma_of_isSpace hc),
      u.lowerOf_space c hc]
    exact not_isWord_of_isSpace u hc

theorem parseTimerCancelArgs_of_startWords (h : StartWords u (u.lower message)) :
    parseTimerCancelArgs u message = .ok none := by
  by_contra hparse
  exact Bool.noConfusion ((hasTimerCancelKeyword_of_cancel hparse).symm.trans h.cancel)

theorem isClearAllTimersRequest_of_startWords (h : StartWords u (u.lower message)) :
    isClearAllTimersRequest u message = false := by
  simp only [isClearAllTimersRequest, h.cancel, Bool.not_false, if_true]

theorem isTimerCancelRequest_of_startWords (h : StartWords u (u.lower message)) :
    isTimerCancelRequest u message = false := by
  simp only [isTimerCancelRequest, h.cancel, Bool.and_false, ite_self]

theorem noTimerRequest_of_startWords (h : StartWords u (u.lower message))
    (hstatus : isTimerStatusRequest u message = false)
    (hstopwatch : parseStopwatchRenameArgs u message = .ok none)
    (htimer : parseTimerRenameArgs u message = .ok none) : NoTimerRequest u message where
  status := hstatus
  clearAll := isClearAllTimersRequest_of_startWords h
  renameStopwatch := hstopwatch
  renameTimer := htimer
  stopById := parseStopwatchStopArgs_of_startWords h
  stop := isStopwatchStopRequest_of_startWords h
  cancelById := parseTimerCancelArgs_of_startWords h
  cancel := isTimerCancelRequest_of_startWords h

theorem freshRoute_of_startWords (hlower : u.lower (u.lower message) = u.lower message)
    (hstart : isTimerStartRequest u message = true) {n : Nat}
    (hduration : extractDurationSeconds u message = .ok (some n)) :
    freshRoute u message = .ok (.interaction .timer) := by
  have hwords := startWords_of_isTimerStartRequest hstart
  have hstopwatch : isStopwatchStartRequest u message = false := by
    simp only [isStopwatchStartRequest, hwords.cancel, hwords.stopwatch, Bool.false_and,
      Bool.false_eq_true, if_false]
  have hneeds : needsTimerDuration u message = .ok false := by
    simp only [needsTimerDuration, hwords.cancel, hwords.timer, hwords.start, Bool.not_true,
      Bool.false_eq_true, if_false, extractDurationSeconds_lower hlower, hduration]
    rfl
  unfold freshRoute
  rw [hstopwatch, hneeds, hstart]
  rfl

/-- The message is routed to the timer interaction where nothing is pending. -/
def StartsTimer (u : PyData) (message : Text) : Prop :=
  ∀ (conversationId : String) (db : Database) (pending : PendingStore),
    PendingStore.get pending conversationId = none →
      (decide u message conversationId db pending).1 = .ok (.interaction .timer)

/-- A start request with a duration starts a timer exactly when it has no word of
a question about the timers and is no command that renames. -/
theorem startsTimer_iff (hlower : u.lower (u.lower message) = u.lower message)
    (hstart : isTimerStartRequest u message = true) {n : Nat}
    (hduration : extractDurationSeconds u message = .ok (some n)) :
    StartsTimer u message ↔ isTimerStatusRequest u message = false ∧
      parseStopwatchRenameArgs u message = .ok none ∧
      parseTimerRenameArgs u message = .ok none := by
  constructor
  · intro hroutes
    have hroute := hroutes "default" .empty .empty rfl
    obtain ⟨hpassed, -, -⟩ := of_decide hroute (fun _ _ => nofun) fun _ => nofun
    exact ⟨hpassed.status, hpassed.renameStopwatch, hpassed.renameTimer⟩
  · rintro ⟨hstatus, hstopwatch, htimer⟩ conversationId db pending hpending
    have hwords := startWords_of_isTimerStartRequest hstart
    have hroute := timerRoute_of_noTimerRequest
      (noTimerRequest_of_startWords hwords hstatus hstopwatch htimer) db
    rw [decide_of_fresh hroute hpending]
    exact freshRoute_of_startWords hlower hstart hduration

theorem startsTimer_eggs : StartsTimer .ascii "Set a 5 minute timer for the eggs".toList :=
  (startsTimer_iff (n := 300) (by decide +kernel) (by decide +kernel) (by decide +kernel)).mpr
    (by decide +kernel)

/-- The reason for a timer may be to check something. -/
theorem not_startsTimer_check_the_oven :
    ¬ ∀ (u : PyData) (message : Text) (n : Nat), isTimerStartRequest u message = true →
      extractDurationSeconds u message = .ok (some n) → 0 < n → StartsTimer u message := by
  intro h
  have hroutes := h .ascii "start a 5 minute timer to check the oven".toList 300
    (by decide +kernel) (by decide +kernel) (by decide)
  have hroute := hroutes "default" .empty .empty rfl
  revert hroute
  decide +kernel

end NanoCore.Assistant.TimerStarts
