import NanoCore.Assistant.Rules.Messages
import NanoCore.Timers.CommandShapes

namespace NanoCore.Assistant.Rules.Replies

open NanoCore.Foundation.PythonRegex
open NanoCore.Foundation.PythonText
open NanoCore.Foundation.RegexSearch
open NanoCore.Assistant.Rules.Messages
open NanoCore.Timers.CommandShapes
open NanoCore.Timers.Parsing

variable {u : PyData} {message : Text}

def HasLetter (x : Char) (s : Text) : Prop := ∃ c ∈ s, foldsTo x c = true

theorem HasLetter.mono {x : Char} {s t : Text} (h : HasLetter x s) (hst : s ⊆ t) :
    HasLetter x t := by
  obtain ⟨c, hc, hfold⟩ := h
  exact ⟨c, hst hc, hfold⟩

theorem hasLetter_of_forall₂ {word s : Text}
    (h : List.Forall₂ (fun x c => foldsTo x c = true) word s) {x : Char} (hx : x ∈ word) :
    HasLetter x s := by
  induction h with
  | nil => exact absurd hx List.not_mem_nil
  | cons hfold _ ih =>
      rw [List.mem_cons] at hx
      rcases hx with rfl | hx
      · exact ⟨_, List.mem_cons_self, hfold⟩
      · exact (ih hx).mono (List.subset_cons_self _ _)

theorem hasLetter_of_spells {word : String} {s : Text} (h : Spells word s) {x : Char}
    (hx : x ∈ word.toList) : HasLetter x s :=
  hasLetter_of_forall₂ h hx

theorem headWord_subset (s : Text) : headWord s ⊆ s := (List.takeWhile_prefix _).subset

theorem headWord_skipWord_subset (s : Text) : headWord (skipWord s) ⊆ s := by
  have hskip : skipWord s <:+ s := (List.dropWhile_suffix _).trans (List.dropWhile_suffix _)
  exact List.Subset.trans (headWord_subset _) hskip.subset

/-- The letters by which the commands differ from every rejection. -/
def tellingLetters : Text := ['a', 'm', 'w']

theorem hasLetter_of_normalize {x : Char} (hx : x ∈ tellingLetters)
    (h : HasLetter x (normalizeRenameCommandMessage message)) : HasLetter x message := by
  obtain ⟨c, hc, hfold⟩ := h
  obtain ⟨pre, body, post, rfl, hbody, -, -⟩ := exists_normalizeRenameCommandMessage message
  rw [← hbody, List.mem_map] at hc
  obtain ⟨d, hd, rfl⟩ := hc
  rcases straightQuote_eq_self_or d with heq | ⟨-, hquote⟩
  · rw [heq] at hfold
    exact ⟨d, by simp [hd], hfold⟩
  · exfalso
    revert hfold
    simp only [List.mem_cons, List.not_mem_nil, or_false] at hquote
    simp only [tellingLetters, List.mem_cons, List.not_mem_nil, or_false] at hx
    rcases hquote with hq | hq <;> rw [hq] <;> rcases hx with rfl | rfl | rfl <;> decide

theorem hasLetter_of_rename {noun idGroup : String} (hnoun : Solid noun)
    (h : parseRenameArgs u (renameByIdQuotedRe u noun idGroup)
      (renameByIdUnquotedRe u noun idGroup) (renameByLabelRe noun) idGroup message ≠ .ok none) :
    HasLetter 'a' message ∧ HasLetter 'm' message := by
  have hverb := (renameWords_of_parse hnoun h).1
  exact ⟨hasLetter_of_normalize (by decide)
      ((hasLetter_of_spells hverb (by decide)).mono (headWord_subset _)),
    hasLetter_of_normalize (by decide)
      ((hasLetter_of_spells hverb (by decide)).mono (headWord_subset _))⟩

theorem hasLetter_of_cancel (h : parseTimerCancelArgs u message ≠ .ok none) :
    HasLetter 'a' message ∧ HasLetter 'm' message := by
  obtain ⟨hverb, hnoun, -⟩ := leadingWords_of_matchPrefix (by decide) (by decide)
    (matchPrefix_of_parseCommandArgs h)
  exact ⟨hasLetter_of_normalize (by decide)
      ((hasLetter_of_spells hverb (by decide)).mono (headWord_subset _)),
    hasLetter_of_normalize (by decide)
      ((hasLetter_of_spells hnoun (by decide)).mono (headWord_skipWord_subset _))⟩

theorem hasLetter_of_stop (h : parseStopwatchStopArgs u message ≠ .ok none) :
    HasLetter 'w' message := by
  by_contra hno
  have hnone : ∀ c ∈ normalizeRenameCommandMessage message, ¬ IsW c := by
    intro c hc hw
    refine hno (hasLetter_of_normalize (by decide) ⟨c, hc, ?_⟩)
    rcases hw with rfl | rfl <;> decide
  have hmatch := matchPrefix_of_parseCommandArgs h
  rw [normalizeStopwatchSpelling_of_not_isW hnone] at hmatch
  obtain ⟨-, hnoun, -⟩ := leadingWords_of_matchPrefix (by decide) (by decide) hmatch
  obtain ⟨c, hc, hfold⟩ := (hasLetter_of_spells hnoun (x := 'w') (by decide)).mono
    (headWord_skipWord_subset _)
  exact hno (hasLetter_of_normalize (by decide) ⟨c, hc, hfold⟩)

theorem mem_lower_of_hasLetter {x : Char} (hx : x ∈ tellingLetters) (h : HasLetter x message) :
    x ∈ u.lower (strip message) := by
  obtain ⟨c, hc, hfold⟩ := h
  have hletters : ∀ x ∈ tellingLetters, x.toNat < 128 ∧ isSpace x = false ∧
      x ≠ 'i' ∧ x ≠ 's' ∧ x ≠ 'k' :=
    forall_mem_of_all (by decide)
  obtain ⟨hascii, hspace, hi, hs, hk⟩ := hletters x hx
  have hlower : c.toLower = x := by
    rcases foldsTo_cases hfold with h | ⟨h, -⟩ | ⟨h, -⟩ | ⟨h, -⟩
    · exact h
    · exact absurd h hi
    · exact absurd h hs
    · exact absurd h hk
  have hc' : c.toNat < 128 := by
    by_contra hge
    rw [toLower_eq_self hge] at hlower
    exact hge (hlower ▸ hascii)
  apply mem_lower u (mem_strip hc ?_)
  · rintro rfl
    exact absurd hc' (by decide)
  · rw [u.lowerOf_ascii c hc', hlower]
    exact List.mem_singleton_self x
  · rw [← isSpace_toLower, hlower, hspace]

theorem mem_bareReply {x : Char} (hx : x ∈ tellingLetters) (h : HasLetter x message) :
    x ∈ bareReply u message := by
  have hletters : ∀ x ∈ tellingLetters, x ∉ [' ', '.', '!', '?'] ∧ isSpace x = false :=
    forall_mem_of_all (by decide)
  exact mem_collapseSpaces (mem_stripChars (mem_lower_of_hasLetter hx h) (hletters x hx).1)
    (hletters x hx).2

theorem exists_reply_of_isRejectionMessage (h : isRejectionMessage u message = true) :
    ∃ reply ∈ rejectionReplies, bareReply u message = reply.toList := by
  rw [isRejectionMessage, List.any_eq_true] at h
  obtain ⟨reply, hreply, heq⟩ := h
  exact ⟨reply, hreply, of_decide_eq_true heq⟩

theorem not_hasLetter_w (h : isRejectionMessage u message = true) : ¬ HasLetter 'w' message := by
  intro hw
  obtain ⟨reply, hreply, heq⟩ := exists_reply_of_isRejectionMessage h
  have hmem := heq ▸ mem_bareReply (u := u) (by decide) hw
  clear heq
  revert hmem
  revert reply
  decide

theorem not_hasLetter_a_m (h : isRejectionMessage u message = true) :
    ¬ (HasLetter 'a' message ∧ HasLetter 'm' message) := by
  rintro ⟨ha, hm⟩
  obtain ⟨reply, hreply, heq⟩ := exists_reply_of_isRejectionMessage h
  have hmem := heq ▸ mem_bareReply (u := u) (by decide) ha
  have hmem' := heq ▸ mem_bareReply (u := u) (by decide) hm
  clear heq
  revert hmem hmem'
  revert reply
  decide

/-- No parser takes a rejection, so none raises on it. -/
theorem parsers_of_isRejectionMessage (h : isRejectionMessage u message = true) :
    parseStopwatchRenameArgs u message = .ok none ∧ parseTimerRenameArgs u message = .ok none ∧
      parseStopwatchStopArgs u message = .ok none ∧ parseTimerCancelArgs u message = .ok none := by
  refine ⟨?_, ?_, ?_, ?_⟩ <;> by_contra hparse
  · exact not_hasLetter_a_m h (hasLetter_of_rename (by decide) hparse)
  · exact not_hasLetter_a_m h (hasLetter_of_rename (by decide) hparse)
  · exact not_hasLetter_w h (hasLetter_of_stop hparse)
  · exact not_hasLetter_a_m h (hasLetter_of_cancel hparse)

theorem isSilentUiCommand_of_parsers
    (h : parseStopwatchRenameArgs u message = .ok none ∧ parseTimerRenameArgs u message = .ok none ∧
      parseStopwatchStopArgs u message = .ok none ∧ parseTimerCancelArgs u message = .ok none) :
    isSilentUiCommand u message = .ok false := by
  obtain ⟨hstopwatch, htimer, hstop, hcancel⟩ := h
  unfold isSilentUiCommand isSilentRenameCommand isTimerRenameRequest isStopwatchRenameRequest
    isSilentTimerCancelCommand isSilentStopwatchStopCommand
  rw [hstopwatch, htimer, hstop, hcancel]
  rfl

theorem isSilentUiCommand_of_isRejectionMessage (h : isRejectionMessage u message = true) :
    isSilentUiCommand u message = .ok false :=
  isSilentUiCommand_of_parsers (parsers_of_isRejectionMessage h)

/-- A confirmation reads as a rejection only if one of its replies does. -/
theorem isConfirmationMessage_of_isRejectionMessage (h : isRejectionMessage u message = true) :
    isConfirmationMessage u message = false := by
  rw [Bool.eq_false_iff, ne_eq, isConfirmationMessage, List.any_eq_true]
  rintro ⟨reply, hreply, heq⟩
  obtain ⟨rejection, hrejection, hbare⟩ := exists_reply_of_isRejectionMessage h
  rw [bareReply, of_decide_eq_true heq] at hbare
  revert hbare
  clear heq
  revert rejection
  revert reply
  decide

theorem exists_reply_of_isConfirmationMessage (h : isConfirmationMessage u message = true) :
    ∃ reply ∈ confirmationReplies, u.lower (strip message) = reply.toList := by
  rw [isConfirmationMessage, List.any_eq_true] at h
  obtain ⟨reply, hreply, heq⟩ := h
  exact ⟨reply, hreply, of_decide_eq_true heq⟩

theorem not_hasLetter_of_isConfirmationMessage (h : isConfirmationMessage u message = true) :
    ¬ HasLetter 'a' message ∧ ¬ HasLetter 'w' message := by
  obtain ⟨reply, hreply, heq⟩ := exists_reply_of_isConfirmationMessage h
  have hnone : 'a' ∉ reply.toList ∧ 'w' ∉ reply.toList := by
    clear heq
    revert reply
    decide
  constructor
  · intro ha
    exact hnone.1 (heq ▸ mem_lower_of_hasLetter (by decide) ha)
  · intro hw
    exact hnone.2 (heq ▸ mem_lower_of_hasLetter (by decide) hw)

theorem parsers_of_isConfirmationMessage (h : isConfirmationMessage u message = true) :
    parseStopwatchRenameArgs u message = .ok none ∧ parseTimerRenameArgs u message = .ok none ∧
      parseStopwatchStopArgs u message = .ok none ∧ parseTimerCancelArgs u message = .ok none := by
  obtain ⟨ha, hw⟩ := not_hasLetter_of_isConfirmationMessage h
  refine ⟨?_, ?_, ?_, ?_⟩ <;> by_contra hparse
  · exact ha (hasLetter_of_rename (by decide) hparse).1
  · exact ha (hasLetter_of_rename (by decide) hparse).1
  · exact hw (hasLetter_of_stop hparse)
  · exact ha (hasLetter_of_cancel hparse).1

theorem isSilentUiCommand_of_isConfirmationMessage (h : isConfirmationMessage u message = true) :
    isSilentUiCommand u message = .ok false :=
  isSilentUiCommand_of_parsers (parsers_of_isConfirmationMessage h)

theorem mem_lower_strip {x : Char} (hx : x.toNat < 128) (hspace : isSpace x = false)
    (h : x ∈ u.lower message) : x ∈ u.lower (strip message) := by
  obtain ⟨c, hc, ⟨hascii, rfl⟩ | ⟨rfl, rfl⟩ | ⟨rfl, rfl⟩⟩ := mem_lower_ascii hx h
  · apply mem_lower u (mem_strip hc ?_)
    · rintro rfl
      exact absurd hascii (by decide)
    · rw [u.lowerOf_ascii c hascii]
      exact List.mem_singleton_self _
    · rwa [isSpace_toLower] at hspace
  · apply mem_lower u (mem_strip hc (by decide)) (by decide)
    rw [u.lowerOf_dotted_I]
    exact List.mem_cons_self
  · apply mem_lower u (mem_strip hc (by decide)) (by decide)
    rw [u.lowerOf_kelvin]
    exact List.mem_cons_self

theorem isW_of_isConfirmationMessage (h : isConfirmationMessage u message = true) :
    ∀ c ∈ message, ¬ IsW c := by
  intro c hc hw
  apply (not_hasLetter_of_isConfirmationMessage h).2
  rcases hw with rfl | rfl
  · exact ⟨'w', hc, by decide⟩
  · exact ⟨'W', hc, by decide⟩

theorem not_hasTimerTrigger_of_isConfirmationMessage (h : isConfirmationMessage u message = true) :
    hasTimerTrigger (u.lower message) = false := by
  obtain ⟨reply, hreply, heq⟩ := exists_reply_of_isConfirmationMessage h
  have hnone : ¬ ('t' ∈ reply.toList ∧ 'm' ∈ reply.toList) ∧ 'w' ∉ reply.toList := by
    clear heq
    revert reply
    decide
  rw [← heq] at hnone
  rw [Bool.eq_false_iff, ne_eq, hasTimerTrigger, hasAnySubstring_iff]
  rintro ⟨keyword, hkeyword, hfound⟩
  have hmem : ∀ x : Char, x.toNat < 128 → isSpace x = false → x ∈ keyword.toList →
      x ∈ u.lower (strip message) :=
    fun x hx hspace hk => mem_lower_strip hx hspace (hfound.subset hk)
  simp only [timerRequestTriggers, List.mem_cons, List.not_mem_nil, or_false] at hkeyword
  rcases hkeyword with rfl | rfl
  · exact hnone.1 ⟨hmem 't' (by decide) (by decide) (by decide),
      hmem 'm' (by decide) (by decide) (by decide)⟩
  · exact hnone.2 (hmem 'w' (by decide) (by decide) (by decide))

theorem not_timerRequest_of_isConfirmationMessage (h : isConfirmationMessage u message = true) :
    isTimerStatusRequest u message = false ∧ isClearAllTimersRequest u message = false ∧
      isStopwatchStopRequest u message = false ∧ isTimerCancelRequest u message = false := by
  have hlower := not_isW_of_mem_lower (u := u) (isW_of_isConfirmationMessage h)
  have htimer := not_hasTimerTrigger_of_isConfirmationMessage h
  have hstopwatch := not_hasStopwatchTrigger_of_not_isW hlower
  have htimers : hasSubstring "timers".toList (u.lower message) = false := by
    rw [Bool.eq_false_iff, ne_eq, hasSubstring_iff]
    intro hfound
    rw [Bool.eq_false_iff, ne_eq, hasTimerTrigger, hasAnySubstring_iff] at htimer
    have hshort : "timer".toList <:+: "timers".toList := ⟨[], ['s'], by decide⟩
    exact htimer ⟨"timer", by simp [timerRequestTriggers], hshort.trans hfound⟩
  refine ⟨?_, ?_, ?_, ?_⟩
  · simp only [isTimerStatusRequest, normalizeStopwatchSpelling_of_not_isW hlower, hstopwatch,
      htimer, Bool.not_false, Bool.false_eq_true, if_false, if_true, ite_self]
  · simp only [isClearAllTimersRequest, htimer, htimers, Bool.or_self, ite_self]
  · simp only [isStopwatchStopRequest, normalizeStopwatchSpelling_of_not_isW hlower, hstopwatch,
      Bool.false_and]
  · simp only [isTimerCancelRequest, htimer, Bool.false_and, ite_self]

end NanoCore.Assistant.Rules.Replies
