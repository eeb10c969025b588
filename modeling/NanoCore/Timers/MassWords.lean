import NanoCore.Foundation.WordSearch
import NanoCore.Timers.CommandShapes

namespace NanoCore.Timers.MassWords

open NanoCore.Foundation.PythonText
open NanoCore.Foundation.Regex
open NanoCore.Foundation.RegexSearch
open NanoCore.Foundation.PythonRegex
open NanoCore.Foundation.WordSearch
open NanoCore.Timers.Parsing
open NanoCore.Timers.CommandShapes

section Words

variable (u : PyData)

/-- `\bstop\s+watches\b` without regard to case. -/
def stopWatchesRe : Regex :=
  seqs [wordBoundary u, litCI "stop", spaces, litCI "watches", wordBoundary u]

def massPatterns : List Regex :=
  [wholeWord u "timers", wholeWord u "stopwatches", stopWatchesRe u, wholeWord u "all",
   wholeWord u "everything"]

/-- The message, in lower case, has a plural word or one of the words for all. -/
def isMassRequest (message : Text) : Bool :=
  massPatterns u |>.any fun pattern => occurs pattern (u.lower message)

end Words

variable {u : PyData} {message : Text}

def LooksLike (x y : Char) : Prop :=
  SigmaEq x y ∨ x ∈ ['"', '\u0027'] ∧ y ∈ ['\u2018', '\u2019', '\u201c', '\u201d']

def SameEdge (u : PyData) (a b : Text) : Prop := wordEdge u a = wordEdge u b

theorem LooksLike.isWord_eq {x y : Char} (h : LooksLike x y) : u.isWord x = u.isWord y := by
  rcases h with (rfl | ⟨hx, hy⟩) | ⟨hx, hy⟩
  · rfl
  · simp only [PyData.isWord, u.isAlnum_sigma x hx, u.isAlnum_sigma y hy, Bool.true_or]
  · have hstraight : u.isWord x = false := by
      simp only [List.mem_cons, List.not_mem_nil, or_false] at hx
      rcases hx with rfl | rfl <;> rw [isWord_ascii u (by decide)] <;> decide
    have hne : (y == '_') = false := by
      rw [beq_eq_false_iff_ne]
      rintro rfl
      exact absurd hy (by decide)
    rw [hstraight, PyData.isWord, u.isAlnum_quote y hy, hne]
    rfl

theorem LooksLike.eq_or {x y : Char} (h : LooksLike x y) :
    x = y ∨ x ∈ ['\u03c2', '\u03c3', '"', '\u0027'] ∧
      y ∈ ['\u03c2', '\u03c3', '\u2018', '\u2019', '\u201c', '\u201d'] := by
  rcases h with (rfl | ⟨hx, hy⟩) | ⟨hx, hy⟩
  · exact Or.inl rfl
  · exact Or.inr ⟨List.mem_append_left ['"', '\u0027'] hx,
      List.mem_append_left ['\u2018', '\u2019', '\u201c', '\u201d'] hy⟩
  · exact Or.inr ⟨List.mem_append_right ['\u03c2', '\u03c3'] hx,
      List.mem_append_right ['\u03c2', '\u03c3'] hy⟩

/-- The code points that texts which look alike may disagree in. -/
def lookalikes : Text :=
  ['\u03c2', '\u03c3', '"', '\u0027', '\u2018', '\u2019', '\u201c', '\u201d']

theorem LooksLike.test_eq {p : Char → Bool} (hp : ∀ c ∈ lookalikes, p c = false) {x y : Char}
    (h : LooksLike x y) : p x = p y := by
  rcases h.eq_or with rfl | ⟨hx, hy⟩
  · rfl
  · rw [hp x ?_, hp y ?_]
    · exact forall_mem_of_all (P := (· ∈ lookalikes)) (by decide) y hy
    · exact forall_mem_of_all (P := (· ∈ lookalikes)) (by decide) x hx

theorem lowerIn_map_straightQuote (body before before' after after' : Text) :
    List.Forall₂ LooksLike (u.lowerIn before (body.map straightQuote) after)
      (u.lowerIn before' body after') := by
  induction body generalizing before before' with
  | nil => exact .nil
  | cons c body ih =>
      refine List.rel_append ?_ (ih _ _)
      rcases straightQuote_eq_self_or c with heq | ⟨hc, hquote⟩
      · rw [heq]
        have hsigma := lowerIn_sigmaEq u before before' [c]
          (body.map straightQuote ++ after) (body ++ after')
        simp only [PyData.lowerIn, List.nil_append, List.append_nil] at hsigma
        exact hsigma.imp fun _ _ h => Or.inl h
      · have hne : straightQuote c ≠ '\u03a3' := fun h => absurd (h ▸ hquote) (by decide)
        have hne' : c ≠ '\u03a3' := fun h => absurd (h ▸ hc) (by decide)
        have hlower : u.lowerOf (straightQuote c) = [straightQuote c] := by
          simp only [List.mem_cons, List.not_mem_nil, or_false] at hquote
          rcases hquote with hq | hq <;> rw [hq, u.lowerOf_ascii _ (by decide)] <;> decide
        rw [lowerChar_eq u hne, lowerChar_eq u hne', hlower, u.lowerOf_quote c hc]
        exact .cons (Or.inr ⟨hquote, hc⟩) .nil

theorem not_isWord_of_isFiller {c : Char} (h : IsFiller c) : u.isWord c = false := by
  rcases h with h | rfl | rfl
  · exact not_isWord_of_isSpace u h
  all_goals
    rw [isWord_ascii u (by decide)]
    decide

theorem wordEdge_of_not_isWord {s : Text} (h : ∀ c ∈ s, u.isWord c = false) :
    wordEdge u s = false := by
  rcases s with _ | ⟨c, s⟩
  · rfl
  · exact h c List.mem_cons_self

theorem lowerIn_filler {before s after : Text} (h : ∀ c ∈ s, IsFiller c) :
    u.lowerIn before s after = s := by
  refine lowerIn_eq_self u fun c hc => ?_
  rcases h c hc with h | rfl | rfl
  · exact ⟨u.lowerOf_space c h, ne_sigma_of_isSpace h⟩
  all_goals exact ⟨by rw [u.lowerOf_ascii _ (by decide)]; rfl, by decide⟩

theorem occurs_lower_of_normalized {r : Regex} (hr : Respects LooksLike (SameEdge u) r)
    (h : occurs r (u.lower (normalizeRenameCommandMessage message)) = true) :
    occurs r (u.lower message) = true := by
  obtain ⟨pre, body, post, hmessage, hbody, hpre, hpost⟩ :=
    exists_normalizeRenameCommandMessage message
  have hlower : u.lower message = pre ++ u.lowerIn pre.reverse body post ++ post := by
    rw [hmessage, PyData.lower, lowerIn_append, lowerIn_append, lowerIn_spaces u hpre,
      lowerIn_filler hpost]
    simp
  rw [hlower]
  rw [← hbody] at h
  have hcons : ∀ x y l l', LooksLike x y → SameEdge u l l' → SameEdge u (x :: l) (y :: l') :=
    fun x y _ _ hxy _ => hxy.isWord_eq
  refine occurs_transfer hcons hr (lowerIn_map_straightQuote body _ _ _ _) ?_ ?_ h
  · refine (wordEdge_of_not_isWord fun c hc => ?_).symm
    exact not_isWord_of_isSpace u (hpre c (List.mem_reverse.mp hc))
  · exact (wordEdge_of_not_isWord fun c hc => not_isWord_of_isFiller (hpost c hc)).symm

theorem respects_wordBoundary : Respects LooksLike (SameEdge u) (wordBoundary u) := by
  intro b b' a a' hb ha
  change wordEdge u b = wordEdge u b' at hb
  change wordEdge u a = wordEdge u a' at ha
  change (wordEdge u b != wordEdge u a) = (wordEdge u b' != wordEdge u a')
  rw [hb, ha]

theorem respects_wholeWord {keyword : String}
    (hk : ∀ k ∈ keyword.toList, k ∉ lookalikes) :
    Respects LooksLike (SameEdge u) (wholeWord u keyword) := by
  refine ⟨respects_wordBoundary, respects_word fun k hkmem x y hxy => ?_,
    respects_wordBoundary, trivial⟩
  refine hxy.test_eq (p := fun c => c == k) fun c hc => beq_eq_false_iff_ne.mpr ?_
  rintro rfl
  exact hk c hkmem hc

theorem respects_stopWatchesRe : Respects LooksLike (SameEdge u) (stopWatchesRe u) := by
  have hlit : ∀ s : String, (s.toList.all fun k => lookalikes.all fun c => !foldsTo k c) = true →
      Respects LooksLike (SameEdge u) (litCI s) := by
    intro s hs
    refine respects_word fun k hk x y hxy => hxy.test_eq fun c hc => ?_
    exact (Bool.not_eq_true' _).mp
      (List.all_eq_true.mp (List.all_eq_true.mp hs k hk) c hc)
  have hspace : Respects LooksLike (SameEdge u) space :=
    fun x y hxy => hxy.test_eq (forall_mem_of_all (by decide))
  exact ⟨respects_wordBoundary, hlit "stop" (by decide), ⟨hspace, hspace⟩,
    hlit "watches" (by decide), respects_wordBoundary, trivial⟩

theorem isWord_of_toLower {x c : Char} (hx : x.toNat < 128) (hword : x.isAlphanum = true)
    (h : c.toLower = x) : u.isWord c = true := by
  have hc : c.toNat < 128 := by
    by_contra hc
    rw [toLower_eq_self hc] at h
    exact hc (h ▸ hx)
  rw [isWord_ascii u hc]
  have halnum : c.isAlphanum = true := by
    rw [← h] at hword
    exact ascii_forall (P := fun c => c.toLower.isAlphanum = true → c.isAlphanum = true)
      (by decide) c hc hword
  rw [halnum, Bool.true_or]

theorem isWord_of_foldsTo_s {c : Char} (h : foldsTo 's' c = true) : u.isWord c = true := by
  rcases foldsTo_cases h with h | ⟨h, -⟩ | ⟨-, rfl⟩ | ⟨h, -⟩
  · exact isWord_of_toLower (by decide) (by decide) h
  · exact absurd h (by decide)
  · rw [PyData.isWord, u.isAlnum_long_s, Bool.true_or]
  · exact absurd h (by decide)

theorem toLower_of_foldsTo_h {c : Char} (h : foldsTo 'h' c = true) : c.toLower = 'h' := by
  rcases foldsTo_cases h with h | ⟨h, -⟩ | ⟨h, -⟩ | ⟨h, -⟩
  · exact h
  all_goals exact absurd h (by decide)

theorem stopwatchTwoWordRe_cases {before w after : Text}
    (h : Matches (stopwatchTwoWordRe u) before w after) :
    ∃ c v d, w = c :: (v ++ [d]) ∧ foldsTo 's' c = true ∧
      wordEdge u before ≠ wordEdge u (w ++ after) ∧
      wordEdge u (w.reverse ++ before) ≠ wordEdge u after ∧
      (d.toLower = 'h' ∨ foldsTo 's' d = true ∧ Matches (stopWatchesRe u) before w after) := by
  simp only [stopwatchTwoWordRe, matches_seqs_cons, matches_seqs_nil, matches_wordBoundary,
    matches_litCI, matches_spaces] at h
  obtain ⟨_, _, rfl, ⟨rfl, hleft⟩, stop, _, rfl, hstop, sp, _, rfl, hsp, watch, _, rfl, hwatch,
    tail, _, rfl, htail, _, _, rfl, ⟨rfl, hright⟩, rfl⟩ := h
  simp only [List.nil_append, List.append_nil, List.reverse_nil] at hleft hright ⊢
  obtain ⟨c, stop', hc, hstop', rfl⟩ := List.forall₂_cons_left_iff.mp
    (show List.Forall₂ (fun x c => foldsTo x c = true) ('s' :: ['t', 'o', 'p']) stop from hstop)
  obtain ⟨watch', last, rfl, hwatch', hlast⟩ := exists_forall₂_append
    (show List.Forall₂ (fun x c => foldsTo x c = true) (['w', 'a', 't', 'c'] ++ ['h']) watch
      from hwatch)
  obtain ⟨d, _, hd, hnil, rfl⟩ := List.forall₂_cons_left_iff.mp hlast
  obtain rfl := List.forall₂_nil_left_iff.mp hnil
  rcases htail with htail | htail
  · rw [matches_litCI] at htail
    obtain ⟨e, _, he, hrest, rfl⟩ := List.forall₂_cons_left_iff.mp
      (show List.Forall₂ (fun x c => foldsTo x c = true) ('e' :: ['s']) tail from htail)
    obtain ⟨s, _, hs, hnil, rfl⟩ := List.forall₂_cons_left_iff.mp hrest
    obtain rfl := List.forall₂_nil_left_iff.mp hnil
    refine ⟨c, stop' ++ (sp ++ (watch' ++ [d, e])), s, by simp, hc, by simpa using hleft,
      by simpa using hright, Or.inr ⟨hs, ?_⟩⟩
    simp only [stopWatchesRe, matches_seqs_cons, matches_seqs_nil, matches_wordBoundary,
      matches_litCI, matches_spaces]
    refine ⟨[], _, rfl, ⟨rfl, by simpa using hleft⟩, c :: stop',
      sp ++ (watch' ++ [d] ++ [e, s]), by simp, hstop, sp, watch' ++ [d] ++ [e, s], rfl, hsp,
      watch' ++ [d] ++ [e, s], [], by simp, ?_, [], [], rfl, ⟨rfl, by simpa using hright⟩, rfl⟩
    exact List.rel_append hwatch (.cons he (.cons hs .nil))
  · obtain rfl : tail = [] := htail
    exact ⟨c, stop' ++ (sp ++ watch'), d, by simp, hc, by simpa using hleft,
      by simpa using hright, Or.inl (toLower_of_foldsTo_h hd)⟩

theorem matchesWords_stopwatchTwoWordRe : MatchesWords u (stopwatchTwoWordRe u) := by
  intro before w after h
  obtain ⟨c, v, d, rfl, hc, hleft, hright, hd⟩ := stopwatchTwoWordRe_cases h
  have hfirst : u.isWord c = true := isWord_of_foldsTo_s hc
  have hlast : u.isWord d = true := by
    rcases hd with hd | ⟨hd, -⟩
    · exact isWord_of_toLower (by decide) (by decide) hd
    · exact isWord_of_foldsTo_s hd
  have hreverse : (c :: (v ++ [d])).reverse = d :: (v.reverse ++ [c]) := by simp
  rw [List.cons_append, wordEdge_cons, hfirst] at hleft
  rw [hreverse, List.cons_append, wordEdge_cons, hlast] at hright
  refine ⟨by simpa using hleft, by simpa using hright.symm, hfirst, ?_⟩
  rw [hreverse]
  exact hlast

theorem isWordText_respelling (found : Found Char) :
    IsWordText u (if "es".toList <:+ u.lower found.text then "stopwatches".toList
      else "stopwatch".toList) := by
  split <;> exact isWordText_of_ascii u (by decide) (forall_mem_of_all (by decide))

/-- A plural that the respelling shows is a plural of the text. -/
theorem occurs_stopwatches_of_respelled {s : Text}
    (h : occurs (wholeWord u "stopwatches") (normalizeStopwatchSpelling u s) = true) :
    occurs (wholeWord u "stopwatches") s = true ∨ occurs (stopWatchesRe u) s = true := by
  rcases occurs_wholeWord_substitute matchesWords_stopwatchTwoWordRe isWordText_respelling
    (isWordText_of_ascii u (by decide) (forall_mem_of_all (by decide))) h with
    h | ⟨pre, w, post, found, hs, hm, htext, hfound⟩
  · exact Or.inl h
  · right
    have hes : "es".toList <:+ u.lower w := by
      by_contra hes
      rw [htext, if_neg hes] at hfound
      exact absurd hfound (by decide)
    rw [occurs_iff]
    refine ⟨pre, w, post, hs, ?_⟩
    obtain ⟨c, v, d, rfl, -, -, -, hd | ⟨-, hm⟩⟩ := stopwatchTwoWordRe_cases hm
    · -- a text that ends with an h does not end with an s in lower case
      have hascii : d.toNat < 128 := by
        by_contra hascii
        rw [toLower_eq_self hascii] at hd
        exact hascii (hd ▸ by decide)
      have hne : d ≠ '\u03a3' := by
        rintro rfl
        exact absurd hd (by decide)
      have hlower : ∃ t, u.lower (c :: (v ++ [d])) = t ++ ['h'] := by
        refine ⟨u.lowerIn [] (c :: v) [d], ?_⟩
        rw [PyData.lower, ← List.cons_append, lowerIn_append]
        simp only [PyData.lowerIn, lowerChar_eq u hne, u.lowerOf_ascii d hascii, hd,
          List.append_nil]
      obtain ⟨t, hlower⟩ := hlower
      rw [hlower] at hes
      obtain ⟨t', ht'⟩ : ['e', 's'] <:+ t ++ ['h'] := hes
      have hlast := congrArg List.reverse ht'
      simp at hlast
    · simpa using hm

/-- A plural request is a mass request. -/
theorem isMassRequest_of_plural (h : isPluralTimerCancelRequest u message = true ∨
    isPluralStopwatchStopRequest u message = true) : isMassRequest u message = true := by
  have hmass : ∀ r ∈ massPatterns u, occurs r (u.lower message) = true →
      isMassRequest u message = true :=
    fun r hr hocc => List.any_eq_true.mpr ⟨r, hr, hocc⟩
  rcases h with h | h
  · exact hmass (wholeWord u "timers") (by simp [massPatterns])
      (occurs_lower_of_normalized (respects_wholeWord (forall_mem_of_all (by decide))) h)
  · rcases occurs_stopwatches_of_respelled h with h | h
    · exact hmass (wholeWord u "stopwatches") (by simp [massPatterns])
        (occurs_lower_of_normalized (respects_wholeWord (forall_mem_of_all (by decide))) h)
    · exact hmass (stopWatchesRe u) (by simp [massPatterns])
        (occurs_lower_of_normalized respects_stopWatchesRe h)

theorem isMassRequest_of_clearAll (h : isClearAllTimersRequest u message = true) :
    isMassRequest u message = true := by
  simp only [isClearAllTimersRequest] at h
  split at h
  · exact Bool.noConfusion h
  · split at h
    · exact Bool.noConfusion h
    · rename_i hall
      rw [Bool.not_eq_true', Bool.not_eq_false, hasAnyWord_iff] at hall
      obtain ⟨keyword, hkeyword, hocc⟩ := hall
      refine List.any_eq_true.mpr ⟨wholeWord u keyword, ?_, hocc⟩
      simp only [timerClearAllKeywords, List.mem_cons, List.not_mem_nil, or_false] at hkeyword
      rcases hkeyword with rfl | rfl <;> simp [massPatterns]

end NanoCore.Timers.MassWords
