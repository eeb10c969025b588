import NanoCore.Timers.Parsing

namespace NanoCore.Timers.CommandShapes

open NanoCore.Foundation.PythonText
open NanoCore.Foundation.Regex
open NanoCore.Foundation.RegexSearch
open NanoCore.Foundation.PythonRegex
open NanoCore.Timers.Parsing

def IsFiller (c : Char) : Prop := isSpace c = true ∨ c = '.' ∨ c = '!'

theorem exists_dropTrailingStops (fuel : Nat) (reversed : Text) :
    ∃ dropped, reversed = dropped ++ dropTrailingStops fuel reversed ∧
      ∀ c ∈ dropped, IsFiller c := by
  induction fuel generalizing reversed with
  | zero => exact ⟨[], rfl, by simp⟩
  | succ fuel ih =>
      rcases reversed with _ | ⟨c, rest⟩
      · exact ⟨[], rfl, by simp⟩
      · by_cases hc : c = '.' ∨ c = '!'
        · obtain ⟨spaces, hrest, hspaces⟩ := exists_lstrip rest
          obtain ⟨dropped, hdropped, hfiller⟩ := ih (lstrip rest)
          refine ⟨c :: (spaces ++ dropped), ?_, ?_⟩
          · rw [dropTrailingStops, if_pos hc, List.cons_append, List.append_assoc, ← hdropped,
              ← hrest]
          · intro d hd
            rw [List.mem_cons, List.mem_append] at hd
            rcases hd with rfl | hd | hd
            · exact Or.inr hc
            · exact Or.inl (hspaces d hd)
            · exact hfiller d hd
        · exact ⟨[], by rw [dropTrailingStops, if_neg hc]; rfl, by simp⟩

theorem straightQuote_eq_self_or (c : Char) :
    straightQuote c = c ∨
      c ∈ ['\u2018', '\u2019', '\u201c', '\u201d'] ∧ straightQuote c ∈ ['"', '\u0027'] := by
  unfold straightQuote
  split
  · rename_i h
    rcases h with rfl | rfl <;> simp
  · split
    · rename_i h
      rcases h with rfl | rfl <;> simp
    · exact Or.inl rfl

theorem isFiller_of_straightQuote {c : Char} (h : IsFiller (straightQuote c)) : IsFiller c := by
  rcases straightQuote_eq_self_or c with heq | ⟨-, hquote⟩
  · rwa [heq] at h
  · rw [List.mem_cons, List.mem_singleton] at hquote
    rcases hquote with hq | hq <;> rw [hq] at h <;>
      exact absurd h (by unfold IsFiller; decide)

/-- The normalized message is the message without its outer filler, with its
quotes made straight. -/
theorem exists_normalizeRenameCommandMessage (message : Text) :
    ∃ pre body post, message = pre ++ body ++ post ∧
      body.map straightQuote = normalizeRenameCommandMessage message ∧
      (∀ c ∈ pre, isSpace c = true) ∧ ∀ c ∈ post, IsFiller c := by
  obtain ⟨pre, post, hmessage, hpre, hpost⟩ := exists_strip message
  obtain ⟨dropped, hdropped, hfiller⟩ :=
    exists_dropTrailingStops ((strip message).map straightQuote).length
      ((strip message).map straightQuote).reverse
  have hsplit : (strip message).map straightQuote =
      normalizeRenameCommandMessage message ++ dropped.reverse := by
    have h := congrArg List.reverse hdropped
    rwa [List.reverse_reverse, List.reverse_append] at h
  obtain ⟨body, tail, hstrip, hbody, htail⟩ := List.map_eq_append_iff.mp hsplit
  refine ⟨pre, body, tail ++ post, ?_, hbody, hpre, ?_⟩
  · rw [hstrip] at hmessage
    rw [hmessage]
    simp
  · intro c hc
    rw [List.mem_append] at hc
    rcases hc with hc | hc
    · refine isFiller_of_straightQuote (hfiller _ ?_)
      rw [← List.mem_reverse, ← htail]
      exact List.mem_map_of_mem hc
    · exact Or.inl (hpost c hc)

def headWord (s : Text) : Text := s.takeWhile fun c => !isSpace c

def skipWord (s : Text) : Text := lstrip (s.dropWhile fun c => !isSpace c)

/-- The text reads as the word when case is ignored. -/
def Spells (word : String) (s : Text) : Prop :=
  List.Forall₂ (fun x c => foldsTo x c = true) word.toList s

theorem Spells.length_eq {word : String} {s : Text} (h : Spells word s) :
    s.length = word.toList.length :=
  (List.Forall₂.length_eq h).symm

theorem isSpace_toLower (c : Char) : isSpace c.toLower = isSpace c := by
  by_cases hc : c.toNat < 128
  · exact ascii_forall (P := fun c => isSpace c.toLower = isSpace c) (by decide) c hc
  · rw [toLower_eq_self hc]

theorem not_isSpace_of_foldsTo {x c : Char} (hx : isSpace x = false)
    (h : foldsTo x c = true) : isSpace c = false := by
  rcases foldsTo_cases h with rfl | ⟨-, rfl | rfl⟩ | ⟨-, rfl⟩ | ⟨-, rfl⟩
  · rwa [isSpace_toLower] at hx
  all_goals decide

def Solid (word : String) : Prop :=
  word.toList ≠ [] ∧ (word.toList.all fun x => !isSpace x) = true

instance (word : String) : Decidable (Solid word) := inferInstanceAs (Decidable (_ ∧ _))

theorem Solid.not_isSpace {word : String} (h : Solid word) {x : Char} (hx : x ∈ word.toList) :
    isSpace x = false :=
  (Bool.not_eq_true' _).mp (List.all_eq_true.mp h.2 x hx)

theorem exists_letter {word s : Text}
    (h : List.Forall₂ (fun x c => foldsTo x c = true) word s) {c : Char} (hc : c ∈ s) :
    ∃ x ∈ word, foldsTo x c = true := by
  induction h with
  | nil => exact absurd hc List.not_mem_nil
  | cons hfold _ ih =>
      rw [List.mem_cons] at hc
      rcases hc with rfl | hc
      · exact ⟨_, List.mem_cons_self, hfold⟩
      · obtain ⟨x, hx, hxc⟩ := ih hc
        exact ⟨x, List.mem_cons_of_mem _ hx, hxc⟩

/-- Letters that only their own upper case folds to. -/
def IsSteady (x : Char) : Prop := x.toNat < 128 ∧ x ∉ ['i', 's', 'k']

instance : DecidablePred IsSteady := fun _ => inferInstanceAs (Decidable (_ ∧ _))

theorem toLower_of_foldsTo {x c : Char} (hx : IsSteady x) (h : foldsTo x c = true) :
    c.toNat < 128 ∧ c.toLower = x := by
  obtain ⟨hlt, hsteady⟩ := hx
  simp only [List.mem_cons, List.not_mem_nil, or_false, not_or] at hsteady
  have hlower : c.toLower = x := by
    rcases foldsTo_cases h with h | ⟨h, -⟩ | ⟨h, -⟩ | ⟨h, -⟩
    · exact h
    · exact absurd h hsteady.1
    · exact absurd h hsteady.2.1
    · exact absurd h hsteady.2.2
  refine ⟨?_, hlower⟩
  by_contra hc
  rw [toLower_eq_self hc] at hlower
  exact hc (hlower ▸ hlt)

/-- A text that reads as a word of steady letters is the word in some letter case. -/
theorem map_toLower_of_spells {word s : Text}
    (h : List.Forall₂ (fun x c => foldsTo x c = true) word s) (hword : ∀ x ∈ word, IsSteady x) :
    s.map Char.toLower = word ∧ ∀ c ∈ s, c.toNat < 128 := by
  induction h with
  | nil => exact ⟨rfl, fun c hc => absurd hc List.not_mem_nil⟩
  | cons hfold _ ih =>
      rw [List.forall_mem_cons] at hword
      obtain ⟨hlt, hlower⟩ := toLower_of_foldsTo hword.1 hfold
      obtain ⟨hmap, hrest⟩ := ih hword.2
      exact ⟨by rw [List.map_cons, hlower, hmap], List.forall_mem_cons.mpr ⟨hlt, hrest⟩⟩

theorem Spells.not_isSpace {word : String} {s : Text} (hword : Solid word) (h : Spells word s) :
    ∀ c ∈ s, isSpace c = false := by
  intro c hc
  obtain ⟨x, hx, hfold⟩ := exists_letter h hc
  exact not_isSpace_of_foldsTo (hword.not_isSpace hx) hfold

theorem lstrip_of_spells {word : String} {v rest : Text} (hword : Solid word)
    (hv : Spells word v) : lstrip (v ++ rest) = v ++ rest := by
  rcases v with _ | ⟨c, v⟩
  · exact absurd (List.length_eq_zero_iff.mp hv.length_eq.symm) hword.1
  · exact List.dropWhile_cons_of_neg (by rw [hv.not_isSpace hword c (by simp)]; simp)

theorem headWord_append {v sp : Text} (rest : Text) (hv : ∀ c ∈ v, isSpace c = false)
    (hne : sp ≠ []) (hsp : ∀ c ∈ sp, isSpace c = true) :
    headWord (v ++ (sp ++ rest)) = v ∧ skipWord (v ++ (sp ++ rest)) = lstrip rest := by
  obtain ⟨c, sp, rfl⟩ := List.exists_cons_of_ne_nil hne
  have hc : (!isSpace c) = false := by rw [hsp c (by simp)]; rfl
  have hv' : ∀ d ∈ v, (!isSpace d) = true := fun d hd => by rw [hv d hd]; rfl
  constructor
  · rw [headWord, List.takeWhile_append_of_pos hv', List.cons_append,
      List.takeWhile_cons_of_neg (by rw [hc]; exact Bool.false_ne_true), List.append_nil]
  · rw [skipWord, List.dropWhile_append_of_pos hv', List.cons_append,
      List.dropWhile_cons_of_neg (by rw [hc]; exact Bool.false_ne_true), ← List.cons_append,
      lstrip, List.dropWhile_append_of_pos hsp]
    rfl

theorem headWord_of_matches {word : String} {rs : List Regex} {before w after : Text}
    (hword : Solid word) (h : Matches (seqs (litCI word :: spaces :: rs)) before w after) :
    Spells word (headWord (w ++ after)) ∧
      ∃ before' w', skipWord (w ++ after) = lstrip (w' ++ after) ∧
        Matches (seqs rs) before' w' after := by
  rw [matches_seqs_cons] at h
  obtain ⟨v, w₁, rfl, hv, h⟩ := h
  rw [matches_seqs_cons] at h
  obtain ⟨sp, w₂, rfl, hsp, h⟩ := h
  rw [matches_litCI] at hv
  rw [matches_spaces] at hsp
  obtain ⟨hhead, hskip⟩ := headWord_append (w₂ ++ after)
    (Spells.not_isSpace hword hv) hsp.1 hsp.2
  rw [List.append_assoc, List.append_assoc, hhead, hskip]
  exact ⟨hv, _, w₂, rfl, h⟩

theorem lstrip_of_matches {word : String} {rs : List Regex} {before w after : Text}
    (hword : Solid word) (h : Matches (seqs (litCI word :: rs)) before w after) :
    lstrip (w ++ after) = w ++ after := by
  rw [matches_seqs_cons] at h
  obtain ⟨v, w₁, rfl, hv, -⟩ := h
  rw [matches_litCI] at hv
  rw [List.append_assoc, lstrip_of_spells hword hv]

theorem leadingWords_of_matchPrefix {verb noun : String} {rs : List Regex} {s : Text}
    (hverb : Solid verb) (hnoun : Solid noun)
    (h : (matchPrefix
      (seqs (atStart :: litCI verb :: spaces :: litCI noun :: spaces :: rs)) s).isSome = true) :
    Spells verb (headWord s) ∧ Spells noun (headWord (skipWord s)) ∧
      ∃ before w after, skipWord (skipWord s) = lstrip (w ++ after) ∧
        Matches (seqs rs) before w after := by
  rw [matchPrefix_isSome_iff] at h
  obtain ⟨w, after, rfl, h⟩ := h
  rw [matches_seqs_cons] at h
  obtain ⟨_, w, rfl, hstart, h⟩ := h
  obtain ⟨rfl, -⟩ := matches_atStart.mp hstart
  rw [List.nil_append]
  obtain ⟨hfirst, before, w, hskip, h⟩ := headWord_of_matches hverb h
  have hstrip := lstrip_of_matches hnoun h
  obtain ⟨hsecond, before, w', hskip', h⟩ := headWord_of_matches hnoun h
  rw [hskip, hstrip]
  exact ⟨hfirst, hsecond, before, w', after, hskip', h⟩

def RenameWords (noun : String) (s : Text) : Prop :=
  Spells "rename" (headWord s) ∧
    (Spells noun (headWord (skipWord s)) ∨
      Spells "the" (headWord (skipWord s)) ∧ Spells noun (headWord (skipWord (skipWord s))))

variable {u : PyData} {message : Text}

theorem renameWords_of_parse {noun idGroup : String} (hnoun : Solid noun)
    (h : parseRenameArgs u (renameByIdQuotedRe u noun idGroup)
      (renameByIdUnquotedRe u noun idGroup) (renameByLabelRe noun) idGroup message ≠ .ok none) :
    RenameWords noun (normalizeRenameCommandMessage message) := by
  unfold parseRenameArgs at h
  generalize normalizeRenameCommandMessage message = s at h ⊢
  cases hquoted : matchPrefix (renameByIdQuotedRe u noun idGroup) s with
  | some found =>
      obtain ⟨hverb, hnoun', -⟩ := leadingWords_of_matchPrefix (by decide) hnoun
        (Option.isSome_of_eq_some hquoted)
      exact ⟨hverb, Or.inl hnoun'⟩
  | none =>
      cases hunquoted : matchPrefix (renameByIdUnquotedRe u noun idGroup) s with
      | some found =>
          obtain ⟨hverb, hnoun', -⟩ := leadingWords_of_matchPrefix (by decide) hnoun
            (Option.isSome_of_eq_some hunquoted)
          exact ⟨hverb, Or.inl hnoun'⟩
      | none =>
          cases hlabel : matchPrefix (renameByLabelRe noun) s with
          | none =>
              simp only [hquoted, hunquoted, hlabel, Option.or_none, ne_eq,
                not_true_eq_false] at h
          | some found =>
              obtain ⟨hverb, hthe, before, w, after, hskip, hrest⟩ :=
                leadingWords_of_matchPrefix (by decide) (by decide)
                  (Option.isSome_of_eq_some hlabel)
              refine ⟨hverb, Or.inr ⟨hthe, ?_⟩⟩
              rw [hskip, lstrip_of_matches hnoun hrest]
              exact (headWord_of_matches hnoun hrest).1

/-- A timer rename and a stopwatch rename begin with words of different lengths. -/
theorem not_renameWords_both {s : Text} (htimer : RenameWords "timer" s)
    (hstopwatch : RenameWords "stopwatch" s) : False := by
  obtain ⟨-, ht | ⟨ht, ht'⟩⟩ := htimer <;> obtain ⟨-, hs | ⟨hs, hs'⟩⟩ := hstopwatch
  · exact absurd (ht.length_eq.symm.trans hs.length_eq) (by decide)
  · exact absurd (ht.length_eq.symm.trans hs.length_eq) (by decide)
  · exact absurd (ht.length_eq.symm.trans hs.length_eq) (by decide)
  · exact absurd (ht'.length_eq.symm.trans hs'.length_eq) (by decide)

theorem matchPrefix_of_parseCommandArgs {pattern : Regex} {idGroup : String} {s : Text}
    (h : parseCommandArgs u pattern idGroup s ≠ .ok none) :
    (matchPrefix pattern s).isSome = true := by
  unfold parseCommandArgs at h
  cases hmatch : matchPrefix pattern s with
  | none => simp only [hmatch, ne_eq, not_true_eq_false] at h
  | some found => rfl

theorem eq_of_foldsTo {x y c : Char} (hx : x.toNat < 128) (hy : y.toNat < 128)
    (hxc : foldsTo x c = true) (hyc : foldsTo y c = true) : x = y := by
  by_cases hc : c.toNat < 128
  · have hself : ∀ z : Char, foldsTo z c = true → c.toLower = z := by
      intro z hz
      rcases foldsTo_cases hz with h | ⟨-, rfl | rfl⟩ | ⟨-, rfl⟩ | ⟨-, rfl⟩
      · exact h
      all_goals exact absurd hc (by decide)
    exact (hself x hxc).symm.trans (hself y hyc)
  · have hlow : ∀ z : Char, z.toNat < 128 → foldsTo z c = true →
        (z = 'i' ∧ (c = '\u0130' ∨ c = '\u0131')) ∨ (z = 's' ∧ c = '\u017f') ∨
          (z = 'k' ∧ c = '\u212a') := by
      intro z hz hfold
      rcases foldsTo_cases hfold with rfl | h
      · rw [toLower_eq_self hc] at hz
        exact absurd hz hc
      · exact h
    rcases hlow x hx hxc with ⟨rfl, rfl | rfl⟩ | ⟨rfl, rfl⟩ | ⟨rfl, rfl⟩ <;>
      rcases hlow y hy hyc with ⟨rfl, h⟩ | ⟨rfl, h⟩ | ⟨rfl, h⟩ <;> first | rfl | revert h; decide

theorem exists_cons_of_spells {word : String} {x : Char} {xs s : Text}
    (hword : word.toList = x :: xs) (h : Spells word (headWord s)) :
    ∃ c rest, s = c :: rest ∧ foldsTo x c = true := by
  unfold Spells at h
  rw [hword] at h
  obtain ⟨c, v, hfold, -, hhead⟩ := List.forall₂_cons_left_iff.mp h
  rcases s with _ | ⟨d, rest⟩
  · exact absurd hhead (List.cons_ne_nil _ _).symm
  · unfold headWord at hhead
    rw [List.takeWhile_cons] at hhead
    split at hhead
    · obtain ⟨rfl, -⟩ := List.cons.inj hhead
      exact ⟨d, rest, rfl, hfold⟩
    · exact absurd hhead (List.cons_ne_nil _ _).symm

theorem normalizeStopwatchSpelling_cons (u : PyData) {c : Char} (rest : Text)
    (hc : foldsTo 's' c = false) :
    ∃ rest', normalizeStopwatchSpelling u (c :: rest) = c :: rest' := by
  refine substitute_cons_of_not_matches ?_
  rintro ⟨w, after, htext, hm⟩
  simp only [stopwatchTwoWordRe, matches_seqs_cons, matches_wordBoundary] at hm
  obtain ⟨_, w, rfl, ⟨rfl, -⟩, v, w', rfl, hstop, -⟩ := hm
  rw [matches_litCI] at hstop
  obtain ⟨d, v, hfold, -, rfl⟩ := List.forall₂_cons_left_iff.mp
    (show List.Forall₂ (fun x c => foldsTo x c = true) ('s' :: ['t', 'o', 'p']) v from hstop)
  obtain ⟨rfl, -⟩ := List.cons.inj htext
  rw [hc] at hfold
  exact Bool.noConfusion hfold

theorem exists_cons_of_parseStopwatchStopArgs (h : parseStopwatchStopArgs u message ≠ .ok none) :
    ∃ c rest, normalizeRenameCommandMessage message = c :: rest ∧ foldsTo 's' c = true := by
  obtain ⟨hstop, -, -⟩ := leadingWords_of_matchPrefix (by decide) (by decide)
    (matchPrefix_of_parseCommandArgs h)
  have hletters : "stop".toList = 's' :: ['t', 'o', 'p'] := rfl
  obtain ⟨c, rest, hcons, hfold⟩ := exists_cons_of_spells hletters hstop
  rcases hs : normalizeRenameCommandMessage message with _ | ⟨d, rest'⟩
  · rw [hs] at hcons
    exact absurd hcons (List.cons_ne_nil _ _).symm
  · refine ⟨d, rest', rfl, ?_⟩
    by_contra hd
    rw [Bool.not_eq_true] at hd
    obtain ⟨rest'', hkeep⟩ := normalizeStopwatchSpelling_cons u rest' hd
    rw [hs, hkeep] at hcons
    obtain ⟨rfl, -⟩ := List.cons.inj hcons
    rw [hd] at hfold
    exact Bool.noConfusion hfold

def Foreign (u : PyData) (c : Char) : Prop :=
  (∀ x ∈ "cancel".toList ++ "timer".toList, foldsTo x c = false) ∧ isSpace c = false ∧
    u.isDecimal c = false

theorem mem_lower_ascii {x : Char} (hx : x.toNat < 128) {s : Text} (h : x ∈ u.lower s) :
    ∃ c ∈ s, (c.toNat < 128 ∧ c.toLower = x) ∨ (c = '\u0130' ∧ x = 'i') ∨
      (c = '\u212a' ∧ x = 'k') := by
  rcases mem_lowerIn u h with hsigma | ⟨c, hc, hmem⟩
  · rw [List.mem_cons, List.mem_singleton] at hsigma
    rcases hsigma with rfl | rfl <;> exact absurd hx (by decide)
  · refine ⟨c, hc, ?_⟩
    rcases u.ascii_of_mem_lowerOf c x hmem hx with hascii | rfl | rfl
    · rw [u.lowerOf_ascii c hascii, List.mem_singleton] at hmem
      exact Or.inl ⟨hascii, hmem.symm⟩
    · rw [u.lowerOf_dotted_I, List.mem_cons, List.mem_singleton] at hmem
      rcases hmem with rfl | rfl
      · exact Or.inr (Or.inl ⟨rfl, rfl⟩)
      · exact absurd hx (by decide)
    · rw [u.lowerOf_kelvin, List.mem_singleton] at hmem
      exact Or.inr (Or.inr ⟨rfl, hmem⟩)

theorem mem_normalizeRenameCommandMessage {c : Char} (hfiller : ¬ IsFiller c)
    (hquote : straightQuote c = c) (hc : c ∈ message) :
    c ∈ normalizeRenameCommandMessage message := by
  obtain ⟨pre, body, post, rfl, hbody, hpre, hpost⟩ :=
    exists_normalizeRenameCommandMessage message
  rw [← hbody]
  rw [List.append_assoc, List.mem_append, List.mem_append] at hc
  rcases hc with hc | hc | hc
  · exact absurd (Or.inl (hpre c hc)) hfiller
  · exact hquote ▸ List.mem_map_of_mem hc
  · exact absurd (hpost c hc) hfiller

/-- A command by id is made of the letters of its words, white space and digits. -/
theorem letters_of_commandById {verb noun idGroup : String} {s : Text}
    (h : (matchPrefix (commandByIdRe u verb noun idGroup) s).isSome = true) :
    ∀ c ∈ s, (∃ x ∈ verb.toList ++ noun.toList, foldsTo x c = true) ∨ isSpace c = true ∨
      u.isDecimal c = true := by
  obtain ⟨w, after, rfl, hm⟩ := matchPrefix_isSome_iff.mp h
  simp only [commandByIdRe, matches_seqs_cons, matches_seqs_nil, matches_atStart, matches_litCI,
    matches_spaces, matches_optSpaces, matches_atEnd] at hm
  obtain ⟨_, _, rfl, ⟨rfl, -⟩, verb', _, rfl, hverb, sp, _, rfl, ⟨-, hsp⟩, noun', _, rfl, hnoun,
    sp', _, rfl, ⟨-, hsp'⟩, id, _, rfl, hid, sp'', _, rfl, hsp'', _, _, rfl, ⟨rfl, hafter⟩,
    rfl⟩ := hm
  intro c hc
  simp only [List.nil_append, List.append_nil, List.mem_append] at hc
  rcases hc with (hc | hc | hc | hc | hc | hc) | hc
  · obtain ⟨x, hx, hfold⟩ := exists_letter hverb hc
    exact .inl ⟨x, List.mem_append_left _ hx, hfold⟩
  · exact .inr (.inl (hsp c hc))
  · obtain ⟨x, hx, hfold⟩ := exists_letter hnoun hc
    exact .inl ⟨x, List.mem_append_right _ hx, hfold⟩
  · exact .inr (.inl (hsp' c hc))
  · exact .inr (.inr (((matches_digits u).mp hid).2 c hc))
  · exact .inr (.inl (hsp'' c hc))
  · rcases hafter with rfl | rfl
    · exact absurd hc List.not_mem_nil
    · exact .inr (.inl (forall_mem_of_all (P := (isSpace · = true)) (by decide) c hc))

theorem not_mem_of_cancel (h : parseTimerCancelArgs u message ≠ .ok none) {c : Char}
    (hfiller : ¬ IsFiller c) (hquote : straightQuote c = c) (hforeign : Foreign u c) :
    c ∉ message := by
  intro hc
  obtain ⟨hletters, hspace, hdecimal⟩ := hforeign
  rcases letters_of_commandById (matchPrefix_of_parseCommandArgs h) c
    (mem_normalizeRenameCommandMessage hfiller hquote hc) with ⟨x, hx, hfold⟩ | hmem | hmem
  · rw [hletters x hx] at hfold
    exact Bool.noConfusion hfold
  · rw [hspace] at hmem
    exact Bool.noConfusion hmem
  · rw [hdecimal] at hmem
    exact Bool.noConfusion hmem

def IsW (c : Char) : Prop := c = 'w' ∨ c = 'W'

theorem isW_of_toLower {c : Char} (h : c.toLower = 'w') : IsW c := by
  by_cases hc : c.toNat < 128
  · revert h
    refine ascii_forall (P := fun c => c.toLower = 'w' → IsW c) ?_ c hc
    unfold IsW
    decide
  · rw [toLower_eq_self hc] at h
    exact Or.inl h

theorem not_isW_of_mem_cancel (h : parseTimerCancelArgs u message ≠ .ok none) :
    ∀ c ∈ message, ¬ IsW c := by
  rintro c hc (rfl | rfl)
  all_goals
    refine not_mem_of_cancel h (by unfold IsFiller; decide) (by decide)
      ⟨forall_mem_of_all (by decide), by decide, ?_⟩ hc
    rw [PyData.isDecimal, u.decimal_ascii _ (by decide)]
    rfl

theorem not_isW_of_mem_lower (h : ∀ c ∈ message, ¬ IsW c) : ∀ c ∈ u.lower message, ¬ IsW c := by
  have hlower : ∀ x : Char, x.toNat < 128 → x ∈ u.lower message → IsW x → False := by
    intro x hx hmem hw
    obtain ⟨c, hc, ⟨-, rfl⟩ | ⟨-, rfl⟩ | ⟨-, rfl⟩⟩ := mem_lower_ascii hx hmem
    · rcases hw with hw | hw
      · exact h c hc (isW_of_toLower hw)
      · by_cases hascii : c.toNat < 128
        · revert hw
          exact ascii_forall (P := fun c => c.toLower = 'W' → False) (by decide) c hascii
        · rw [toLower_eq_self hascii] at hx
          exact hascii hx
    all_goals exact absurd hw (by unfold IsW; decide)
  rintro c hc (rfl | rfl)
  · exact hlower 'w' (by decide) hc (Or.inl rfl)
  · exact hlower 'W' (by decide) hc (Or.inr rfl)

theorem normalizeStopwatchSpelling_of_not_isW {s : Text} (h : ∀ c ∈ s, ¬ IsW c) :
    normalizeStopwatchSpelling u s = s := by
  refine substitute_eq_self ?_
  rw [Bool.eq_false_iff, ne_eq, occurs_iff]
  rintro ⟨pre, w, post, rfl, hm⟩
  simp only [stopwatchTwoWordRe, matches_seqs_cons, matches_litCI] at hm
  obtain ⟨_, _, rfl, -, _, _, rfl, -, _, _, rfl, -, watch, _, rfl, hwatch, -⟩ := hm
  obtain ⟨c, rest, hfold, -, rfl⟩ := List.forall₂_cons_left_iff.mp
    (show List.Forall₂ (fun x c => foldsTo x c = true) ('w' :: ['a', 't', 'c', 'h']) watch
      from hwatch)
  refine h c (by simp) ?_
  rcases foldsTo_cases hfold with hc | ⟨h, -⟩ | ⟨h, -⟩ | ⟨h, -⟩
  · exact isW_of_toLower hc
  all_goals exact absurd h (by decide)

theorem not_hasStopwatchTrigger_of_not_isW {s : Text} (h : ∀ c ∈ s, ¬ IsW c) :
    hasStopwatchTrigger s = false := by
  rw [Bool.eq_false_iff, ne_eq, hasStopwatchTrigger, hasAnySubstring_iff]
  rintro ⟨keyword, hkeyword, hfound⟩
  refine h 'w' (hfound.subset ?_) (Or.inl rfl)
  simp only [stopwatchRequestTriggers, List.mem_cons, List.not_mem_nil, or_false] at hkeyword
  rcases hkeyword with rfl | rfl <;> decide

theorem isStopwatchStopRequest_of_cancel (h : parseTimerCancelArgs u message ≠ .ok none) :
    isStopwatchStopRequest u message = false := by
  have hlower := not_isW_of_mem_lower (u := u) (not_isW_of_mem_cancel h)
  rw [isStopwatchStopRequest, normalizeStopwatchSpelling_of_not_isW hlower,
    not_hasStopwatchTrigger_of_not_isW hlower, Bool.false_and]

theorem parseStopwatchRenameArgs_of_timer (h : parseTimerRenameArgs u message ≠ .ok none) :
    parseStopwatchRenameArgs u message = .ok none := by
  by_contra hne
  exact not_renameWords_both (renameWords_of_parse (by decide) h)
    (renameWords_of_parse (by decide) hne)

theorem parseTimerRenameArgs_of_stopwatch (h : parseStopwatchRenameArgs u message ≠ .ok none) :
    parseTimerRenameArgs u message = .ok none := by
  by_contra hne
  exact not_renameWords_both (renameWords_of_parse (by decide) hne)
    (renameWords_of_parse (by decide) h)

theorem parseRenameArgs_of_first {noun idGroup : String} (hnoun : Solid noun) {x c : Char}
    {rest : Text} (hs : normalizeRenameCommandMessage message = c :: rest)
    (hx : x.toNat < 128) (hne : x ≠ 'r') (hfold : foldsTo x c = true) :
    parseRenameArgs u (renameByIdQuotedRe u noun idGroup) (renameByIdUnquotedRe u noun idGroup)
      (renameByLabelRe noun) idGroup message = .ok none := by
  by_contra hparse
  have hletters : "rename".toList = 'r' :: ['e', 'n', 'a', 'm', 'e'] := rfl
  obtain ⟨d, rest', hcons, hr⟩ :=
    exists_cons_of_spells hletters (renameWords_of_parse hnoun hparse).1
  rw [hs] at hcons
  obtain ⟨rfl, -⟩ := List.cons.inj hcons
  exact hne (eq_of_foldsTo hx (by decide) hfold hr)

theorem exists_cons_of_parseTimerCancelArgs (h : parseTimerCancelArgs u message ≠ .ok none) :
    ∃ c rest, normalizeRenameCommandMessage message = c :: rest ∧ foldsTo 'c' c = true := by
  have hletters : "cancel".toList = 'c' :: ['a', 'n', 'c', 'e', 'l'] := rfl
  exact exists_cons_of_spells hletters (leadingWords_of_matchPrefix (by decide) (by decide)
    (matchPrefix_of_parseCommandArgs h)).1

theorem parseStopwatchStopArgs_of_cancel (h : parseTimerCancelArgs u message ≠ .ok none) :
    parseStopwatchStopArgs u message = .ok none := by
  by_contra hne
  obtain ⟨c, rest, hc, hfold⟩ := exists_cons_of_parseTimerCancelArgs h
  obtain ⟨d, rest', hd, hfold'⟩ := exists_cons_of_parseStopwatchStopArgs hne
  rw [hc] at hd
  obtain ⟨rfl, -⟩ := List.cons.inj hd
  exact absurd (eq_of_foldsTo (by decide) (by decide) hfold hfold') (by decide)

end NanoCore.Timers.CommandShapes
