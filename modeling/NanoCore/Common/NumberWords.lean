import NanoCore.Common.DurationMatches

namespace NanoCore.Common.NumberWords

open NanoCore.Foundation.PythonText
open NanoCore.Foundation.Regex
open NanoCore.Foundation.RegexSearch
open NanoCore.Foundation.PythonRegex
open NanoCore.Common.Duration
open NanoCore.Common.DurationMatches

def vocabulary : List String :=
  smallNumberWords.map Prod.fst ++ tensNumberWords.map Prod.fst ++ ["hundred", "and"]

def isSeparator (c : Char) : Bool := isSpace c || c == '-'

/-- One round of the number words in the word pattern. -/
inductive IsPiece : Text → Prop where
  | word (w : String) (hw : w ∈ ["a", "an"] ++ vocabulary) : IsPiece w.toList
  | separator (c : Char) (hc : isSeparator c = true) : IsPiece [c]

theorem isLower_of_mem {w : String} (h : w ∈ ["a", "an"] ++ vocabulary) :
    w.toList ≠ [] ∧ ∀ c ∈ w.toList, IsLower c := by
  have hall : ((["a", "an"] ++ vocabulary).all fun w => !w.toList.isEmpty &&
      w.toList.all fun c => decide (IsLower c)) = true := by decide
  have h := List.all_eq_true.mp hall w h
  rw [Bool.and_eq_true] at h
  exact ⟨by simpa using h.1, forall_mem_of_all h.2⟩

theorem mem_vocabulary {w : String} (h : w ∈ vocabulary) : w ∈ ["a", "an"] ++ vocabulary :=
  List.mem_append_right _ h

theorem not_isSeparator_of_isLower {c : Char} (h : IsLower c) : isSeparator c = false := by
  have hc := lt_of_isLower h
  revert h
  refine ascii_forall (P := fun c => IsLower c → isSeparator c = false) ?_ c hc
  decide

theorem not_isSpace_of_isLower {c : Char} (h : IsLower c) : isSpace c = false :=
  (Bool.or_eq_false_iff.mp (not_isSeparator_of_isLower h)).1

section Pattern

variable {u : PyData}

theorem isPiece_of_matches {before w after : Text}
    (h : Matches (numberWordPattern u) before w after) : IsPiece w := by
  rcases h with h | h | h
  · simp only [articlePattern, matches_seqs_cons, matches_wordBoundary, matches_lit,
      matches_seqs_nil] at h
    obtain ⟨_, _, rfl, ⟨rfl, -⟩, _, _, rfl, rfl, _, _, rfl, hn, _, _, rfl, ⟨rfl, -⟩, rfl⟩ := h
    rcases hn with hn | rfl
    · obtain rfl := matches_lit.mp hn
      exact .word "an" (by simp)
    · exact .word "a" (by simp)
  · obtain ⟨word, hword, rfl⟩ := matches_litAlts.mp h
    have hcases : word ∈ vocabulary ∨ word = "-" := by
      simpa [vocabulary, or_assoc] using hword
    rcases hcases with hword | rfl
    · exact .word word (mem_vocabulary hword)
    · exact .separator '-' rfl
  · obtain ⟨c, hc, rfl⟩ := matches_space.mp h
    exact .separator c (by rw [isSeparator, hc, Bool.true_or])

theorem matches_word_of_mem {w : String} (h : w ∈ vocabulary) (before after : Text) :
    Matches (numberWordPattern u) before w.toList after := by
  refine .inr (.inl (matches_litAlts.mpr ⟨w, ?_, rfl⟩))
  have hmem : w ∈ vocabulary ++ ["-"] := List.mem_append_left _ h
  simpa [vocabulary] using hmem

theorem matches_separator {c : Char} (h : isSeparator c = true) (before after : Text) :
    Matches (numberWordPattern u) before [c] after := by
  rcases Bool.or_eq_true_iff.mp h with hspace | hhyphen
  · exact .inr (.inr (matches_space.mpr ⟨c, hspace, rfl⟩))
  · obtain rfl := eq_of_beq hhyphen
    exact .inr (.inl (matches_litAlts.mpr ⟨"-", by simp, rfl⟩))

end Pattern

theorem not_isPrefix_unit {w : String} (hw : w ∈ ["a", "an"] ++ vocabulary) {unit : Text}
    (hunit : IsUnit unit) : ¬ w.toList <+: unit := by
  obtain ⟨entry, hentry, rfl⟩ := hunit
  have hall : ((["a", "an"] ++ vocabulary).all fun w => unitAliases.all fun e =>
      !w.toList.isPrefixOf e.1.toList) = true := by decide +kernel
  have h := List.all_eq_true.mp (List.all_eq_true.mp hall w hw) entry hentry
  rw [← List.isPrefixOf_iff_prefix, Bool.not_eq_true]
  exact (Bool.not_eq_true' _).mp h

theorem not_isSuffix_word {w : String} (hw : w ∈ vocabulary) {unit : Text}
    (hunit : IsUnit unit) : ¬ unit <:+ w.toList := by
  obtain ⟨entry, hentry, rfl⟩ := hunit
  have hall : (vocabulary.all fun w => unitAliases.all fun e =>
      !e.1.toList.isSuffixOf w.toList) = true := by decide +kernel
  have h := List.all_eq_true.mp (List.all_eq_true.mp hall w hw) entry hentry
  rw [← List.isSuffixOf_iff_suffix, Bool.not_eq_true]
  exact (Bool.not_eq_true' _).mp h

/-- Words of the vocabulary, each ended by a separator or by the end of the text. -/
inductive Phrase : List Text → Text → Prop where
  | nil : Phrase [] []
  | separator (c : Char) (tokens : List Text) (s : Text) (hc : isSeparator c = true)
      (hs : Phrase tokens s) : Phrase tokens (c :: s)
  | word (w : String) (tokens : List Text) (s : Text) (hw : w ∈ vocabulary)
      (hend : s.head?.all isSeparator = true) (hs : Phrase tokens s) :
      Phrase (w.toList :: tokens) (w.toList ++ s)

theorem phrase_spaces {sp : Text} (h : ∀ c ∈ sp, isSpace c = true) : Phrase [] sp := by
  induction sp with
  | nil => exact .nil
  | cons c sp ih =>
      refine .separator c [] sp ?_ (ih fun d hd => h d (List.mem_cons_of_mem c hd))
      rw [isSeparator, h c List.mem_cons_self, Bool.true_or]

theorem Phrase.starMatches {u : PyData} {tokens : List Text} {s : Text} (h : Phrase tokens s) :
    ∀ before after, StarMatches (Matches (numberWordPattern u)) before s after := by
  induction h with
  | nil => exact .nil
  | separator c tokens s hc _ ih =>
      intro before after
      exact .step before [c] s after (by simp) (matches_separator hc _ _) (ih _ _)
  | word w tokens s hw _ _ ih =>
      intro before after
      exact .step before w.toList s after (isLower_of_mem (mem_vocabulary hw)).1
        (matches_word_of_mem hw _ _) (ih _ _)

theorem Phrase.matches_plus {u : PyData} {tokens : List Text} {s : Text} (h : Phrase tokens s)
    (hne : s ≠ []) (before after : Text) :
    Matches (plus true (numberWordPattern u)) before s after := by
  have hstar := h.starMatches (u := u) before after
  cases hstar with
  | nil => exact absurd rfl hne
  | step _ v w _ _ hround hrest => exact ⟨v, w, rfl, hround, hrest⟩

/-- No unit ends inside a phrase. -/
theorem Phrase.not_closed_unit {u : PyData} {tokens : List Text} {s : Text}
    (h : Phrase tokens s) {unit : Text} (hunit : IsUnit unit) :
    ∀ x y, s = x ++ (unit ++ y) → wordEdge u y = true := by
  induction h with
  | nil =>
      intro x y hs
      exact absurd (List.append_eq_nil_iff.mp (List.append_eq_nil_iff.mp hs.symm).2).1
        hunit.isLower.1
  | separator c tokens s hc _ ih =>
      intro x y hs
      rcases x with _ | ⟨d, x⟩
      · obtain ⟨d, unit', rfl⟩ := List.exists_cons_of_ne_nil hunit.isLower.1
        obtain ⟨rfl, -⟩ := List.cons.inj hs
        rw [not_isSeparator_of_isLower (hunit.isLower.2 c List.mem_cons_self)] at hc
        exact Bool.noConfusion hc
      · exact ih x y (List.cons.inj hs).2
  | word w tokens s hw hend _ ih =>
      intro x y hs
      rcases List.append_eq_append_iff.mp hs with ⟨e, rfl, hrest⟩ | ⟨e, hword, hrest⟩
      · exact ih e y hrest
      · rcases List.append_eq_append_iff.mp hrest with ⟨f, rfl, rfl⟩ | ⟨f, rfl, rfl⟩
        · -- the unit ends in the word, before `f`
          rcases f with _ | ⟨d, f⟩
          · rw [List.append_nil] at hword
            exact absurd ⟨x, hword.symm⟩ (not_isSuffix_word hw hunit)
          · have hd : d ∈ w.toList := by
              rw [hword]
              simp
            exact isWord_of_isLower u ((isLower_of_mem (mem_vocabulary hw)).2 d hd)
        · -- the unit goes on behind the word, with `f`
          rcases f with _ | ⟨d, f⟩
          · rw [List.append_nil] at hunit
            exact absurd ⟨x, hword.symm⟩ (not_isSuffix_word hw hunit)
          · have hd := not_isSeparator_of_isLower (hunit.isLower.2 d (by simp))
            rw [List.cons_append, List.head?_cons, Option.all_some, hd] at hend
            exact Bool.noConfusion hend

section Reading

variable {u : PyData}

/-- Two words before the same kind of edge are the same. -/
theorem eq_of_append_eq_append {p : Char → Bool} {x y x' y' : Text}
    (hx : ∀ c ∈ x, p c = true) (hx' : ∀ c ∈ x', p c = true)
    (hy : y.head?.any p = false) (hy' : y'.head?.any p = false)
    (h : x ++ y = x' ++ y') : x = x' ∧ y = y' := by
  have htake : ∀ v w : Text, (∀ c ∈ v, p c = true) → w.head?.any p = false →
      (v ++ w).takeWhile p = v := by
    intro v w hv hw
    rw [List.takeWhile_append_of_pos hv]
    rcases w with _ | ⟨c, w⟩
    · simp
    · rw [List.takeWhile_cons_of_neg (by simpa using hw), List.append_nil]
  have hsame : x = x' := by rw [← htake x y hx hy, h, htake x' y' hx' hy']
  exact ⟨hsame, List.append_cancel_left (hsame ▸ h)⟩

/-- A separator inside a piece is the whole piece. -/
theorem IsPiece.eq_nil_of_separator {x e : Text} {c : Char} (h : IsPiece (x ++ c :: e))
    (hc : isSeparator c = true) : e = [] := by
  obtain ⟨piece, hpiece⟩ : ∃ piece, piece = x ++ c :: e := ⟨_, rfl⟩
  rw [← hpiece] at h
  cases h with
  | word w hw =>
      have hlower := (isLower_of_mem hw).2 c (by rw [hpiece]; simp)
      rw [not_isSeparator_of_isLower hlower] at hc
      exact Bool.noConfusion hc
  | separator d hd =>
      have hlength := congrArg List.length hpiece
      simp only [List.length_cons, List.length_nil, List.length_append] at hlength
      exact List.eq_nil_of_length_eq_zero (by omega)

/-- Rounds that read on behind a place where a separator ends, or where they
start, begin a round there. -/
theorem exists_piece_of_starMatches {before w after : Text}
    (h : StarMatches (Matches (numberWordPattern u)) before w after) :
    ∀ R z sp : Text, w ++ sp = R ++ z → (∀ c ∈ sp, isSpace c = true) →
      R.getLast?.all isSeparator = true → z ≠ [] → z.head?.any isSpace = false →
      ∃ piece, piece ≠ [] ∧ IsPiece piece ∧ piece <+: z := by
  induction h with
  | nil before after =>
      intro R z sp hw hsp _ hz hhead
      obtain ⟨c, z, rfl⟩ := List.exists_cons_of_ne_nil hz
      have hc : isSpace c = true := hsp c (by rw [List.nil_append] at hw; rw [hw]; simp)
      rw [List.head?_cons, Option.any_some, hc] at hhead
      exact Bool.noConfusion hhead
  | step before v w after hne hround _ ih =>
      intro R z sp hw hsp hlast hz hhead
      rw [List.append_assoc] at hw
      rcases List.append_eq_append_iff.mp hw with ⟨e, rfl, hrest⟩ | ⟨e, rfl, hrest⟩
      · refine ih e z sp hrest hsp ?_ hz hhead
        rcases List.eq_nil_or_concat' e with rfl | ⟨e, c, rfl⟩
        · rfl
        · simpa [List.getLast?_append] using hlast
      · rcases List.eq_nil_or_concat' R with rfl | ⟨R, c, rfl⟩
        · exact ⟨e, hne, isPiece_of_matches hround, w ++ sp, hrest.symm⟩
        · have hc : isSeparator c = true := by simpa using hlast
          have hpiece := isPiece_of_matches hround
          rw [List.append_assoc] at hpiece
          obtain rfl := hpiece.eq_nil_of_separator hc
          exact ih [] z sp hrest.symm hsp rfl hz hhead

theorem starMatches_of_plus {before w after : Text}
    (h : Matches (plus true (numberWordPattern u)) before w after) :
    StarMatches (Matches (numberWordPattern u)) before w after := by
  obtain ⟨v, w, rfl, hround, hstar⟩ := h
  refine .step before v w after ?_ hround hstar
  intro hnil
  rcases isPiece_of_matches hround with ⟨word, hword⟩ | ⟨c, -⟩
  · exact (isLower_of_mem hword).1 hnil
  · exact absurd hnil (List.cons_ne_nil c [])

theorem IsPiece.isLower_or_isSeparator {piece : Text} (h : IsPiece piece) :
    ∀ c ∈ piece, IsLower c ∨ isSeparator c = true := by
  cases h with
  | word w hw => exact fun c hc => .inl ((isLower_of_mem hw).2 c hc)
  | separator d hd =>
      intro c hc
      rw [List.mem_singleton.mp hc]
      exact .inr hd

theorem isLower_or_isSeparator_of_starMatches {before w after : Text}
    (h : StarMatches (Matches (numberWordPattern u)) before w after) :
    ∀ c ∈ w, IsLower c ∨ isSeparator c = true := by
  induction h with
  | nil => exact fun c hc => absurd hc List.not_mem_nil
  | step before v w after _ hround _ ih =>
      intro c hc
      rcases List.mem_append.mp hc with hc | hc
      · exact (isPiece_of_matches hround).isLower_or_isSeparator c hc
      · exact ih c hc

/-- The letters of a duration in words. -/
theorem isLower_or_isSeparator_of_shape {before amount sp unit after : Text}
    (h : Shape u (plus true (numberWordPattern u)) before amount sp unit after) :
    ∀ c ∈ amount ++ (sp ++ unit), IsLower c ∨ isSeparator c = true := by
  intro c hc
  rw [List.mem_append, List.mem_append] at hc
  rcases hc with hc | hc | hc
  · exact isLower_or_isSeparator_of_starMatches (starMatches_of_plus h.amount) c hc
  · exact .inr (by rw [isSeparator, h.spaces c hc, Bool.true_or])
  · exact .inl (h.unit.isLower.2 c hc)

/-- No round begins at a unit. -/
theorem not_isPiece_at_unit {piece unit rest : Text} (hne : piece ≠ []) (hpiece : IsPiece piece)
    (hunit : IsUnit unit) (hrest : wordEdge u rest = false) : ¬ piece <+: unit ++ rest := by
  rintro ⟨t, ht⟩
  cases hpiece with
  | word w hw =>
      rcases List.append_eq_append_iff.mp ht with ⟨f, rfl, -⟩ | ⟨f, hsplit, rfl⟩
      · exact not_isPrefix_unit hw hunit (List.prefix_append _ _)
      · rcases f with _ | ⟨c, f⟩
        · rw [List.append_nil] at hsplit
          exact not_isPrefix_unit hw hunit (by rw [hsplit])
        · have hc : IsLower c := (isLower_of_mem hw).2 c (by rw [hsplit]; simp)
          exact absurd (hrest.symm.trans (isWord_of_isLower u hc)) (by decide)
  | separator c hc =>
      obtain ⟨d, unit', rfl⟩ := List.exists_cons_of_ne_nil hunit.isLower.1
      obtain ⟨rfl, -⟩ := List.cons.inj ht
      rw [not_isSeparator_of_isLower (hunit.isLower.2 c List.mem_cons_self)] at hc
      exact Bool.noConfusion hc

/-- What the word pattern reads from the start of a phrase that a separator
ends: all of the phrase and the unit behind it. -/
theorem eq_of_shape {before R unit rest amount sp unit' after : Text} {tokens : List Text}
    (hR : Phrase tokens R) (hlast : R.getLast?.all isSeparator = true) (hunit : IsUnit unit)
    (hrest : wordEdge u rest = false)
    (hshape : Shape u (plus true (numberWordPattern u)) before amount sp unit' after)
    (htext : amount ++ (sp ++ (unit' ++ after)) = R ++ (unit ++ rest)) :
    amount ++ sp = R ∧ unit' = unit ∧ after = rest := by
  have hunit' := hshape.unit
  have hsame : unit' ++ after = unit ++ rest → unit' = unit ∧ after = rest :=
    fun h => eq_of_append_eq_append (hunit'.isWordText u).2 (hunit.isWordText u).2
      hshape.closed hrest h
  rw [← List.append_assoc] at htext
  rcases List.append_eq_append_iff.mp htext with ⟨e, rfl, hsplit⟩ | ⟨e, hsplit, hunits⟩
  · rcases List.append_eq_append_iff.mp hsplit with ⟨f, rfl, rfl⟩ | ⟨f, rfl, hrest'⟩
    · -- the unit read ends inside the phrase
      have hclosed := hshape.closed
      have hopen := hR.not_closed_unit (u := u) hunit' (amount ++ sp) f (by simp)
      rcases f with _ | ⟨c, f⟩
      · exact Bool.noConfusion hopen
      · exact absurd (hclosed.symm.trans hopen) (by decide)
    · rcases List.eq_nil_or_concat' e with rfl | ⟨e, c, rfl⟩
      · obtain ⟨hunits, hafter⟩ := hsame hsplit
        exact ⟨by rw [List.append_nil], hunits, hafter⟩
      · -- the unit read contains the end of the phrase
        have hc : isSeparator c = true := by simpa using hlast
        rw [not_isSeparator_of_isLower (hunit'.isLower.2 c (by simp))] at hc
        exact Bool.noConfusion hc
  · rcases e with _ | ⟨c, e⟩
    · rw [List.nil_append] at hunits
      rw [List.append_nil] at hsplit
      exact ⟨hsplit, hsame hunits.symm⟩
    · -- the amount read goes on behind the phrase
      obtain ⟨d, letters, hletters⟩ := List.exists_cons_of_ne_nil hunit.isLower.1
      have hcd : c = d := by
        rw [hletters] at hunits
        exact (List.cons.inj hunits).1.symm
      have hd : IsLower d := hunit.isLower.2 d (by rw [hletters]; simp)
      obtain ⟨piece, hne, hpiece, hstarts⟩ := exists_piece_of_starMatches
        (starMatches_of_plus hshape.amount) R (c :: e) sp hsplit hshape.spaces hlast
        (List.cons_ne_nil c e) (by simpa [hcd] using not_isSpace_of_isLower hd)
      refine absurd (hstarts.trans ?_) (not_isPiece_at_unit hne hpiece hunit hrest)
      exact ⟨unit' ++ after, hunits.symm⟩

end Reading

theorem replaceChar_append (old new : Char) (s t : Text) :
    replaceChar old new (s ++ t) = replaceChar old new s ++ replaceChar old new t :=
  List.map_append

theorem isSpace_replace_of_isSeparator {c : Char} (h : isSeparator c = true) :
    isSpace (if c = '-' then ' ' else c) = true := by
  split
  · rfl
  · rename_i hne
    exact (Bool.or_eq_true_iff.mp h).resolve_right fun heq => hne (eq_of_beq heq)

theorem replaceChar_word {w : Text} (h : ∀ c ∈ w, IsLower c) : replaceChar '-' ' ' w = w := by
  refine List.map_congr_left (fun c hc => ?_) |>.trans (List.map_id w)
  have hne : c ≠ '-' := by
    rintro rfl
    exact absurd (h '-' hc).1 (by decide)
  simp [hne]

/-- The words of a phrase are its tokens. -/
theorem Phrase.splitWords_eq {tokens : List Text} {s : Text} (h : Phrase tokens s) :
    splitWords (replaceChar '-' ' ' s) = tokens := by
  induction h with
  | nil => rfl
  | separator c tokens s hc _ ih =>
      have hsplit := splitWords_append_cons (isSpace_replace_of_isSeparator hc) []
        (replaceChar '-' ' ' s)
      exact hsplit.trans ih
  | word w tokens s hw hend _ ih =>
      obtain ⟨hne, hlower⟩ := isLower_of_mem (mem_vocabulary hw)
      have hword := splitWords_word hne fun c hc => not_isSpace_of_isLower (hlower c hc)
      rw [replaceChar_append, replaceChar_word hlower]
      rcases s with _ | ⟨c, s⟩
      · obtain rfl : tokens = [] := ih.symm
        rw [show replaceChar '-' ' ' [] = [] from rfl, List.append_nil, hword]
      · have hc : isSeparator c = true := by simpa using hend
        have hspace := isSpace_replace_of_isSeparator hc
        have htokens : splitWords (replaceChar '-' ' ' s) = tokens :=
          (splitWords_append_cons hspace [] (replaceChar '-' ' ' s)).symm.trans ih
        have hsplit := splitWords_append_cons hspace w.toList (replaceChar '-' ' ' s)
        rw [hword, htokens] at hsplit
        exact hsplit

/-- Tokens that can stand before every phrase. -/
def Opens (tokens : List Text) (text : Text) : Prop :=
  ∀ rest s, s.head?.all isSeparator = true → Phrase rest s → Phrase (tokens ++ rest) (text ++ s)

theorem Opens.phrase {tokens : List Text} {text : Text} (h : Opens tokens text) :
    Phrase tokens text := by
  have hphrase := h [] [] rfl .nil
  rwa [List.append_nil, List.append_nil] at hphrase

theorem opens_word {w : String} (hw : w ∈ vocabulary) : Opens [w.toList] w.toList :=
  fun rest s hend hs => .word w rest s hw hend hs

theorem Opens.link {tokens tokens' : List Text} {text text' : Text} {c : Char}
    (h : Opens tokens text) (hc : isSeparator c = true) (h' : Opens tokens' text') :
    Opens (tokens ++ tokens') (text ++ c :: text') := by
  intro rest s hend hs
  rw [List.append_assoc, List.append_assoc]
  exact h (tokens' ++ rest) (c :: (text' ++ s)) hc (.separator c _ _ hc (h' rest s hend hs))

/-- A number from one to ninety-nine in words. -/
inductive SpellsBelowHundred : Nat → Text → Prop where
  | small (w : String) (n : Nat) (hw : (w, n) ∈ smallNumberWords) (hn : n ≠ 0) :
      SpellsBelowHundred n w.toList
  | tens (w : String) (n : Nat) (hw : (w, n) ∈ tensNumberWords) : SpellsBelowHundred n w.toList
  | tensAndOnes (w : String) (n : Nat) (link : Char) (w' : String) (n' : Nat)
      (hw : (w, n) ∈ tensNumberWords) (hlink : link = '-' ∨ link = ' ')
      (hw' : (w', n') ∈ smallNumberWords) (hn' : 1 ≤ n' ∧ n' ≤ 9) :
      SpellsBelowHundred (n + n') (w.toList ++ link :: w'.toList)

/-- A number from one to nine hundred and ninety-nine in words. -/
inductive SpellsNumber : Nat → Text → Prop where
  | belowHundred (n : Nat) (text : Text) (h : SpellsBelowHundred n text) : SpellsNumber n text
  | hundreds (w : String) (n : Nat) (hw : (w, n) ∈ smallNumberWords) (hn : 1 ≤ n ∧ n ≤ 9) :
      SpellsNumber (n * 100) (w.toList ++ " hundred".toList)
  | hundredsAnd (w : String) (n : Nat) (link : String) (n' : Nat) (text : Text)
      (hw : (w, n) ∈ smallNumberWords) (hn : 1 ≤ n ∧ n ≤ 9)
      (hlink : link = " " ∨ link = " and ") (h : SpellsBelowHundred n' text) :
      SpellsNumber (n * 100 + n') (w.toList ++ (" hundred".toList ++ (link.toList ++ text)))

def numberWords : List (String × Nat) := smallNumberWords ++ tensNumberWords

theorem mem_vocabulary_of_numberWords {w : String} {n : Nat} (h : (w, n) ∈ numberWords) :
    w ∈ vocabulary := by
  have hmap : w ∈ numberWords.map Prod.fst := List.mem_map_of_mem h
  rw [numberWords, List.map_append] at hmap
  exact List.mem_append_left _ hmap

/-- A number word is added to the running value. -/
theorem addNumberWords_cons {w : String} {n : Nat} (h : (w, n) ∈ numberWords) (k : Nat)
    (rest : List Text) : addNumberWords k (w.toList :: rest) = addNumberWords (k + n) rest := by
  have hall : (numberWords.all fun e =>
      !(e.1.toList = "a".toList ∨ e.1.toList = "an".toList : Bool) &&
        (lookupWord smallNumberWords e.1.toList = some e.2 ∨
          lookupWord smallNumberWords e.1.toList = none ∧
            lookupWord tensNumberWords e.1.toList = some e.2 : Bool)) = true := by decide +kernel
  have h := List.all_eq_true.mp hall (w, n) h
  simp only [Bool.and_eq_true, Bool.not_eq_true', decide_eq_false_iff_not,
    decide_eq_true_eq] at h
  rw [addNumberWords, if_neg h.1]
  rcases h.2 with hsmall | ⟨hsmall, htens⟩
  · rw [hsmall]
  · rw [hsmall, htens]

theorem addNumberWords_hundred {k : Nat} (hk : k ≠ 0) (rest : List Text) :
    addNumberWords k ("hundred".toList :: rest) = addNumberWords (k * 100) rest := by
  rw [addNumberWords, if_neg (by decide)]
  have hsmall : lookupWord smallNumberWords "hundred".toList = none := by decide
  have htens : lookupWord tensNumberWords "hundred".toList = none := by decide
  rw [hsmall, htens]
  simp only [if_true, if_neg hk]

/-- The tokens that `_words_to_number` looks at. -/
def counted (tokens : List Text) : List Text := tokens.filter fun token => token != "and".toList

theorem counted_append (tokens tokens' : List Text) :
    counted (tokens ++ tokens') = counted tokens ++ counted tokens' :=
  List.filter_append tokens tokens'

theorem counted_number {w : String} {n : Nat} (h : (w, n) ∈ numberWords) :
    counted [w.toList] = [w.toList] := by
  have hall : (numberWords.all fun e => e.1.toList != "and".toList) = true := by decide
  exact List.filter_cons_of_pos (List.all_eq_true.mp hall (w, n) h)

theorem wordsToNumber_eq {raw : Text} {tokens : List Text}
    (h : splitWords (replaceChar '-' ' ' raw) = tokens) (hne : counted tokens ≠ []) :
    wordsToNumber raw = addNumberWords 0 (counted tokens) := by
  change (let tokens := counted (splitWords (replaceChar '-' ' ' raw))
    if tokens.isEmpty then none
    else if tokens = ["a".toList] ∨ tokens = ["an".toList] then some 1
    else addNumberWords 0 tokens) = _
  rw [h]
  dsimp only
  rw [if_neg (by simpa using hne)]
  split
  · rename_i harticle
    rcases harticle with h | h <;> rw [h] <;> rfl
  · rfl

theorem exists_tokens_of_spellsBelowHundred {n : Nat} {text : Text}
    (h : SpellsBelowHundred n text) :
    ∃ tokens, Opens tokens text ∧ counted tokens ≠ [] ∧
      ∀ k, addNumberWords k (counted tokens) = some (k + n) := by
  have hone : ∀ {w : String} {n : Nat}, (w, n) ∈ numberWords →
      Opens [w.toList] w.toList ∧ counted [w.toList] ≠ [] ∧
        ∀ k, addNumberWords k (counted [w.toList]) = some (k + n) := by
    intro w n hw
    rw [counted_number hw]
    exact ⟨opens_word (mem_vocabulary_of_numberWords hw), List.cons_ne_nil _ _,
      fun k => addNumberWords_cons hw k []⟩
  cases h with
  | small w n hw hn => exact ⟨_, hone (List.mem_append_left _ hw)⟩
  | tens w n hw => exact ⟨_, hone (List.mem_append_right _ hw)⟩
  | tensAndOnes w n link w' n' hw hlink hw' hn' =>
      have hw : (w, n) ∈ numberWords := List.mem_append_right _ hw
      obtain ⟨hopens, -, -⟩ := hone hw
      obtain ⟨hopens', -, hvalue'⟩ := hone (List.mem_append_left tensNumberWords hw')
      have hseparator : isSeparator link = true := by
        rcases hlink with rfl | rfl <;> rfl
      refine ⟨_, hopens.link hseparator hopens', ?_, fun k => ?_⟩
      · rw [counted_append, counted_number hw]
        exact List.cons_ne_nil _ _
      · rw [counted_append, counted_number hw, List.singleton_append, addNumberWords_cons hw,
          hvalue', Nat.add_assoc]

section Hundreds

variable {w : String} {n : Nat}

theorem opens_hundreds (hw : (w, n) ∈ smallNumberWords) :
    Opens ([w.toList] ++ ["hundred".toList]) (w.toList ++ " hundred".toList) := by
  have hw : (w, n) ∈ numberWords := List.mem_append_left _ hw
  have hhundred : Opens ["hundred".toList] "hundred".toList := opens_word (by decide)
  exact (opens_word (mem_vocabulary_of_numberWords hw)).link (c := ' ') rfl hhundred

theorem counted_hundreds (hw : (w, n) ∈ smallNumberWords) :
    counted ([w.toList] ++ ["hundred".toList]) = [w.toList, "hundred".toList] := by
  rw [counted_append, counted_number (List.mem_append_left tensNumberWords hw)]
  rfl

theorem addNumberWords_hundreds (hw : (w, n) ∈ smallNumberWords) (hn : 1 ≤ n)
    (rest : List Text) : addNumberWords 0 ([w.toList, "hundred".toList] ++ rest) =
      addNumberWords (n * 100) rest := by
  have hw : (w, n) ∈ numberWords := List.mem_append_left _ hw
  rw [List.cons_append, List.cons_append, addNumberWords_cons hw, Nat.zero_add,
    addNumberWords_hundred (by omega), List.nil_append]

end Hundreds

/-- A number in words consists of tokens that add up to it. -/
theorem exists_tokens_of_spellsNumber {n : Nat} {text : Text} (h : SpellsNumber n text) :
    ∃ tokens, Opens tokens text ∧ counted tokens ≠ [] ∧
      addNumberWords 0 (counted tokens) = some n := by
  cases h with
  | belowHundred n text h =>
      obtain ⟨tokens, hopens, hne, hvalue⟩ := exists_tokens_of_spellsBelowHundred h
      exact ⟨tokens, hopens, hne, by rw [hvalue, Nat.zero_add]⟩
  | hundreds w n hw hn =>
      refine ⟨_, opens_hundreds hw, ?_, ?_⟩
      · rw [counted_hundreds hw]
        exact List.cons_ne_nil _ _
      · rw [counted_hundreds hw]
        exact addNumberWords_hundreds hw hn.1 []
  | hundredsAnd w n link n' text hw hn hlink h =>
      obtain ⟨tokens, hrest, hne, hvalue⟩ := exists_tokens_of_spellsBelowHundred h
      have hlinked : ∃ tokens', Opens tokens' (w.toList ++ (" hundred".toList ++
          (link.toList ++ text))) ∧
          counted tokens' = [w.toList, "hundred".toList] ++ counted tokens := by
        rcases hlink with rfl | rfl
        · have hopens := (opens_hundreds hw).link (c := ' ') rfl hrest
          rw [List.append_assoc w.toList] at hopens
          exact ⟨_, hopens, by rw [counted_append, counted_hundreds hw]⟩
        · have hand : Opens ["and".toList] "and".toList := opens_word (by decide)
          have hopens := (opens_hundreds hw).link (c := ' ') rfl (hand.link (c := ' ') rfl hrest)
          rw [List.append_assoc w.toList] at hopens
          refine ⟨_, hopens, ?_⟩
          rw [counted_append, counted_append ["and".toList], counted_hundreds hw]
          rfl
      obtain ⟨tokens', hopens', hcounted'⟩ := hlinked
      refine ⟨tokens', hopens', ?_, ?_⟩
      · rw [hcounted']
        exact List.cons_ne_nil _ _
      · rw [hcounted', addNumberWords_hundreds hw hn.1, hvalue]

theorem SpellsNumber.exists_phrase {n : Nat} {text : Text} (h : SpellsNumber n text) :
    ∃ tokens, Phrase tokens text := by
  obtain ⟨tokens, hopens, -⟩ := exists_tokens_of_spellsNumber h
  exact ⟨tokens, hopens.phrase⟩

theorem exists_word_of_spellsNumber {n : Nat} {text : Text} (h : SpellsNumber n text) :
    ∃ w ∈ vocabulary, ∃ rest, text = w.toList ++ rest := by
  have hsmall : ∀ {w : String} {n : Nat}, (w, n) ∈ smallNumberWords → w ∈ vocabulary :=
    fun hw => mem_vocabulary_of_numberWords (List.mem_append_left tensNumberWords hw)
  have htens : ∀ {w : String} {n : Nat}, (w, n) ∈ tensNumberWords → w ∈ vocabulary :=
    fun hw => mem_vocabulary_of_numberWords (List.mem_append_right smallNumberWords hw)
  cases h with
  | belowHundred n text h =>
      cases h with
      | small w n hw hn => exact ⟨w, hsmall hw, [], (List.append_nil _).symm⟩
      | tens w n hw => exact ⟨w, htens hw, [], (List.append_nil _).symm⟩
      | tensAndOnes w n link w' n' hw hlink hw' hn' => exact ⟨w, htens hw, _, rfl⟩
  | hundreds w n hw hn => exact ⟨w, hsmall hw, _, rfl⟩
  | hundredsAnd w n link n' text hw hn hlink h => exact ⟨w, hsmall hw, _, rfl⟩

theorem Phrase.isLower_or_isSeparator {tokens : List Text} {s : Text} (h : Phrase tokens s) :
    ∀ c ∈ s, IsLower c ∨ isSeparator c = true := by
  induction h with
  | nil => exact fun c hc => absurd hc List.not_mem_nil
  | separator d tokens s hd _ ih =>
      intro c hc
      rcases List.mem_cons.mp hc with rfl | hc
      · exact .inr hd
      · exact ih c hc
  | word w tokens s hw _ _ ih =>
      intro c hc
      rcases List.mem_append.mp hc with hc | hc
      · exact .inl ((isLower_of_mem (mem_vocabulary hw)).2 c hc)
      · exact ih c hc

end NanoCore.Common.NumberWords
