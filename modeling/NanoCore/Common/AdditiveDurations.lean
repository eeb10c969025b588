import NanoCore.Common.NumberWords

namespace NanoCore.Common.AdditiveDurations

open NanoCore.Foundation.PythonText
open NanoCore.Foundation.Regex
open NanoCore.Foundation.RegexSearch
open NanoCore.Foundation.RegexFindAll
open NanoCore.Foundation.PythonRegex
open NanoCore.Common.Duration
open NanoCore.Common.DurationMatches
open NanoCore.Common.NumberWords

def unitSeconds : DurationUnit → Nat
  | .seconds => 1
  | .minutes => 60
  | .hours => 3600

/-- One duration in lower case: decimal digits, with white space or none behind
them, or a number in words with some, and an alias of the unit. -/
inductive RendersSegment : Nat → DurationUnit → Text → Prop where
  | digits (ds sp : Text) (entry : String × DurationUnit) (hne : ds ≠ [])
      (hds : ∀ c ∈ ds, c.isDigit = true) (hlength : ds.length ≤ maxIntDigits)
      (hsp : ∀ c ∈ sp, isSpace c = true) (hentry : entry ∈ unitAliases) :
      RendersSegment (Nat.ofDigitChars 10 ds 0) entry.2 (ds ++ (sp ++ entry.1.toList))
  | words (n : Nat) (number sp : Text) (entry : String × DurationUnit)
      (hnumber : SpellsNumber n number) (hne : sp ≠ []) (hsp : ∀ c ∈ sp, isSpace c = true)
      (hentry : entry ∈ unitAliases) :
      RendersSegment n entry.2 (number ++ (sp ++ entry.1.toList))

def joiners : List Text := [" ".toList, ", ".toList, " and ".toList]

/-- Durations in lower case with joiners between them. -/
inductive Renders : List (Nat × DurationUnit) → Text → Prop where
  | single (n : Nat) (unit : DurationUnit) (text : Text) (h : RendersSegment n unit text) :
      Renders [(n, unit)] text
  | cons (n : Nat) (unit : DurationUnit) (segments : List (Nat × DurationUnit))
      (text joiner rest : Text) (h : RendersSegment n unit text) (hjoiner : joiner ∈ joiners)
      (hrest : Renders segments rest) :
      Renders ((n, unit) :: segments) (text ++ (joiner ++ rest))

def sumSeconds : List (Nat × DurationUnit) → Nat
  | [] => 0
  | (n, unit) :: segments => n * unitSeconds unit + sumSeconds segments

theorem rendersSegment_toDigits {n : Nat} {sp : Text} {entry : String × DurationUnit}
    (hlength : (Nat.toDigits 10 n).length ≤ maxIntDigits) (hsp : ∀ c ∈ sp, isSpace c = true)
    (hentry : entry ∈ unitAliases) :
    RendersSegment n entry.2 (Nat.toDigits 10 n ++ (sp ++ entry.1.toList)) := by
  have h := RendersSegment.digits (Nat.toDigits 10 n) sp entry Nat.toDigits_ne_nil
    (fun c hc => Nat.isDigit_of_mem_toDigits (by decide) (by decide) hc) hlength hsp hentry
  rwa [Nat.ofDigitChars_ten_toDigits] at h

theorem segmentToSeconds_eq (value : Nat) (unit : DurationUnit) :
    segmentToSeconds value unit = value * unitSeconds unit := by
  cases unit with
  | seconds => exact (Nat.mul_one value).symm
  | minutes => rfl
  | hours => rfl

section Digits

variable {u : PyData}

theorem isDecimal_of_isDigit {c : Char} (h : c.isDigit = true) : u.isDecimal c = true := by
  rw [PyData.isDecimal, u.decimal_ascii c (ascii_of_isDigit h), if_pos h]
  rfl

theorem not_isDecimal_of_isSpace {c : Char} (h : isSpace c = true) : u.isDecimal c = false := by
  rw [Bool.eq_false_iff]
  intro hdecimal
  have halnum := u.isAlnum_decimal c hdecimal
  rw [u.isAlnum_space c h] at halnum
  exact Bool.noConfusion halnum

theorem not_isDecimal_of_isLower {c : Char} (h : IsLower c) : u.isDecimal c = false := by
  have hc := lt_of_isLower h
  rw [PyData.isDecimal, u.decimal_ascii c hc]
  revert h
  refine ascii_forall
    (P := fun c => IsLower c → (if c.isDigit then some (c.toNat - 48) else none).isSome = false)
    ?_ c hc
  decide

theorem head_unit {p : Char → Bool} {unit : Text} (hunit : IsUnit unit) (rest : Text)
    (hp : ∀ c, IsLower c → p c = false) : (unit ++ rest).head?.any p = false := by
  obtain ⟨c, letters, rfl⟩ := List.exists_cons_of_ne_nil hunit.isLower.1
  exact hp c (hunit.isLower.2 c List.mem_cons_self)

theorem head_spaces_unit {sp unit : Text} (hsp : ∀ c ∈ sp, isSpace c = true)
    (hunit : IsUnit unit) (rest : Text) :
    (sp ++ (unit ++ rest)).head?.any u.isDecimal = false := by
  rcases sp with _ | ⟨c, sp⟩
  · exact head_unit hunit rest fun c hc => not_isDecimal_of_isLower hc
  · exact not_isDecimal_of_isSpace (hsp c List.mem_cons_self)

theorem not_isDecimal_of_isSeparator {c : Char} (h : isSeparator c = true) :
    u.isDecimal c = false := by
  rcases Bool.or_eq_true_iff.mp h with hspace | hhyphen
  · exact not_isDecimal_of_isSpace hspace
  · obtain rfl := eq_of_beq hhyphen
    rw [PyData.isDecimal, u.decimal_ascii '-' (by decide)]
    decide

/-- The digits, the white space and the unit of a duration are told apart by
their classes. -/
theorem eq_of_digitShape {before ds sp unit rest ds' sp' unit' rest' : Text}
    (h : Shape u (digits u) before ds sp unit rest)
    (h' : Shape u (digits u) before ds' sp' unit' rest')
    (htext : ds ++ (sp ++ (unit ++ rest)) = ds' ++ (sp' ++ (unit' ++ rest'))) :
    ds = ds' ∧ sp = sp' ∧ unit = unit' ∧ rest = rest' := by
  obtain ⟨hds, htext⟩ := eq_of_append_eq_append ((matches_digits u).mp h.amount).2
    ((matches_digits u).mp h'.amount).2 (head_spaces_unit h.spaces h.unit rest)
    (head_spaces_unit h'.spaces h'.unit rest') htext
  obtain ⟨hsp, htext⟩ := eq_of_append_eq_append h.spaces h'.spaces
    (head_unit h.unit rest fun c hc => not_isSpace_of_isLower hc)
    (head_unit h'.unit rest' fun c hc => not_isSpace_of_isLower hc) htext
  obtain ⟨hunit, hrest⟩ := eq_of_append_eq_append (h.unit.isWordText u).2 (h'.unit.isWordText u).2
    h.closed h'.closed htext
  exact ⟨hds, hsp, hunit, hrest⟩

/-- The digit pattern finds nothing in a stretch without digits. -/
theorem foundsFrom_skip_of_not_isDecimal {stretch : Text}
    (h : ∀ c ∈ stretch, u.isDecimal c = false) (before rest : Text) :
    foundsFrom (digitDurationPattern u) before (stretch ++ rest) =
      foundsFrom (digitDurationPattern u) (stretch.reverse ++ before) rest := by
  refine foundsFrom_skip_of_not_shape ?_
  rintro pre x post rfl amount sp unit after hshape htext
  obtain ⟨hne, hdigits⟩ := (matches_digits u).mp hshape.amount
  obtain ⟨d, ds, rfl⟩ := List.exists_cons_of_ne_nil hne
  obtain ⟨rfl, -⟩ := List.cons.inj htext
  have hd := hdigits d List.mem_cons_self
  rw [h d (by simp)] at hd
  exact Bool.noConfusion hd

/-- A joiner behind a word, or nothing at the beginning of a text or behind a
joiner. -/
def Joins (u : PyData) (before joiner : Text) : Prop :=
  (joiner = [] ∧ wordEdge u before = false) ∨ (joiner ∈ joiners ∧ wordEdge u before = true)

theorem chars_of_mem_joiners {joiner : Text} (h : joiner ∈ joiners) :
    ∀ c ∈ joiner, c ∈ [' ', ',', 'a', 'n', 'd'] := by
  simp only [joiners, List.mem_cons, List.not_mem_nil, or_false] at h
  rcases h with rfl | rfl | rfl <;> exact forall_mem_of_all (by decide)

theorem Joins.chars {before joiner : Text} (h : Joins u before joiner) :
    ∀ c ∈ joiner, c ∈ [' ', ',', 'a', 'n', 'd'] := by
  rcases h with ⟨rfl, -⟩ | ⟨h, -⟩
  · exact fun c hc => absurd hc List.not_mem_nil
  · exact chars_of_mem_joiners h

theorem Joins.not_isDecimal {before joiner : Text} (h : Joins u before joiner) :
    ∀ c ∈ joiner, u.isDecimal c = false := by
  have hall : ∀ c ∈ [' ', ',', 'a', 'n', 'd'], c.toNat < 128 ∧ c.isDigit = false :=
    forall_mem_of_all (by decide)
  intro c hc
  obtain ⟨hascii, hdigit⟩ := hall c (h.chars c hc)
  rw [PyData.isDecimal, u.decimal_ascii c hascii, hdigit]
  rfl

theorem Joins.wordEdge_eq {before joiner : Text} (h : Joins u before joiner) :
    wordEdge u (joiner.reverse ++ before) = false := by
  rcases h with ⟨rfl, hbefore⟩ | ⟨h, -⟩
  · exact hbefore
  · simp only [joiners, List.mem_cons, List.not_mem_nil, or_false] at h
    rcases h with rfl | rfl | rfl <;> exact not_isWord_of_isSpace u rfl

section Segment

variable {before joiner ds sp unit rest : Text} (hjoins : Joins u before joiner) (hne : ds ≠ [])
variable (hds : ∀ c ∈ ds, c.isDigit = true) (hsp : ∀ c ∈ sp, isSpace c = true)
variable (hunit : IsUnit unit) (hrest : wordEdge u rest = false)

include hjoins hne hds hsp hunit hrest

/-- The digit pattern finds a duration in digits. -/
theorem digits_foundsFrom_digits :
    ∃ found, foundsFrom (digitDurationPattern u) before (joiner ++ (ds ++ (sp ++ (unit ++ rest)))) =
        found :: foundsFrom (digitDurationPattern u)
          ((ds ++ (sp ++ unit)).reverse ++ (joiner.reverse ++ before)) rest ∧
      found.start = before.length + joiner.length ∧
      found.stop = found.start + (ds ++ (sp ++ unit)).length ∧
      groupText found.groups "1" = ds ∧ groupText found.groups "2" = unit := by
  have hdecimal : ∀ c ∈ ds, u.isDecimal c = true := fun c hc => isDecimal_of_isDigit (hds c hc)
  have hshape : Shape u (digits u) (joiner.reverse ++ before) ds sp unit rest := by
    refine ⟨?_, (matches_digits u).mpr ⟨hne, hdecimal⟩, hsp, hunit, hrest⟩
    rw [hjoins.wordEdge_eq,
      wordEdge_append_of_isWordText u (isWordText_of_isDecimal u hne hdecimal)]
    decide
  obtain ⟨found, sp', hfounds, hstart, hstop, hshape', hamount, hgroup⟩ :=
    foundsFrom_of_shape groupFree_digits hshape fun amount' sp' unit' after' h htext => by
      obtain ⟨rfl, rfl, rfl, rfl⟩ := eq_of_digitShape h hshape htext
      exact ⟨rfl, rfl, rfl⟩
  rw [List.length_append, List.length_reverse, Nat.add_comm] at hstart
  refine ⟨found, ?_, hstart, ?_, ?_, hgroup⟩
  · rw [foundsFrom_skip_of_not_isDecimal hjoins.not_isDecimal, digitDurationPattern_eq, hfounds]
  · rw [hstop, hstart, List.length_append, List.length_reverse]
    omega
  · refine (eq_of_digitShape hshape' hshape ?_).1
    rw [← List.append_assoc, hamount, List.append_assoc]

omit hsp hunit hrest

/-- No number word stands before the first digit of a duration. -/
theorem words_foundsFrom_skip_digits (text : Text) :
    foundsFrom (wordDurationPattern u) before (joiner ++ (ds ++ text)) =
      foundsFrom (wordDurationPattern u) (ds.reverse ++ (joiner.reverse ++ before)) text := by
  have hdigit : ∀ c ∈ ds, ¬ (IsLower c ∨ isSeparator c = true) := by
    intro c hc
    have hdigit := hds c hc
    revert hdigit
    refine ascii_forall
      (P := fun c => c.isDigit = true → ¬ (IsLower c ∨ isSeparator c = true)) ?_ c
      (ascii_of_isDigit (hds c hc))
    decide
  have hskip : foundsFrom (wordDurationPattern u) before ((joiner ++ ds) ++ text) =
      foundsFrom (wordDurationPattern u) ((joiner ++ ds).reverse ++ before) text := by
    refine foundsFrom_skip_of_not_shape ?_
    intro pre x post hstretch amount sp unit after hshape htext
    have hchars := isLower_or_isSeparator_of_shape hshape
    obtain ⟨c, hc, hinitial⟩ := hshape.unit.exists_initial
    have hjoiner : c ∉ joiner := by
      intro hmem
      have hchar := hjoins.chars c hmem
      simp only [List.mem_cons, List.not_mem_nil, or_false] at hinitial hchar
      rcases hinitial with rfl | rfl | rfl <;> exact absurd hchar (by decide)
    have hmem : c ∈ amount ++ (sp ++ unit) := by simp [hc]
    have hread : (amount ++ (sp ++ unit)) ++ after = (x :: post) ++ text := by
      rw [List.append_assoc, List.append_assoc, htext, List.cons_append]
    generalize amount ++ (sp ++ unit) = w at hchars hmem hread
    rcases List.append_eq_append_iff.mp hstretch with ⟨e, -, hds'⟩ | ⟨e, hjoiner', hpost⟩
    · -- the match starts at a digit
      obtain ⟨y, w, rfl⟩ := List.exists_cons_of_ne_nil (List.ne_nil_of_mem hmem)
      obtain ⟨rfl, -⟩ := List.cons.inj hread
      exact hdigit y (by rw [hds']; simp) (hchars y List.mem_cons_self)
    · rw [hpost, List.append_assoc] at hread
      rcases List.append_eq_append_iff.mp hread with ⟨f, rfl, -⟩ | ⟨f, rfl, hrest⟩
      · exact hjoiner (by rw [hjoiner']; simp [hmem])
      · rcases f with _ | ⟨d, f⟩
        · rw [List.append_nil] at hmem
          exact hjoiner (by rw [hjoiner']; exact List.mem_append_right pre hmem)
        · -- the match goes on with a digit
          obtain ⟨d', ds', rfl⟩ := List.exists_cons_of_ne_nil hne
          obtain ⟨rfl, -⟩ := List.cons.inj hrest
          exact hdigit d' List.mem_cons_self (hchars d' (by simp))
  rw [List.append_assoc, List.reverse_append, List.append_assoc] at hskip
  exact hskip

end Segment

/-- Inside a word no duration starts. -/
theorem foundsFrom_skip_word {amountPattern : Regex} {before word : Text}
    (hbefore : wordEdge u before = true) (hword : ∀ c ∈ word, u.isWord c = true) (rest : Text) :
    foundsFrom (durationPattern u amountPattern) before (word ++ rest) =
      foundsFrom (durationPattern u amountPattern) (word.reverse ++ before) rest := by
  refine foundsFrom_skip_of_not_shape ?_
  rintro pre x post rfl amount sp unit after hshape htext
  have hedge := hshape.edge
  rw [htext] at hedge
  have hleft : wordEdge u (pre.reverse ++ before) = true := by
    rcases List.eq_nil_or_concat' pre with rfl | ⟨pre, c, rfl⟩
    · exact hbefore
    · rw [List.reverse_append]
      exact hword c (by simp)
  exact hedge (hleft.trans (hword x (by simp)).symm)

/-- The word pattern finds at most the white space and the unit of a duration in
digits, which the digit pattern finds too. -/
theorem words_foundsFrom_digits {before sp unit rest : Text}
    (hbefore : wordEdge u before = true) (hsp : ∀ c ∈ sp, isSpace c = true)
    (hunit : IsUnit unit) (hrest : wordEdge u rest = false) :
    ∃ founds, foundsFrom (wordDurationPattern u) before (sp ++ (unit ++ rest)) =
        founds ++ foundsFrom (wordDurationPattern u) ((sp ++ unit).reverse ++ before) rest ∧
      ∀ found ∈ founds, found.start = before.length ∧
        found.stop = before.length + (sp ++ unit).length := by
  rcases List.eq_nil_or_concat' sp with rfl | ⟨sp', c, hconcat⟩
  · exact ⟨[], foundsFrom_skip_word hbefore (hunit.isWordText u).2 rest, by simp⟩
  · have hne : sp ≠ [] := by
      rw [hconcat]
      simp
    have hphrase := phrase_spaces hsp
    have hedge : wordEdge u (sp ++ (unit ++ rest)) = false := by
      obtain ⟨d, sp'', rfl⟩ := List.exists_cons_of_ne_nil hne
      exact not_isWord_of_isSpace u (hsp d List.mem_cons_self)
    have hshape : Shape u (plus true (numberWordPattern u)) before sp [] unit rest := by
      refine ⟨?_, hphrase.matches_plus hne _ _, by simp, hunit, hrest⟩
      rw [hbefore, List.nil_append, hedge]
      decide
    have hlast : sp.getLast?.all isSeparator = true := by
      rw [hconcat] at hsp ⊢
      have hc : isSpace c = true := hsp c (by simp)
      simp [isSeparator, hc]
    obtain ⟨found, _, hfounds, hstart, hstop, -⟩ :=
      foundsFrom_of_shape groupFree_numberWords hshape fun amount' sp' unit' after' h htext => by
        rw [List.append_nil]
        exact eq_of_shape hphrase hlast hunit hrest h htext
    refine ⟨[found], hfounds, fun found' hfound => ?_⟩
    rw [List.mem_singleton.mp hfound]
    exact ⟨hstart, hstop⟩

end Digits

section Words

variable {u : PyData}

theorem opens_nil : Opens [] [] := fun _ _ _ hs => hs

/-- The word pattern finds an amount in words whole, and it reads as the number
that its tokens add up to. -/
theorem words_foundsFrom_amount {before amount sp unit rest : Text} {tokens : List Text} {n : Nat}
    (hopens : Opens tokens amount) (hcounted : counted tokens ≠ [])
    (hvalue : addNumberWords 0 (counted tokens) = some n)
    (hedge : wordEdge u before ≠ wordEdge u (amount ++ (sp ++ (unit ++ rest))))
    (hne : sp ≠ []) (hsp : ∀ c ∈ sp, isSpace c = true) (hunit : IsUnit unit)
    (hrest : wordEdge u rest = false) :
    ∃ found, foundsFrom (wordDurationPattern u) before (amount ++ (sp ++ (unit ++ rest))) =
        found :: foundsFrom (wordDurationPattern u)
          ((amount ++ (sp ++ unit)).reverse ++ before) rest ∧
      found.start = before.length ∧
      found.stop = before.length + (amount ++ (sp ++ unit)).length ∧
      wordsToNumber (groupText found.groups "1") = some n ∧
      groupText found.groups "2" = unit := by
  have hamount : Phrase tokens amount := hopens.phrase
  have hspaced : Phrase tokens (amount ++ sp) := by
    have h := hopens [] sp ?_ (phrase_spaces hsp)
    · rwa [List.append_nil] at h
    · obtain ⟨c, sp, rfl⟩ := List.exists_cons_of_ne_nil hne
      simp [isSeparator, hsp c List.mem_cons_self]
  have hlast : (amount ++ sp).getLast?.all isSeparator = true := by
    obtain ⟨sp, c, rfl⟩ := (List.eq_nil_or_concat' sp).resolve_left hne
    have hc : isSpace c = true := hsp c (by simp)
    simp [List.getLast?_append, isSeparator, hc]
  have hnotNil : amount ≠ [] := by
    rintro rfl
    exact hcounted (congrArg counted hamount.splitWords_eq.symm)
  have hshape : Shape u (plus true (numberWordPattern u)) before amount sp unit rest :=
    ⟨hedge, hamount.matches_plus hnotNil _ _, hsp, hunit, hrest⟩
  obtain ⟨found, sp', hfounds, hstart, hstop, hshape', hgroups, hgroup⟩ :=
    foundsFrom_of_shape groupFree_numberWords hshape fun amount' sp' unit' after' h htext =>
      eq_of_shape hspaced hlast hunit hrest h (by rw [htext, List.append_assoc])
  refine ⟨found, hfounds, hstart, hstop, ?_, hgroup⟩
  have htokens : splitWords (replaceChar '-' ' ' (groupText found.groups "1")) = tokens := by
    rw [← hspaced.splitWords_eq, ← hgroups, replaceChar_append, splitWords_append_spaces]
    intro c hc
    obtain ⟨d, hd, rfl⟩ := List.mem_map.mp hc
    exact isSpace_replace_of_isSeparator
      (by rw [isSeparator, hshape'.spaces d hd, Bool.true_or])
  rw [wordsToNumber_eq htokens hcounted, hvalue]

theorem wordEdge_number {n : Nat} {number : Text} (h : SpellsNumber n number) (rest : Text) :
    wordEdge u (number ++ rest) = true := by
  obtain ⟨w, hw, tail, rfl⟩ := exists_word_of_spellsNumber h
  obtain ⟨hne, hlower⟩ := isLower_of_mem (mem_vocabulary hw)
  rw [List.append_assoc]
  exact wordEdge_append_of_isWordText u ⟨hne, fun c hc => isWord_of_isLower u (hlower c hc)⟩ _

theorem not_isWord_comma : u.isWord ',' = false := by
  rw [isWord_ascii u (by decide)]
  decide

/-- No match starts at a comma or at the blank behind it. -/
theorem words_foundsFrom_comma {before : Text} (text : Text) :
    foundsFrom (wordDurationPattern u) before (", ".toList ++ text) =
      foundsFrom (wordDurationPattern u) (", ".toList.reverse ++ before) text := by
  refine foundsFrom_skip_of_not_shape ?_
  intro pre x post hstretch amount sp unit after hshape htext
  have hedge := hshape.edge
  rw [htext] at hedge
  have hletters : ", ".toList = [',', ' '] := rfl
  rw [hletters] at hstretch
  rcases pre with _ | ⟨c, pre⟩
  · obtain ⟨rfl, -⟩ := List.cons.inj hstretch
    have hmem : ',' ∈ amount ++ (sp ++ unit) := by
      have hread : amount ++ (sp ++ unit) ++ after = ',' :: (post ++ text) := by
        rw [← htext]
        simp
      obtain ⟨y, w, hw⟩ := List.exists_cons_of_ne_nil hshape.ne_nil
      rw [hw] at hread ⊢
      obtain ⟨rfl, -⟩ := List.cons.inj hread
      exact List.mem_cons_self
    exact absurd (isLower_or_isSeparator_of_shape hshape ',' hmem) (by decide)
  · obtain ⟨rfl, htail⟩ := List.cons.inj hstretch
    rcases pre with _ | ⟨d, pre⟩
    · obtain ⟨rfl, -⟩ := List.cons.inj htail
      exact hedge (not_isWord_comma.trans (not_isWord_of_isSpace u rfl).symm)
    · obtain ⟨-, hnil⟩ := List.cons.inj htail
      exact absurd (congrArg List.length hnil) (by simp)

/-- What the word pattern finds of a duration in words that `lead` leads in. -/
def FindsWords (u : PyData) (before lead number sp unit rest : Text) (n : Nat) : Prop :=
  ∃ found, foundsFrom (wordDurationPattern u) before
      (lead ++ (number ++ (sp ++ (unit ++ rest)))) =
      found :: foundsFrom (wordDurationPattern u)
        ((number ++ (sp ++ unit)).reverse ++ (lead.reverse ++ before)) rest ∧
    before.length ≤ found.start ∧
    found.stop = before.length + (lead ++ (number ++ (sp ++ unit))).length ∧
    wordsToNumber (groupText found.groups "1") = some n ∧ groupText found.groups "2" = unit

theorem findsWords_of_opens {before lead number sp unit rest : Text} {tokens : List Text} {n : Nat}
    (hopens : Opens tokens (lead ++ number)) (hcounted : counted tokens ≠ [])
    (hvalue : addNumberWords 0 (counted tokens) = some n)
    (hedge : wordEdge u before ≠ wordEdge u (lead ++ (number ++ (sp ++ (unit ++ rest)))))
    (hne : sp ≠ []) (hsp : ∀ c ∈ sp, isSpace c = true) (hunit : IsUnit unit)
    (hrest : wordEdge u rest = false) : FindsWords u before lead number sp unit rest n := by
  rw [← List.append_assoc lead] at hedge
  obtain ⟨found, hfounds, hstart, hstop, hgroups⟩ :=
    words_foundsFrom_amount hopens hcounted hvalue hedge hne hsp hunit hrest
  have hcontext : (lead ++ number ++ (sp ++ unit)).reverse ++ before =
      (number ++ (sp ++ unit)).reverse ++ (lead.reverse ++ before) := by
    simp
  rw [hcontext, List.append_assoc] at hfounds
  rw [List.append_assoc] at hstop
  exact ⟨found, hfounds, hstart.ge, hstop, hgroups⟩

/-- The digit pattern finds nothing in a duration in words. -/
theorem digits_foundsFrom_words {before joiner number sp unit rest : Text} {n : Nat}
    (hjoins : Joins u before joiner) (hnumber : SpellsNumber n number)
    (hsp : ∀ c ∈ sp, isSpace c = true) (hunit : IsUnit unit) :
    foundsFrom (digitDurationPattern u) before
      (joiner ++ (number ++ (sp ++ (unit ++ rest)))) =
      foundsFrom (digitDurationPattern u)
        ((number ++ (sp ++ unit)).reverse ++ (joiner.reverse ++ before)) rest := by
  have hletters : ∀ c ∈ joiner ++ (number ++ (sp ++ unit)), u.isDecimal c = false := by
    intro c hc
    simp only [List.mem_append] at hc
    rcases hc with hc | hc | hc | hc
    · exact hjoins.not_isDecimal c hc
    · obtain ⟨tokens, hphrase⟩ := hnumber.exists_phrase
      exact (hphrase.isLower_or_isSeparator c hc).elim not_isDecimal_of_isLower
        not_isDecimal_of_isSeparator
    · exact not_isDecimal_of_isSpace (hsp c hc)
    · exact not_isDecimal_of_isLower (hunit.isLower.2 c hc)
  have hskip := foundsFrom_skip_of_not_isDecimal hletters before rest
  simp only [List.append_assoc, List.reverse_append] at hskip ⊢
  exact hskip

/-- The word pattern finds a duration in words, with the joiner before it unless
that has a comma. -/
theorem words_foundsFrom_words {before joiner number sp unit rest : Text} {n : Nat}
    (hjoins : Joins u before joiner) (hnumber : SpellsNumber n number) (hne : sp ≠ [])
    (hsp : ∀ c ∈ sp, isSpace c = true) (hunit : IsUnit unit) (hrest : wordEdge u rest = false) :
    FindsWords u before joiner number sp unit rest n := by
  obtain ⟨tokens, hopens, hcounted, hvalue⟩ := exists_tokens_of_spellsNumber hnumber
  have hspace : ∀ text : Text, wordEdge u (' ' :: text) = false :=
    fun _ => not_isWord_of_isSpace u rfl
  have hword := wordEdge_number (u := u) hnumber (sp ++ (unit ++ rest))
  have hplain : ∀ {context : Text}, wordEdge u context = false →
      FindsWords u context [] number sp unit rest n := by
    intro context hcontext
    refine findsWords_of_opens hopens hcounted hvalue ?_ hne hsp hunit hrest
    rw [hcontext, List.nil_append, hword]
    decide
  rcases hjoins with ⟨rfl, hbefore⟩ | ⟨hjoiner, hbefore⟩
  · exact hplain hbefore
  · have hedge : ∀ text, wordEdge u before ≠ wordEdge u (' ' :: text) := by
      intro text
      rw [hbefore, hspace]
      decide
    simp only [joiners, List.mem_cons, List.not_mem_nil, or_false] at hjoiner
    rcases hjoiner with rfl | rfl | rfl
    · have hlinked : Opens tokens (" ".toList ++ number) := opens_nil.link (c := ' ') rfl hopens
      exact findsWords_of_opens hlinked hcounted hvalue (hedge _) hne hsp hunit hrest
    · obtain ⟨found, hfounds, hstart, hstop, hgroups⟩ := hplain (hspace (',' :: before))
      refine ⟨found, ?_, ?_, ?_, hgroups⟩
      · rw [words_foundsFrom_comma]
        exact hfounds
      · exact (Nat.le_add_right before.length 2).trans hstart
      · have hlength : (", ".toList ++ (number ++ (sp ++ unit))).length =
            2 + (number ++ (sp ++ unit)).length := List.length_append
        rw [hstop, List.nil_append, hlength, List.length_cons, List.length_cons]
        omega
    · have hand : Opens ["and".toList] "and".toList := opens_word (by decide)
      have hlinked : Opens (["and".toList] ++ tokens) (" and ".toList ++ number) :=
        opens_nil.link (c := ' ') rfl (hand.link (c := ' ') rfl hopens)
      exact findsWords_of_opens hlinked hcounted hvalue (hedge _) hne hsp hunit hrest

end Words

section Lists

variable {u : PyData}

def segmentsTotal : List Segment → Nat
  | [] => 0
  | segment :: rest => segmentToSeconds segment.value segment.unit + segmentsTotal rest

theorem segmentsTotal_append (segments segments' : List Segment) :
    segmentsTotal (segments ++ segments') = segmentsTotal segments + segmentsTotal segments' := by
  induction segments with
  | nil => exact (Nat.zero_add _).symm
  | cons segment rest ih => rw [List.cons_append, segmentsTotal, ih, segmentsTotal, Nat.add_assoc]

theorem segmentsTotal_perm {segments segments' : List Segment} (h : segments.Perm segments') :
    segmentsTotal segments = segmentsTotal segments' := by
  induction h with
  | nil => rfl
  | cons segment _ ih => rw [segmentsTotal, segmentsTotal, ih]
  | swap first second rest =>
      rw [segmentsTotal, segmentsTotal, segmentsTotal, segmentsTotal]
      omega
  | trans _ _ ih ih' => exact ih.trans ih'

theorem foldl_segmentToSeconds (segments : List Segment) (n : Nat) :
    segments.foldl (fun total segment => total + segmentToSeconds segment.value segment.unit) n =
      n + segmentsTotal segments := by
  induction segments generalizing n with
  | nil => rfl
  | cons segment rest ih => rw [List.foldl_cons, ih, segmentsTotal, Nat.add_assoc]

theorem not_overlaps_iff {found : Found Char} {segment : Segment} :
    overlaps found segment = false ↔ found.stop ≤ segment.start ∨ segment.stop ≤ found.start := by
  rw [overlaps, Bool.not_eq_false', Bool.or_eq_true, decide_eq_true_eq, decide_eq_true_eq]

theorem addWordSegments_append_of_overlaps {founds : List (Found Char)} {segments : List Segment}
    (h : ∀ found ∈ founds, segments.any (overlaps found) = true) (rest : List (Found Char)) :
    addWordSegments segments (founds ++ rest) = addWordSegments segments rest := by
  induction founds with
  | nil => rfl
  | cons found founds ih =>
      rw [List.cons_append, addWordSegments, if_pos (h found List.mem_cons_self)]
      exact ih fun found' hfound => h found' (List.mem_cons_of_mem found hfound)

/-- What both patterns together read of a text: the segments in digits and those
in words, which are as many seconds as the durations in the text. -/
structure ReadSegments (u : PyData) (before text : Text)
    (durations : List (Nat × DurationUnit)) (digits words : List Segment) : Prop where
  digits_eq : digitSegments u (foundsFrom (digitDurationPattern u) before text) = .ok digits
  start_le : ∀ segment ∈ digits, before.length ≤ segment.start
  words_eq : ∀ segments : List Segment,
    (∀ segment ∈ segments, segment.stop ≤ before.length ∨ segment ∈ digits) →
    digits ⊆ segments →
    addWordSegments segments (foundsFrom (wordDurationPattern u) before text) = segments ++ words
  total : segmentsTotal digits + segmentsTotal words = sumSeconds durations
  length : digits.length + words.length = durations.length

theorem readSegments_nil (before : Text) : ReadSegments u before [] [] [] [] where
  digits_eq := rfl
  start_le _ h := absurd h List.not_mem_nil
  words_eq segments _ _ := (List.append_nil segments).symm
  total := rfl
  length := rfl

section Rules

variable {before before' text rest : Text} {durations : List (Nat × DurationUnit)}
variable {digits words : List Segment} {found : Found Char} {value : Nat} {unit : DurationUnit}

/-- A match of the word pattern alone adds a segment in words. -/
theorem ReadSegments.addWords (h : ReadSegments u before' rest durations digits words)
    (hdigits : foundsFrom (digitDurationPattern u) before text =
      foundsFrom (digitDurationPattern u) before' rest)
    (hwords : foundsFrom (wordDurationPattern u) before text =
      found :: foundsFrom (wordDurationPattern u) before' rest)
    (hvalue : wordsToNumber (groupText found.groups "1") = some value)
    (hunit : normalizeUnit (groupText found.groups "2") = some unit)
    (hstart : before.length ≤ found.start) (hle : before.length ≤ before'.length)
    (hstop : found.stop = before'.length) :
    ReadSegments u before text ((value, unit) :: durations) digits
      ({ value, unit, start := found.start, stop := found.stop } :: words) := by
  refine ⟨?_, ?_, ?_, ?_, ?_⟩
  · rw [hdigits]
    exact h.digits_eq
  · exact fun segment hsegment => hle.trans (h.start_le segment hsegment)
  · intro segments hsegments hsubset
    have hfree : segments.any (overlaps found) = false := by
      rw [List.any_eq_false]
      intro segment hsegment
      rw [Bool.not_eq_true, not_overlaps_iff, hstop]
      rcases hsegments segment hsegment with hbefore | hdigit
      · exact .inr (hbefore.trans hstart)
      · exact .inl (h.start_le segment hdigit)
    rw [hwords, addWordSegments, hfree, hvalue, hunit]
    simp only [Bool.false_eq_true, if_false]
    rw [h.words_eq, List.append_assoc]
    · rfl
    · intro segment hsegment
      rcases List.mem_append.mp hsegment with hsegment | hsegment
      · exact (hsegments segment hsegment).imp_left fun hbefore => hbefore.trans hle
      · rw [List.mem_singleton.mp hsegment]
        exact .inl hstop.le
    · exact fun segment hsegment => List.mem_append_left _ (hsubset hsegment)
  · have htotal := h.total
    simp only [segmentsTotal, sumSeconds, segmentToSeconds_eq]
    omega
  · rw [List.length_cons, List.length_cons, ← h.length, Nat.add_assoc]

/-- A match of the digit pattern, with matches of the word pattern only inside
of it, adds a segment in digits. -/
theorem ReadSegments.addDigits (h : ReadSegments u before' rest durations digits words)
    {inside : List (Found Char)}
    (hdigits : foundsFrom (digitDurationPattern u) before text =
      found :: foundsFrom (digitDurationPattern u) before' rest)
    (hwords : foundsFrom (wordDurationPattern u) before text =
      inside ++ foundsFrom (wordDurationPattern u) before' rest)
    (hinside : ∀ other ∈ inside, found.start < other.stop ∧ other.start < found.stop)
    (hvalue : u.intOfDigits (groupText found.groups "1") = .ok value)
    (hunit : normalizeUnit (groupText found.groups "2") = some unit)
    (hstart : before.length ≤ found.start) (hle : found.start ≤ found.stop)
    (hstop : found.stop = before'.length) :
    ReadSegments u before text ((value, unit) :: durations)
      ({ value, unit, start := found.start, stop := found.stop } :: digits) words := by
  refine ⟨?_, ?_, ?_, ?_, ?_⟩
  · rw [hdigits, digitSegments, hunit]
    simp only [hvalue, h.digits_eq]
    rfl
  · intro segment hsegment
    rcases List.mem_cons.mp hsegment with rfl | hsegment
    · exact hstart
    · have hlater := h.start_le segment hsegment
      omega
  · intro segments hsegments hsubset
    have hoverlaps : ∀ other ∈ inside, segments.any (overlaps other) = true := by
      intro other hother
      obtain ⟨hbehind, hahead⟩ := hinside other hother
      refine List.any_eq_true.mpr ⟨_, hsubset List.mem_cons_self, ?_⟩
      rw [← Bool.not_eq_false, not_overlaps_iff]
      dsimp only
      omega
    rw [hwords, addWordSegments_append_of_overlaps hoverlaps]
    refine h.words_eq segments (fun segment hsegment => ?_)
      fun segment hsegment => hsubset (List.mem_cons_of_mem _ hsegment)
    rcases hsegments segment hsegment with hbefore | hdigit
    · exact .inl (by omega)
    · rcases List.mem_cons.mp hdigit with rfl | hdigit
      · exact .inl hstop.le
      · exact .inr hdigit
  · have htotal := h.total
    simp only [segmentsTotal, sumSeconds, segmentToSeconds_eq]
    omega
  · rw [List.length_cons, List.length_cons, ← h.length]
    omega

end Rules

section Step

variable {before joiner rest sp : Text} {entry : String × DurationUnit}
variable {durations : List (Nat × DurationUnit)} {digits words : List Segment}
variable (hjoins : Joins u before joiner) (hsp : ∀ c ∈ sp, isSpace c = true)
variable (hentry : entry ∈ unitAliases) (hrest : wordEdge u rest = false)

theorem length_context (before joiner chunk : Text) :
    (chunk.reverse ++ (joiner.reverse ++ before)).length =
      before.length + joiner.length + chunk.length := by
  simp only [List.length_append, List.length_reverse]
  omega

include hjoins hsp hentry hrest

/-- A duration in words in front of a text that is read. -/
theorem readSegments_words {n : Nat} {number : Text} (hnumber : SpellsNumber n number)
    (hne : sp ≠ [])
    (h : ReadSegments u ((number ++ (sp ++ entry.1.toList)).reverse ++ (joiner.reverse ++ before))
      rest durations digits words) :
    ∃ words', ReadSegments u before (joiner ++ (number ++ (sp ++ (entry.1.toList ++ rest))))
      ((n, entry.2) :: durations) digits words' := by
  have hunit : IsUnit entry.1.toList := ⟨entry, hentry, rfl⟩
  obtain ⟨found, hfounds, hstart, hstop, hvalue, hgroup⟩ :=
    words_foundsFrom_words hjoins hnumber hne hsp hunit hrest
  refine ⟨_, h.addWords (digits_foundsFrom_words hjoins hnumber hsp hunit) hfounds hvalue
    (by rw [hgroup, normalizeUnit_of_mem hentry]) hstart ?_ ?_⟩
  · rw [length_context]
    omega
  · rw [length_context, hstop, List.length_append, Nat.add_assoc]

/-- A duration in digits in front of a text that is read. -/
theorem readSegments_digits {ds : Text} (hne : ds ≠ []) (hds : ∀ c ∈ ds, c.isDigit = true)
    (hlength : ds.length ≤ maxIntDigits)
    (h : ReadSegments u ((ds ++ (sp ++ entry.1.toList)).reverse ++ (joiner.reverse ++ before))
      rest durations digits words) :
    ∃ digits', ReadSegments u before (joiner ++ (ds ++ (sp ++ (entry.1.toList ++ rest))))
      ((Nat.ofDigitChars 10 ds 0, entry.2) :: durations) digits' words := by
  have hunit : IsUnit entry.1.toList := ⟨entry, hentry, rfl⟩
  obtain ⟨found, hfounds, hstart, hstop, hvalue, hgroup⟩ :=
    digits_foundsFrom_digits hjoins hne hds hsp hunit hrest
  have hword : IsWordText u ds :=
    isWordText_of_isDecimal u hne fun c hc => isDecimal_of_isDigit (hds c hc)
  obtain ⟨inside, hwords, hinside⟩ := words_foundsFrom_digits
    (wordEdge_append_of_isWordText u hword.reverse (joiner.reverse ++ before)) hsp hunit hrest
  have hcontext : (sp ++ entry.1.toList).reverse ++ (ds.reverse ++ (joiner.reverse ++ before)) =
      (ds ++ (sp ++ entry.1.toList)).reverse ++ (joiner.reverse ++ before) := by
    simp
  rw [hcontext] at hwords
  have hskip := words_foundsFrom_skip_digits hjoins hne hds (sp ++ (entry.1.toList ++ rest))
  have hpos := List.length_pos_of_ne_nil hunit.isLower.1
  refine ⟨_, h.addDigits hfounds (hskip.trans hwords) (fun other hother => ?_)
    (by rw [hvalue, intOfDigits_eq hds hlength])
    (by rw [hgroup, normalizeUnit_of_mem hentry]) ?_ ?_ ?_⟩
  · obtain ⟨hotherStart, hotherStop⟩ := hinside other hother
    rw [length_context] at hotherStart hotherStop
    simp only [List.length_append] at hotherStop hstop
    omega
  · omega
  · omega
  · rw [length_context, hstop, hstart]

end Step

variable {before joiner text rest : Text} {n : Nat} {unit : DurationUnit}
variable {durations : List (Nat × DurationUnit)} {digits words : List Segment}

theorem readSegments_segment (h : RendersSegment n unit text) (hjoins : Joins u before joiner)
    (hrest : wordEdge u rest = false)
    (hread : ReadSegments u (text.reverse ++ (joiner.reverse ++ before)) rest durations digits
      words) :
    ∃ digits' words', ReadSegments u before (joiner ++ (text ++ rest)) ((n, unit) :: durations)
      digits' words' := by
  cases h with
  | digits ds sp entry hne hds hlength hsp hentry =>
      obtain ⟨digits', hread'⟩ :=
        readSegments_digits hjoins hsp hentry hrest hne hds hlength hread
      simp only [List.append_assoc]
      exact ⟨digits', words, hread'⟩
  | words n number sp entry hnumber hne hsp hentry =>
      obtain ⟨words', hread'⟩ := readSegments_words hjoins hsp hentry hrest hnumber hne hread
      simp only [List.append_assoc]
      exact ⟨digits, words', hread'⟩

theorem wordEdge_segment (h : RendersSegment n unit text) (context : Text) :
    wordEdge u (text.reverse ++ context) = true := by
  have hunit : ∀ {entry : String × DurationUnit}, entry ∈ unitAliases → ∀ amount sp : Text,
      wordEdge u ((amount ++ (sp ++ entry.1.toList)).reverse ++ context) = true := by
    intro entry hentry amount sp
    have hunit : IsUnit entry.1.toList := ⟨entry, hentry, rfl⟩
    simp only [List.reverse_append, List.append_assoc]
    exact wordEdge_append_of_isWordText u (hunit.isWordText u).reverse _
  cases h with
  | digits ds sp entry hne hds hlength hsp hentry => exact hunit hentry ds sp
  | words n number sp entry hnumber hne hsp hentry => exact hunit hentry number sp

theorem wordEdge_joiner (hjoiner : joiner ∈ joiners) (rest : Text) :
    wordEdge u (joiner ++ rest) = false := by
  simp only [joiners, List.mem_cons, List.not_mem_nil, or_false] at hjoiner
  rcases hjoiner with rfl | rfl | rfl
  · exact not_isWord_of_isSpace u rfl
  · exact not_isWord_comma
  · exact not_isWord_of_isSpace u rfl

/-- Every duration of a list is read once, by one of the two patterns. -/
theorem readSegments_of_renders (h : Renders durations text) :
    ∀ before joiner : Text, Joins u before joiner →
      ∃ digits words, ReadSegments u before (joiner ++ text) durations digits words := by
  induction h with
  | single n unit text h =>
      intro before joiner hjoins
      rw [← List.append_nil text]
      exact readSegments_segment h hjoins rfl (readSegments_nil _)
  | cons n unit durations text joiner' rest h hjoiner _ ih =>
      intro before joiner hjoins
      obtain ⟨digits, words, hread⟩ :=
        ih (text.reverse ++ (joiner.reverse ++ before)) joiner'
          (.inr ⟨hjoiner, wordEdge_segment h _⟩)
      exact readSegments_segment h hjoins (wordEdge_joiner hjoiner rest) hread

end Lists

section Case

variable {u : PyData} {n : Nat} {unit : DurationUnit} {durations : List (Nat × DurationUnit)}
variable {text message : Text}

def IsPlain (c : Char) : Prop := c.toNat < 128 ∨ isSpace c = true

/-- The code points that durations in lower case are written with. -/
def IsWritten (c : Char) : Prop :=
  c.isDigit = true ∨ IsLower c ∨ isSeparator c = true ∨ c = ','

theorem isWritten_of_rendersSegment (h : RendersSegment n unit text) :
    ∀ c ∈ text, IsWritten c := by
  have hunit : ∀ {entry : String × DurationUnit}, entry ∈ unitAliases →
      ∀ c ∈ entry.1.toList, IsWritten c := by
    intro entry hentry c hc
    have hunit : IsUnit entry.1.toList := ⟨entry, hentry, rfl⟩
    exact .inr (.inl (hunit.isLower.2 c hc))
  have hspace : ∀ c, isSpace c = true → IsWritten c := by
    intro c hc
    exact .inr (.inr (.inl (by rw [isSeparator, hc, Bool.true_or])))
  intro c hc
  cases h with
  | digits ds sp entry hne hds hlength hsp hentry =>
      rw [List.mem_append, List.mem_append] at hc
      rcases hc with hc | hc | hc
      · exact .inl (hds c hc)
      · exact hspace c (hsp c hc)
      · exact hunit hentry c hc
  | words n number sp entry hnumber hne hsp hentry =>
      rw [List.mem_append, List.mem_append] at hc
      rcases hc with hc | hc | hc
      · obtain ⟨tokens, hphrase⟩ := hnumber.exists_phrase
        exact .inr ((hphrase.isLower_or_isSeparator c hc).imp_right .inl)
      · exact hspace c (hsp c hc)
      · exact hunit hentry c hc

theorem isWritten_of_renders (h : Renders durations text) : ∀ c ∈ text, IsWritten c := by
  have hjoiners : ∀ c ∈ [' ', ',', 'a', 'n', 'd'], IsLower c ∨ isSeparator c = true ∨ c = ',' :=
    forall_mem_of_all (by decide)
  induction h with
  | single n unit text h => exact isWritten_of_rendersSegment h
  | cons n unit durations text joiner rest h hjoiner _ ih =>
      intro c hc
      rw [List.mem_append, List.mem_append] at hc
      rcases hc with hc | hc | hc
      · exact isWritten_of_rendersSegment h c hc
      · exact .inr (hjoiners c (chars_of_mem_joiners hjoiner c hc))
      · exact ih c hc

theorem isPlain_of_renders (h : Renders durations text) : ∀ c ∈ text, IsPlain c := by
  intro c hc
  rcases isWritten_of_renders h c hc with hdigit | hlower | hseparator | rfl
  · exact .inl (ascii_of_isDigit hdigit)
  · exact .inl (lt_of_isLower hlower)
  · rcases Bool.or_eq_true_iff.mp hseparator with hspace | hhyphen
    · exact .inr hspace
    · obtain rfl := eq_of_beq hhyphen
      exact .inl (by decide)
  · exact .inl (by decide)

/-- Durations in lower case are their own text in lower case. -/
theorem map_toLower_of_renders (h : Renders durations text) : text.map Char.toLower = text := by
  have hascii : ∀ c : Char, c.toNat < 128 → c.isUpper = false → c.toLower = c := by
    refine ascii_forall (P := fun c => c.isUpper = false → c.toLower = c) ?_
    decide
  have hwritten : ∀ c : Char, c.toNat < 128 → IsWritten c → c.isUpper = false := by
    refine ascii_forall (P := fun c => IsWritten c → c.isUpper = false) ?_
    simp only [IsWritten]
    decide
  have hchar : ∀ c ∈ text, c.toLower = c := by
    intro c hc
    by_cases hlt : c.toNat < 128
    · exact hascii c hlt (hwritten c hlt (isWritten_of_renders h c hc))
    · exact toLower_eq_self hlt
  exact (List.map_congr_left hchar).trans (List.map_id text)

/-- A list of durations in any letter case becomes the list in lower case. -/
theorem lower_eq (h : ∀ c ∈ text, IsPlain c) (hcase : message.map Char.toLower = text) :
    u.lower message = text := by
  rw [← hcase]
  refine lowerIn_eq_map u fun c hc => ?_
  have hplain : IsPlain c.toLower := h _ (by rw [← hcase]; exact List.mem_map_of_mem hc)
  by_cases hascii : c.toNat < 128
  · refine ⟨u.lowerOf_ascii c hascii, ?_⟩
    rintro rfl
    exact absurd hascii (by decide)
  · rw [toLower_eq_self hascii] at hplain ⊢
    have hspace := hplain.resolve_left hascii
    exact ⟨u.lowerOf_space c hspace, ne_sigma_of_isSpace hspace⟩

theorem extractDurationSeconds_of_readSegments {digits words : List Segment}
    (hread : ReadSegments u [] (u.lower message) durations digits words)
    (hdurations : durations ≠ []) :
    extractDurationSeconds u message = .ok (some (sumSeconds durations)) := by
  have hsegments : iterDurationSegments u message =
      .ok ((digits ++ words).insertionSort fun a b => a.start ≤ b.start) := by
    have hwords := hread.words_eq digits (fun _ hsegment => .inr hsegment) (List.Subset.refl _)
    rw [iterDurationSegments, findAll_eq, findAll_eq, hread.digits_eq]
    simp only [bind, Except.bind, hwords]
    rfl
  have hperm := List.perm_insertionSort (fun a b : Segment => a.start ≤ b.start) (digits ++ words)
  have hne : (digits ++ words).insertionSort (fun a b => a.start ≤ b.start) ≠ [] := by
    intro hnil
    have hlength := hread.length
    rw [← List.length_append, ← hperm.length_eq, hnil] at hlength
    exact hdurations (List.eq_nil_of_length_eq_zero hlength.symm)
  rw [extractDurationSeconds, hsegments]
  simp only [bind, Except.bind, if_pos hne]
  rw [foldl_segmentToSeconds, segmentsTotal_perm hperm, segmentsTotal_append, hread.total,
    Nat.zero_add]
  rfl

theorem Renders.ne_nil (h : Renders durations text) : durations ≠ [] := by
  cases h with
  | single => exact List.cons_ne_nil _ _
  | cons => exact List.cons_ne_nil _ _

/-- The durations that a text lists are extracted as their sum. -/
theorem extractDurationSeconds_of_renders (u : PyData) (h : Renders durations text)
    (hcase : message.map Char.toLower = text) :
    extractDurationSeconds u message = .ok (some (sumSeconds durations)) := by
  have hlower : u.lower message = text := lower_eq (isPlain_of_renders h) hcase
  obtain ⟨digits, words, hread⟩ :=
    readSegments_of_renders (u := u) h [] [] (.inl ⟨rfl, rfl⟩)
  rw [List.nil_append, ← hlower] at hread
  exact extractDurationSeconds_of_readSegments hread h.ne_nil

theorem extractDurationSeconds_two_durations :
    extractDurationSeconds .ascii "Twenty-five MINUTES and 30S".toList = .ok (some 1530) := by
  have hminutes : RendersSegment 25 .minutes "twenty-five minutes".toList :=
    .words 25 "twenty-five".toList " ".toList ("minutes", .minutes)
      (.belowHundred 25 _ (.tensAndOnes "twenty" 20 '-' "five" 5 (by decide) (.inl rfl)
        (by decide) (by decide))) (by decide) (forall_mem_of_all (by decide)) (by decide)
  have hseconds : RendersSegment 30 .seconds "30s".toList :=
    .digits "30".toList [] ("s", .seconds) (by decide) (forall_mem_of_all (by decide))
      (by decide) (forall_mem_of_all (by decide)) (by decide)
  exact extractDurationSeconds_of_renders .ascii
    (.cons 25 .minutes _ _ " and ".toList _ hminutes (by simp [joiners])
      (.single 30 .seconds _ hseconds)) (by decide)

end Case

end NanoCore.Common.AdditiveDurations
