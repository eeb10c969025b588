import NanoCore.Common.AdditiveDurations

namespace NanoCore.Common.NumericLiterals

open NanoCore.Foundation.PythonText
open NanoCore.Foundation.Regex
open NanoCore.Foundation.RegexSearch
open NanoCore.Foundation.RegexFindAll
open NanoCore.Foundation.PythonRegex
open NanoCore.Common.Duration
open NanoCore.Common.DurationMatches
open NanoCore.Common.NumberWords
open NanoCore.Common.AdditiveDurations

section Literals

variable (u : PyData)

/-- The decimal point and the comma that groups digits. -/
def numberSeparators : Text := ['.', ',']

/-- The split of a text is at a digit of a number that goes on before it: a
separator precedes the digit and another digit precedes the separator. -/
def InsideNumber (pre post : Text) : Prop :=
  ∃ lead d separator x rest, pre = lead ++ [d, separator] ∧ post = x :: rest ∧
    u.isDecimal d = true ∧ separator ∈ numberSeparators ∧ u.isDecimal x = true

/-- No segment that is found starts inside of a number. -/
def ReadsNumbersWhole (message : Text) : Prop :=
  ∀ segments, iterDurationSegments u message = .ok segments → ∀ segment ∈ segments,
    ¬ InsideNumber u ((u.lower message).take segment.start)
      ((u.lower message).drop segment.start)

/-- Digits, white space or none, and a unit that no word code point follows. -/
structure IsDigitDuration (amount sp unit post : Text) : Prop where
  ne_nil : amount ≠ []
  amount : ∀ c ∈ amount, u.isDecimal c = true
  spaces : ∀ c ∈ sp, isSpace c = true
  unit : IsUnit unit
  closed : wordEdge u post = false

/-- The digits of a duration go on a number before a separator, as in "1.5
hours". -/
def HasSplitAmount (text : Text) : Prop :=
  ∃ pre amount sp unit post, text = pre ++ (amount ++ (sp ++ (unit ++ post))) ∧
    IsDigitDuration u amount sp unit post ∧
    InsideNumber u pre (amount ++ (sp ++ (unit ++ post)))

/-- A duration has more digits than `int` reads. -/
def HasLongAmount (text : Text) : Prop :=
  ∃ pre amount sp unit post, text = pre ++ (amount ++ (sp ++ (unit ++ post))) ∧
    IsDigitDuration u amount sp unit post ∧ wordEdge u pre.reverse = false ∧
    maxIntDigits < amount.length

end Literals

variable {u : PyData} {text message : Text}

theorem shape_iff {before amount sp unit post : Text} :
    Shape u (digits u) before amount sp unit post ↔
      IsDigitDuration u amount sp unit post ∧ wordEdge u before = false := by
  constructor
  · intro h
    obtain ⟨hne, hdigits⟩ := (matches_digits u).mp h.amount
    have hedge := h.edge
    rw [wordEdge_append_of_isWordText u (isWordText_of_isDecimal u hne hdigits)] at hedge
    exact ⟨⟨hne, hdigits, h.spaces, h.unit, h.closed⟩, by simpa using hedge⟩
  · rintro ⟨h, hbefore⟩
    refine ⟨?_, (matches_digits u).mpr ⟨h.ne_nil, h.amount⟩, h.spaces, h.unit, h.closed⟩
    rw [hbefore, wordEdge_append_of_isWordText u (isWordText_of_isDecimal u h.ne_nil h.amount)]
    decide

/-- A match that reads on into digits has read only digits before them. -/
theorem isDecimal_of_shape {before amount sp unit post lead rest : Text} {x : Char}
    (h : Shape u (digits u) before amount sp unit post) (hx : u.isDecimal x = true)
    (hw : amount ++ (sp ++ unit) = lead ++ x :: rest) : ∀ c ∈ lead, u.isDecimal c = true := by
  obtain ⟨-, hdigits⟩ := (matches_digits u).mp h.amount
  rcases List.append_eq_append_iff.mp hw with ⟨e, -, htail⟩ | ⟨e, rfl, -⟩
  · have hmem : x ∈ sp ++ unit := by simp [htail]
    have hnot : u.isDecimal x = false := by
      rcases List.mem_append.mp hmem with hmem | hmem
      · exact not_isDecimal_of_isSpace (h.spaces x hmem)
      · exact not_isDecimal_of_isLower (h.unit.isLower.2 x hmem)
    exact absurd (hx.symm.trans hnot) (by decide)
  · exact fun c hc => hdigits c (List.mem_append_left e hc)

theorem uncovered_of_isDigitDuration {pre amount sp unit post : Text}
    (h : IsDigitDuration u amount sp unit post) (hpre : wordEdge u pre.reverse = false) :
    Uncovered (digitDurationPattern u) [] pre (amount ++ (sp ++ (unit ++ post))) := by
  intro a w b htext hlt hm
  by_contra hle
  rw [Nat.not_le] at hle
  obtain ⟨ds, sp', unit', rfl, hshape⟩ := matches_durationPattern.mp hm
  rcases List.append_eq_append_iff.mp htext with ⟨e, rfl, -⟩ | ⟨lead, rfl, hread⟩
  · rw [List.length_append] at hlt
    omega
  · rw [List.length_append] at hlt hle
    rcases List.append_eq_append_iff.mp hread with ⟨e, rfl, -⟩ | ⟨e, hw, hrest⟩
    · rw [List.length_append] at hle
      omega
    · obtain ⟨x, e, rfl⟩ : ∃ x e', e = x :: e' := by
        refine List.exists_cons_of_ne_nil ?_
        rintro rfl
        rw [hw, List.append_nil] at hle
        omega
      obtain ⟨y, amount', rfl⟩ := List.exists_cons_of_ne_nil h.ne_nil
      obtain ⟨rfl, -⟩ := List.cons.inj hrest
      have hlead := isDecimal_of_shape hshape (h.amount y List.mem_cons_self) hw
      have hne : lead ≠ [] := by
        rintro rfl
        rw [List.length_nil] at hlt
        omega
      have hword := (isWordText_of_isDecimal u hne hlead).reverse
      rw [List.reverse_append, wordEdge_append_of_isWordText u hword] at hpre
      exact Bool.noConfusion hpre

/-- The digit pattern finds every duration in digits that starts at a word edge. -/
theorem exists_found_of_isDigitDuration {pre amount sp unit post : Text}
    (htext : text = pre ++ (amount ++ (sp ++ (unit ++ post))))
    (h : IsDigitDuration u amount sp unit post) (hpre : wordEdge u pre.reverse = false) :
    ∃ found ∈ findAll (digitDurationPattern u) text,
      found.start = pre.length ∧ groupText found.groups "1" = amount := by
  have hshape : Shape u (digits u) (pre.reverse ++ []) amount sp unit post := by
    rw [List.append_nil]
    exact shape_iff.mpr ⟨h, hpre⟩
  obtain ⟨founds, hfounds⟩ := (uncovered_of_isDigitDuration h hpre).exists_append
  obtain ⟨found, sp', hfound, hstart, -, hshape', hamount, -⟩ :=
    foundsFrom_of_shape groupFree_digits hshape fun amount' sp' unit' after' h' htext' => by
      obtain ⟨rfl, rfl, rfl, rfl⟩ := eq_of_digitShape h' hshape htext'
      exact ⟨rfl, rfl, rfl⟩
  rw [findAll_eq, htext, hfounds, digitDurationPattern_eq, hfound]
  refine ⟨found, by simp, by simpa using hstart, ?_⟩
  refine (eq_of_digitShape hshape' hshape ?_).1
  rw [← List.append_assoc, hamount, List.append_assoc]

theorem isDigitDuration_of_mem_findAll {found : Found Char}
    (h : found ∈ findAll (digitDurationPattern u) text) :
    ∃ pre amount sp unit post, text = pre ++ (amount ++ (sp ++ (unit ++ post))) ∧
      IsDigitDuration u amount sp unit post ∧ wordEdge u pre.reverse = false ∧
      groupText found.groups "1" = amount ∧ found.start = pre.length := by
  obtain ⟨pre, amount, sp, unit, post, htext, hshape, hamount, -, hstart⟩ :=
    shape_of_mem_findAll groupFree_digits h
  obtain ⟨hduration, hpre⟩ := shape_iff.mp hshape
  exact ⟨pre, amount, sp, unit, post, by simpa using htext, hduration, hpre, hamount, hstart⟩

theorem exists_unit_of_mem_findAll {found : Found Char}
    (h : found ∈ findAll (digitDurationPattern u) text) :
    ∃ unit, normalizeUnit (groupText found.groups "2") = some unit := by
  obtain ⟨_, _, _, unit, _, -, hshape, -, hunit, -⟩ := shape_of_mem_findAll groupFree_digits h
  rw [hunit]
  exact exists_normalizeUnit hshape.unit

/-- The segments in digits start where the matches do, and there are some unless
a match has too many digits. -/
theorem digitSegments_of_units {founds : List (Found Char)}
    (h : ∀ found ∈ founds, ∃ unit, normalizeUnit (groupText found.groups "2") = some unit) :
    (∃ segments, digitSegments u founds = .ok segments ∧
        segments.map Segment.start = founds.map Found.start ∧
        ∀ found ∈ founds, (groupText found.groups "1").length ≤ maxIntDigits) ∨
      ∃ e, digitSegments u founds = .error e ∧
        ∃ found ∈ founds, maxIntDigits < (groupText found.groups "1").length := by
  induction founds with
  | nil => exact .inl ⟨[], rfl, rfl, by simp⟩
  | cons found rest ih =>
      obtain ⟨unit, hunit⟩ := h found List.mem_cons_self
      rw [digitSegments, hunit, PyData.intOfDigits]
      by_cases hshort : (groupText found.groups "1").length ≤ maxIntDigits
      · rw [if_pos hshort]
        rcases ih fun other hother => h other (List.mem_cons_of_mem found hother) with
          ⟨segments, hsegments, hstarts, hall⟩ | ⟨e, herror, other, hother, hlong⟩
        · rw [hsegments]
          refine .inl ⟨_, rfl, ?_, ?_⟩
          · rw [List.map_cons, List.map_cons, hstarts]
          · exact List.forall_mem_cons.mpr ⟨hshort, hall⟩
        · rw [herror]
          exact .inr ⟨e, rfl, other, List.mem_cons_of_mem found hother, hlong⟩
      · rw [if_neg hshort]
        exact .inr ⟨_, rfl, found, List.mem_cons_self, Nat.not_le.mp hshort⟩

theorem mem_addWordSegments {segments : List Segment} {founds : List (Found Char)}
    {segment : Segment} (h : segment ∈ addWordSegments segments founds) :
    segment ∈ segments ∨ ∃ found ∈ founds, segment.start = found.start := by
  induction founds generalizing segments with
  | nil => exact .inl h
  | cons found rest ih =>
      rw [addWordSegments] at h
      split at h
      · rcases ih h with hmem | ⟨other, hother, hstart⟩
        · exact .inl hmem
        · exact .inr ⟨other, List.mem_cons_of_mem found hother, hstart⟩
      · split at h
        · rcases ih h with hmem | ⟨other, hother, hstart⟩
          · rcases List.mem_append.mp hmem with hmem | hmem
            · exact .inl hmem
            · rw [List.mem_singleton.mp hmem]
              exact .inr ⟨found, List.mem_cons_self, rfl⟩
          · exact .inr ⟨other, List.mem_cons_of_mem found hother, hstart⟩
        · rcases ih h with hmem | ⟨other, hother, hstart⟩
          · exact .inl hmem
          · exact .inr ⟨other, List.mem_cons_of_mem found hother, hstart⟩

theorem subset_addWordSegments (segments : List Segment) (founds : List (Found Char)) :
    segments ⊆ addWordSegments segments founds := by
  induction founds generalizing segments with
  | nil => exact List.Subset.refl _
  | cons found rest ih =>
      rw [addWordSegments]
      split
      · exact ih segments
      · split
        · exact fun segment hsegment => ih _ (List.mem_append_left _ hsegment)
        · exact ih segments

/-- What is found of a message: nothing where an amount is too long, and else the
segments in digits with some in words. -/
theorem iterDurationSegments_cases (u : PyData) (message : Text) :
    (∃ segments, iterDurationSegments u message = .ok segments ∧
        (∀ found ∈ findAll (digitDurationPattern u) (u.lower message),
          ∃ segment ∈ segments, segment.start = found.start) ∧
        (∀ segment ∈ segments,
          (∃ found ∈ findAll (digitDurationPattern u) (u.lower message),
            segment.start = found.start) ∨
          ∃ found ∈ findAll (wordDurationPattern u) (u.lower message),
            segment.start = found.start) ∧ ¬ HasLongAmount u (u.lower message)) ∨
      (∃ e, iterDurationSegments u message = .error e) ∧
        HasLongAmount u (u.lower message) := by
  rw [iterDurationSegments]
  have hlong : (∃ found ∈ findAll (digitDurationPattern u) (u.lower message),
      maxIntDigits < (groupText found.groups "1").length) ↔
        HasLongAmount u (u.lower message) := by
    constructor
    · rintro ⟨found, hfound, hlong⟩
      obtain ⟨pre, amount, sp, unit, post, htext, h, hpre, rfl, -⟩ :=
        isDigitDuration_of_mem_findAll hfound
      exact ⟨pre, _, sp, unit, post, htext, h, hpre, hlong⟩
    · rintro ⟨pre, amount, sp, unit, post, htext, h, hpre, hlong⟩
      obtain ⟨found, hfound, -, rfl⟩ := exists_found_of_isDigitDuration htext h hpre
      exact ⟨found, hfound, hlong⟩
  rw [← hlong]
  rcases digitSegments_of_units fun found hfound => exists_unit_of_mem_findAll hfound with
    ⟨segments, hsegments, hstarts, hall⟩ | ⟨e, herror, hexists⟩
  · refine .inl ⟨_, by rw [hsegments]; rfl, ?_, ?_, ?_⟩
    · intro found hfound
      have hmem : found.start ∈ segments.map Segment.start := by
        rw [hstarts]
        exact List.mem_map_of_mem hfound
      obtain ⟨segment, hsegment, hstart⟩ := List.mem_map.mp hmem
      refine ⟨segment, ?_, hstart⟩
      rw [List.mem_insertionSort]
      exact subset_addWordSegments _ _ hsegment
    · intro segment hsegment
      rw [List.mem_insertionSort] at hsegment
      refine (mem_addWordSegments hsegment).imp_left fun hmem => ?_
      have hstart : segment.start ∈ (findAll (digitDurationPattern u) (u.lower message)).map
          Found.start := by
        rw [← hstarts]
        exact List.mem_map_of_mem hmem
      obtain ⟨found, hfound, heq⟩ := List.mem_map.mp hstart
      exact ⟨found, hfound, heq.symm⟩
    · rintro ⟨found, hfound, hlong⟩
      exact absurd (hall found hfound) (Nat.not_le.mpr hlong)
  · exact .inr ⟨⟨e, by rw [herror]; rfl⟩, hexists⟩

theorem InsideNumber.wordEdge {pre post : Text} (h : InsideNumber u pre post) :
    wordEdge u pre.reverse = false := by
  obtain ⟨lead, d, separator, x, rest, rfl, -, -, hseparator, -⟩ := h
  have hall : ∀ c ∈ numberSeparators, c.toNat < 128 ∧ (c.isAlphanum || c == '_') = false :=
    forall_mem_of_all (by decide)
  obtain ⟨hascii, hword⟩ := hall separator hseparator
  have hreverse : (lead ++ [d, separator]).reverse = separator :: d :: lead.reverse := by simp
  rw [hreverse]
  change u.isWord separator = false
  rw [isWord_ascii u hascii, hword]

/-- A duration in words does not start with a digit. -/
theorem not_insideNumber_of_words {pre amount sp unit post : Text}
    (h : Shape u (plus true (numberWordPattern u)) pre.reverse amount sp unit post) :
    ¬ InsideNumber u pre (amount ++ (sp ++ (unit ++ post))) := by
  rintro ⟨-, -, -, x, rest, -, hpost, -, -, hx⟩
  obtain ⟨y, w, hw⟩ := List.exists_cons_of_ne_nil h.ne_nil
  have hread : (amount ++ (sp ++ unit)) ++ post = x :: rest := by
    rw [← hpost]
    simp
  rw [hw] at hread
  obtain ⟨rfl, -⟩ := List.cons.inj hread
  have hchar := isLower_or_isSeparator_of_shape h y (by rw [hw]; exact List.mem_cons_self)
  have hnot : u.isDecimal y = false :=
    hchar.elim not_isDecimal_of_isLower not_isDecimal_of_isSeparator
  exact absurd (hx.symm.trans hnot) (by decide)

/-- Every number of a message is read whole exactly if no duration in digits goes
on a number, or reading fails on a number of too many digits. -/
theorem readsNumbersWhole_iff (u : PyData) (message : Text) :
    ReadsNumbersWhole u message ↔
      ¬ HasSplitAmount u (u.lower message) ∨ HasLongAmount u (u.lower message) := by
  rcases iterDurationSegments_cases u message with
    ⟨segments, hsegments, hdigits, hall, hshort⟩ | ⟨⟨e, herror⟩, hlong⟩
  · rw [or_iff_left hshort]
    constructor
    · rintro hwhole ⟨pre, amount, sp, unit, post, htext, hduration, hinside⟩
      obtain ⟨found, hfound, hstart, -⟩ :=
        exists_found_of_isDigitDuration htext hduration hinside.wordEdge
      obtain ⟨segment, hsegment, hsame⟩ := hdigits found hfound
      have hnot := hwhole segments hsegments segment hsegment
      rw [hsame, hstart, htext, List.take_left' rfl, List.drop_left' rfl] at hnot
      exact hnot hinside
    · intro hsplit segments' hsegments' segment hsegment hinside
      obtain rfl := Except.ok.inj (hsegments.symm.trans hsegments')
      rcases hall segment hsegment with ⟨found, hfound, hstart⟩ | ⟨found, hfound, hstart⟩
      · obtain ⟨pre, amount, sp, unit, post, htext, hduration, -, -, hpre⟩ :=
          isDigitDuration_of_mem_findAll hfound
        rw [hstart, hpre, htext, List.take_left' rfl, List.drop_left' rfl] at hinside
        exact hsplit ⟨pre, amount, sp, unit, post, htext, hduration, hinside⟩
      · obtain ⟨pre, amount, sp, unit, post, htext, hshape, -, -, hpre⟩ :=
          shape_of_mem_findAll groupFree_numberWords hfound
        simp only [List.append_assoc] at htext
        rw [hstart, hpre, htext, List.take_left' rfl, List.drop_left' rfl] at hinside
        exact not_insideNumber_of_words hshape hinside
  · refine ⟨fun _ => .inr hlong, fun _ segments hsegments => ?_⟩
    rw [herror] at hsegments
    cases hsegments

/-- "1.5 hours" is read as five hours. -/
theorem not_readsNumbersWhole_decimal :
    ¬ ∀ (u : PyData) (message : Text), ReadsNumbersWhole u message := by
  intro h
  have hsegments : iterDurationSegments .ascii "set a timer for 1.5 hours".toList =
      .ok [⟨5, .hours, 18, 25⟩] := by decide +kernel
  refine h .ascii _ _ hsegments _ List.mem_cons_self ?_
  exact ⟨"set a timer for ".toList, '1', '.', '5', " hours".toList, by decide, by decide,
    by decide, by decide, by decide⟩

end NanoCore.Common.NumericLiterals
