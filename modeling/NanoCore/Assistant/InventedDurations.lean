import NanoCore.Assistant.Flows.Timer
import NanoCore.Common.DurationMatches

namespace NanoCore.Assistant.InventedDurations

open NanoCore.Foundation.PythonText
open NanoCore.Foundation.Regex
open NanoCore.Foundation.RegexSearch
open NanoCore.Foundation.RegexFindAll
open NanoCore.Foundation.PythonRegex
open NanoCore.Assistant.Flows.Confirmation
open NanoCore.Assistant.Flows.Timer
open NanoCore.Assistant.Sources
open NanoCore.Assistant.State
open NanoCore.Common.Duration
open NanoCore.Common.DurationMatches
open NanoCore.Timers.Parsing

section Naming

variable (u : PyData)

def amountWords : List String :=
  ["a", "an"] ++ smallNumberWords.map Prod.fst ++ tensNumberWords.map Prod.fst ++ ["hundred"]

/-- Digits with or without white space behind them, or a number word that the
white space ends. -/
def IsAmount (amount sp : Text) : Prop :=
  (amount ≠ [] ∧ ∀ c ∈ amount, u.isDecimal c = true) ∨
    (∃ word ∈ amountWords, amount = word.toList) ∧ sp ≠ []

def HasAmountBeforeUnit (text : Text) : Prop :=
  ∃ pre amount sp unit post, text = pre ++ (amount ++ (sp ++ unit)) ++ post ∧
    IsAmount u amount sp ∧ (∀ c ∈ sp, isSpace c = true) ∧ IsUnit unit ∧
    wordEdge u pre.reverse = false ∧ wordEdge u post = false

def IsLoneUnitLetter (pre : Text) (x : Char) (post : Text) : Prop :=
  x ∈ ['s', 'm', 'h'] ∧ wordEdge u pre.reverse = false ∧ wordEdge u post = false

/-- The straight apostrophe or the typographic one. -/
def isApostrophe (c : Char) : Bool := c == '\u0027' || c == '\u2019'

def afterApostrophe (pre : Text) : Bool := pre.getLast?.any isApostrophe

/-- A text, in lower case, with neither an amount before a unit nor a unit
letter that stands alone; the end of a contraction does not stand alone. -/
structure NamesNoDuration (text : Text) : Prop where
  amount : ¬ HasAmountBeforeUnit u text
  letter : ∀ pre x post, text = pre ++ x :: post → IsLoneUnitLetter u pre x post →
    afterApostrophe pre = true

/-- A contraction ends in a unit letter, as in "I'm". -/
def HasContractedUnit (text : Text) : Prop :=
  ∃ pre x post, text = pre ++ x :: post ∧ IsLoneUnitLetter u pre x post ∧
    afterApostrophe pre = true

/-- A match of the word pattern reads as a number although no number word stands
before a unit: the word runs into the unit, as in "tens", or only hyphens and
"and" join the two. -/
def HasRunTogetherAmount (text : Text) : Prop :=
  ∃ found ∈ findAll (wordDurationPattern u) text,
    (wordsToNumber (groupText found.groups "1")).isSome = true

end Naming

variable {u : PyData} {text message : Text}

theorem matches_unitOnlyPattern {before w after : Text} :
    Matches (unitOnlyPattern u) before w after ↔
      ∃ x, w = [x] ∧ IsLoneUnitLetter u before.reverse x after := by
  have hletters : ∀ v : Text, (∃ word ∈ ["s", "m", "h"], v = word.toList) ↔
      ∃ x ∈ ['s', 'm', 'h'], v = [x] := by
    intro v
    simp
  have hword : ∀ x ∈ ['s', 'm', 'h'], u.isWord x = true := by
    intro x hx
    simp only [List.mem_cons, List.not_mem_nil, or_false] at hx
    rcases hx with rfl | rfl | rfl <;> exact isWord_of_isLower u (by decide)
  have hgroup : ∀ before v after : Text, Matches (.group "1" (litAlts ["s", "m", "h"]))
      before v after ↔ ∃ x ∈ ['s', 'm', 'h'], v = [x] :=
    fun _ v _ => matches_litAlts.trans (hletters v)
  simp only [unitOnlyPattern, matches_seqs_cons, matches_wordBoundary, hgroup, matches_seqs_nil]
  constructor
  · rintro ⟨_, _, rfl, ⟨rfl, hedge⟩, _, _, rfl, ⟨x, hx, rfl⟩, _, _, rfl, ⟨rfl, hclosed⟩, rfl⟩
    refine ⟨x, rfl, hx, ?_, ?_⟩
    · simpa [wordEdge, hword x hx] using hedge
    · simpa [wordEdge, hword x hx] using hclosed
  · rintro ⟨x, rfl, hx, hedge, hclosed⟩
    rw [List.reverse_reverse] at hedge
    refine ⟨[], [x], rfl, ⟨rfl, ?_⟩, [x], [], rfl, ⟨x, hx, rfl⟩, [], [], rfl, ⟨rfl, ?_⟩, rfl⟩
    · rw [hedge]
      simp [wordEdge, hword x hx]
    · rw [List.nil_append, hclosed]
      simp [wordEdge, hword x hx]

theorem occurs_unitOnlyPattern :
    occurs (unitOnlyPattern u) text = true ↔
      ∃ pre x post, text = pre ++ x :: post ∧ IsLoneUnitLetter u pre x post := by
  rw [occurs_iff]
  constructor
  · rintro ⟨pre, w, post, rfl, hm⟩
    obtain ⟨x, rfl, hx⟩ := matches_unitOnlyPattern.mp hm
    exact ⟨pre, x, post, rfl, by simpa using hx⟩
  · rintro ⟨pre, x, post, rfl, hx⟩
    exact ⟨pre, [x], post, rfl, matches_unitOnlyPattern.mpr ⟨x, rfl, by simpa using hx⟩⟩

/-- The fallback reads a unit wherever a unit letter is a word for the pattern. -/
theorem unitOnly_eq_none_iff :
    ((search (unitOnlyPattern u) text).bind fun found =>
      normalizeUnit (groupText found.groups "1")) = none ↔
      ¬ ∃ pre x post, text = pre ++ x :: post ∧ IsLoneUnitLetter u pre x post := by
  rw [← occurs_unitOnlyPattern, occurs]
  cases hsearch : search (unitOnlyPattern u) text with
  | none => simp
  | some d =>
      obtain ⟨pre, rest, -, hd⟩ := exists_run_of_searchFrom hsearch
      simp only [unitOnlyPattern, mem_runs_seqs_cons, mem_runs_seqs_nil, wordBoundary,
        mem_runs_look] at hd
      obtain ⟨_, ⟨-, rfl⟩, _, he, _, ⟨-, rfl⟩, rfl⟩ := hd
      obtain ⟨w, -, hw, hgroups⟩ := mem_runs_group (groupFree_litAlts _) he
      have hunit : (normalizeUnit w).isSome = true := by
        obtain ⟨word, hword, rfl⟩ := matches_litAlts.mp hw
        simp only [List.mem_cons, List.not_mem_nil, or_false] at hword
        rcases hword with rfl | rfl | rfl <;> rfl
      have htext : groupText d.groups "1" = w := by
        rw [hgroups]
        rfl
      rw [Option.bind_some, htext, Option.isSome_some]
      simpa [Option.isSome_iff_ne_none] using hunit

theorem findAll_digitDurationPattern (h : ¬ HasAmountBeforeUnit u text) :
    findAll (digitDurationPattern u) text = [] := by
  rw [List.eq_nil_iff_forall_not_mem]
  intro found hfound
  obtain ⟨pre, amount, sp, unit, post, htext, hshape, -⟩ :=
    shape_of_mem_findAll groupFree_digits hfound
  obtain ⟨hne, hdigits⟩ := (matches_digits u).mp hshape.amount
  have hedge := hshape.edge
  rw [wordEdge_append_of_isWordText u (isWordText_of_isDecimal u hne hdigits)] at hedge
  exact h ⟨pre, amount, sp, unit, post, htext, .inl ⟨hne, hdigits⟩, hshape.spaces, hshape.unit,
    by simpa using hedge, hshape.closed⟩

theorem addWordSegments_ne_nil {segments : List Segment} (h : segments ≠ [])
    (founds : List (Found Char)) : addWordSegments segments founds ≠ [] := by
  induction founds generalizing segments with
  | nil => exact h
  | cons found rest ih =>
      rw [addWordSegments]
      split
      · exact ih h
      · split
        · exact ih (by simp)
        · exact ih h

theorem addWordSegments_nil_eq_nil_iff {founds : List (Found Char)}
    (h : ∀ found ∈ founds, (normalizeUnit (groupText found.groups "2")).isSome = true) :
    addWordSegments [] founds = [] ↔
      ∀ found ∈ founds, wordsToNumber (groupText found.groups "1") = none := by
  induction founds with
  | nil => simp [addWordSegments]
  | cons found rest ih =>
      obtain ⟨unit, hunit⟩ := Option.isSome_iff_exists.mp (h found List.mem_cons_self)
      have ih := ih fun found hfound => h found (List.mem_cons_of_mem _ hfound)
      simp only [addWordSegments, List.any_nil, Bool.false_eq_true, if_false, hunit,
        List.forall_mem_cons]
      cases hvalue : wordsToNumber (groupText found.groups "1") with
      | none => simpa using ih
      | some value => simpa using addWordSegments_ne_nil (List.cons_ne_nil _ _) rest

theorem normalizeUnit_of_mem_findAll {found : Found Char}
    (h : found ∈ findAll (wordDurationPattern u) text) :
    (normalizeUnit (groupText found.groups "2")).isSome = true := by
  obtain ⟨_, _, _, unit, _, -, hshape, -, hunit, -⟩ := shape_of_mem_findAll groupFree_numberWords h
  obtain ⟨kind, hkind⟩ := exists_normalizeUnit hshape.unit
  rw [hunit, hkind]
  rfl

theorem insertionSort_eq_nil_iff {segments : List Segment} :
    (segments.insertionSort fun a b => a.start ≤ b.start) = [] ↔ segments = [] := by
  rw [← List.length_eq_zero_iff, List.length_insertionSort, List.length_eq_zero_iff]

theorem extractDurationSeconds_of_segments {segments : List Segment}
    (h : iterDurationSegments u message = .ok segments) :
    extractDurationSeconds u message = .ok none ↔
      segments = [] ∧ ((search (unitOnlyPattern u) (u.lower message)).bind fun found =>
        normalizeUnit (groupText found.groups "1")) = none := by
  rw [extractDurationSeconds, h]
  cases segments with
  | cons segment rest =>
      change (Except.ok (some _) : Except PyError (Option Nat)) = .ok none ↔ _
      simp
  | nil =>
      simp only [bind, Except.bind, ne_eq, not_true_eq_false, if_false, true_and]
      cases hunit : (search (unitOnlyPattern u) (u.lower message)).bind fun found =>
          normalizeUnit (groupText found.groups "1") with
      | none => exact ⟨fun _ => rfl, fun _ => rfl⟩
      | some unit =>
          refine ⟨fun hnone => ?_, fun hnone => absurd hnone (Option.some_ne_none unit)⟩
          exact absurd (Except.ok.inj hnone) (Option.some_ne_none _)

/-- Without an amount before a unit, the extractor finds nothing exactly if no
unit letter is a word and no match of the word pattern reads as a number. -/
theorem extractDurationSeconds_eq_none_iff (h : ¬ HasAmountBeforeUnit u (u.lower message)) :
    extractDurationSeconds u message = .ok none ↔
      (¬ ∃ pre x post, u.lower message = pre ++ x :: post ∧ IsLoneUnitLetter u pre x post) ∧
        ¬ HasRunTogetherAmount u (u.lower message) := by
  have hwords : ¬ HasRunTogetherAmount u (u.lower message) ↔
      addWordSegments [] (findAll (wordDurationPattern u) (u.lower message)) = [] := by
    rw [addWordSegments_nil_eq_nil_iff fun _ => normalizeUnit_of_mem_findAll]
    simp [HasRunTogetherAmount]
  have hsegments : iterDurationSegments u message =
      .ok ((addWordSegments [] (findAll (wordDurationPattern u) (u.lower message))).insertionSort
        fun a b => a.start ≤ b.start) := by
    rw [iterDurationSegments, findAll_digitDurationPattern h]
    rfl
  rw [extractDurationSeconds_of_segments hsegments, insertionSort_eq_nil_iff, ← hwords,
    unitOnly_eq_none_iff, and_comm]

/-- Nothing is read as a duration, and the request is answered by the question. -/
def AsksForDuration (u : PyData) (environment : Environment) (request : Request)
    (assistant : AssistantState) : Prop :=
  extractDurationSeconds u request.message = .ok none ∧
    handleDirectRequest u environment request assistant = requestTimerDuration request assistant

variable {environment : Environment} {request : Request} {assistant : AssistantState}

theorem handleDirectRequest_of_none (hlower : u.lower (u.lower message) = u.lower message)
    (hmessage : request.message = message) (h : extractDurationSeconds u message = .ok none) :
    handleDirectRequest u environment request assistant =
      requestTimerDuration request assistant := by
  have hargs : extractDurationArgs u request.message = .ok none := by
    rw [hmessage, extractDurationArgs, h]
    rfl
  have hneeds : ∃ needs, needsTimerDuration u request.message = .ok needs := by
    rw [hmessage, needsTimerDuration, extractDurationSeconds_lower hlower, h]
    split
    · exact ⟨_, rfl⟩
    · split
      · exact ⟨_, rfl⟩
      · split
        · exact ⟨_, rfl⟩
        · exact ⟨_, rfl⟩
  obtain ⟨needs, hneeds⟩ := hneeds
  rw [handleDirectRequest, hneeds, hargs]
  cases needs <;> rfl

/-- A message that names no duration is read as naming none, and is asked for
one, exactly if no contraction in it ends in a unit letter and no number word in
it runs together with a unit. -/
theorem asksForDuration_iff
    (hlower : u.lower (u.lower request.message) = u.lower request.message)
    (h : NamesNoDuration u (u.lower request.message)) :
    AsksForDuration u environment request assistant ↔
      ¬ HasContractedUnit u (u.lower request.message) ∧
        ¬ HasRunTogetherAmount u (u.lower request.message) := by
  have hletter : HasContractedUnit u (u.lower request.message) ↔
      ∃ pre x post, u.lower request.message = pre ++ x :: post ∧
        IsLoneUnitLetter u pre x post := by
    constructor
    · rintro ⟨pre, x, post, htext, hx, -⟩
      exact ⟨pre, x, post, htext, hx⟩
    · rintro ⟨pre, x, post, htext, hx⟩
      exact ⟨pre, x, post, htext, hx, h.letter pre x post htext hx⟩
  rw [hletter, ← extractDurationSeconds_eq_none_iff h.amount, AsksForDuration]
  exact and_iff_left_of_imp (handleDirectRequest_of_none hlower rfl)

/-- A unit follows the split of a text, and something that may end an amount
precedes it; or the split is behind a unit letter that stands alone. -/
def suggestsDuration (u : PyData) (pre post : Text) : Bool :=
  (pre.getLast?.any (fun c => u.isDecimal c || isSpace c) &&
      unitAliases.any fun entry =>
        entry.1.toList.isPrefixOf post && !wordEdge u (post.drop entry.1.length)) ||
    (!wordEdge u pre.reverse && !afterApostrophe pre &&
      (post.head?.any fun x => ['s', 'm', 'h'].contains x) && !wordEdge u (post.drop 1))

def mayNameDuration (u : PyData) (text : Text) : Bool :=
  (List.range (text.length + 1)).any fun i => suggestsDuration u (text.take i) (text.drop i)

theorem not_suggestsDuration (h : mayNameDuration u text = false) {pre post : Text}
    (htext : text = pre ++ post) : suggestsDuration u pre post = false := by
  have hmem : pre.length ∈ List.range (text.length + 1) := by
    rw [List.mem_range, htext, List.length_append]
    omega
  have hsplit := List.any_eq_false.mp h pre.length hmem
  rw [htext, List.take_left' rfl, List.drop_left' rfl] at hsplit
  exact (Bool.not_eq_true _).mp hsplit

theorem namesNoDuration_of_not_mayNameDuration (h : mayNameDuration u text = false) :
    NamesNoDuration u text where
  amount := by
    rintro ⟨pre, amount, sp, unit, post, htext, hamount, hsp, ⟨entry, hentry, rfl⟩, -, hpost⟩
    have hsplit : text = (pre ++ (amount ++ sp)) ++ (entry.1.toList ++ post) := by
      rw [htext]
      simp
    have hlast : ((pre ++ (amount ++ sp)).getLast?.any fun c => u.isDecimal c || isSpace c) =
        true := by
      rcases List.eq_nil_or_concat sp with rfl | ⟨sp, c, rfl⟩
      · obtain ⟨hne, hdigits⟩ := hamount.resolve_right fun h => h.2 rfl
        obtain ⟨amount, c, rfl⟩ := (List.eq_nil_or_concat amount).resolve_left hne
        simp [hdigits c (by simp)]
      · simp [hsp c (by simp)]
    have hunit : (unitAliases.any fun entry' => entry'.1.toList.isPrefixOf
        (entry.1.toList ++ post) && !wordEdge u ((entry.1.toList ++ post).drop entry'.1.length)) =
        true := by
      refine List.any_eq_true.mpr ⟨entry, hentry, ?_⟩
      rw [← String.length_toList, List.drop_left, hpost]
      simp
    have hno := not_suggestsDuration h hsplit
    rw [suggestsDuration, hlast, hunit] at hno
    exact Bool.noConfusion hno
  letter := by
    rintro pre x post htext ⟨hx, hpre, hpost⟩
    have hno := not_suggestsDuration h htext
    by_contra hapostrophe
    rw [Bool.not_eq_true] at hapostrophe
    have hletter : ((x :: post).head?.any fun x => ['s', 'm', 'h'].contains x) = true :=
      List.contains_iff_mem.mpr hx
    rw [suggestsDuration, hletter, hpre, hapostrophe, List.drop_one, List.tail_cons, hpost,
      Bool.or_eq_false_iff] at hno
    exact Bool.noConfusion hno.2

/-- "I'm" is read as one minute. -/
theorem not_asksForDuration_contraction :
    ¬ ∀ (u : PyData) (environment : Environment) (request : Request)
      (assistant : AssistantState),
      u.lower (u.lower request.message) = u.lower request.message →
      NamesNoDuration u (u.lower request.message) →
      AsksForDuration u environment request assistant := by
  intro h
  have hasks := h .ascii (.offline {}) ⟨"default", "Set a timer, I'm hungry.".toList⟩
    (.initial (.initial (.stopped 0))) (by decide)
    (namesNoDuration_of_not_mayNameDuration (by decide))
  have hsome : extractDurationSeconds .ascii "Set a timer, I'm hungry.".toList = .ok (some 60) := by
    decide +kernel
  exact absurd (hsome.symm.trans hasks.1) (by decide)

theorem asksForDuration_plain :
    AsksForDuration .ascii (.offline {}) ⟨"default", "Set a timer, please.".toList⟩
      (.initial (.initial (.stopped 0))) := by
  have hnames : NamesNoDuration .ascii (PyData.ascii.lower "Set a timer, please.".toList) :=
    namesNoDuration_of_not_mayNameDuration (by decide)
  have hnone : extractDurationSeconds .ascii "Set a timer, please.".toList = .ok none := by
    decide +kernel
  obtain ⟨hletters, hamounts⟩ := (extractDurationSeconds_eq_none_iff hnames.amount).mp hnone
  refine (asksForDuration_iff (by decide) hnames).mpr ⟨?_, hamounts⟩
  rintro ⟨pre, x, post, htext, hx, -⟩
  exact hletters ⟨pre, x, post, htext, hx⟩

/-- A number word that runs into a unit letter. -/
example : extractDurationSeconds .ascii "set a timer for tens of squats".toList =
    .ok (some 10) := by decide +kernel

end NanoCore.Assistant.InventedDurations
