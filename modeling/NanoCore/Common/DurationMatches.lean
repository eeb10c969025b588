import NanoCore.Common.Duration
import NanoCore.Foundation.RegexFindAll

namespace NanoCore.Common.DurationMatches

open NanoCore.Foundation.PythonText
open NanoCore.Foundation.Regex
open NanoCore.Foundation.RegexSearch
open NanoCore.Foundation.RegexFindAll
open NanoCore.Foundation.PythonRegex
open NanoCore.Common.Duration

variable (u : PyData)

/-- Both patterns: an amount and a unit between word boundaries. -/
def durationPattern (amount : Regex) : Regex :=
  seqs [wordBoundary u, .group "1" amount, optSpaces, unitPattern, wordBoundary u]

theorem digitDurationPattern_eq : digitDurationPattern u = durationPattern u (digits u) :=
  rfl

abbrev IsLower (c : Char) : Prop := 'a' ≤ c ∧ c ≤ 'z'

def IsUnit (unit : Text) : Prop := ∃ entry ∈ unitAliases, unit = entry.1.toList

theorem normalizeUnit_of_mem {entry : String × DurationUnit} (h : entry ∈ unitAliases) :
    normalizeUnit entry.1.toList = some entry.2 := by
  have hall : (unitAliases.all fun e =>
      decide (normalizeUnit e.1.toList = some e.2)) = true := by decide
  exact of_decide_eq_true (List.all_eq_true.mp hall entry h)

theorem exists_normalizeUnit {unit : Text} (h : IsUnit unit) :
    ∃ kind, normalizeUnit unit = some kind := by
  obtain ⟨entry, hentry, rfl⟩ := h
  exact ⟨entry.2, normalizeUnit_of_mem hentry⟩

theorem IsUnit.isLower {unit : Text} (h : IsUnit unit) :
    unit ≠ [] ∧ ∀ c ∈ unit, IsLower c := by
  obtain ⟨entry, hentry, rfl⟩ := h
  have hall : (unitAliases.all fun e => !e.1.toList.isEmpty &&
      e.1.toList.all fun c => decide (IsLower c)) = true := by decide
  have h := List.all_eq_true.mp hall entry hentry
  rw [Bool.and_eq_true] at h
  exact ⟨by simpa using h.1, forall_mem_of_all h.2⟩

theorem IsUnit.exists_initial {unit : Text} (h : IsUnit unit) :
    ∃ c ∈ unit, c ∈ ['s', 'm', 'h'] := by
  obtain ⟨entry, hentry, rfl⟩ := h
  have hall : (unitAliases.all fun e =>
      e.1.toList.any fun c => ['s', 'm', 'h'].contains c) = true := by decide
  obtain ⟨c, hc, hinitial⟩ := List.any_eq_true.mp (List.all_eq_true.mp hall entry hentry)
  exact ⟨c, hc, List.contains_iff_mem.mp hinitial⟩

theorem lt_of_isLower {c : Char} (h : IsLower c) : c.toNat < 128 := by
  have hz : c.toNat ≤ 122 := UInt32.le_iff_toNat_le.mp h.2
  omega

theorem isWord_of_isLower {c : Char} (h : IsLower c) : u.isWord c = true := by
  have hc := lt_of_isLower h
  rw [isWord_ascii u hc]
  revert h
  refine ascii_forall (P := fun c => IsLower c → (c.isAlphanum || c == '_') = true) ?_ c hc
  decide

theorem IsUnit.isWordText {unit : Text} (h : IsUnit unit) : IsWordText u unit :=
  ⟨h.isLower.1, fun c hc => isWord_of_isLower u (h.isLower.2 c hc)⟩

/-- An amount, white space and a unit, read at a word boundary and ending at one. -/
structure Shape (amountPattern : Regex) (before amount sp unit after : Text) : Prop where
  edge : wordEdge u before ≠ wordEdge u (amount ++ (sp ++ (unit ++ after)))
  amount : Matches amountPattern before amount (sp ++ (unit ++ after))
  spaces : ∀ c ∈ sp, isSpace c = true
  unit : IsUnit unit
  closed : wordEdge u after = false

variable {u} {amountPattern : Regex}

theorem matches_unitPattern {before w after : Text} :
    Matches unitPattern before w after ↔ IsUnit w := by
  change Matches (litAlts (unitAliases.map Prod.fst)) before w after ↔ _
  rw [matches_litAlts]
  simp [IsUnit]

theorem closed_iff {unit before after : Text} (h : IsUnit unit) :
    wordEdge u (unit.reverse ++ before) ≠ wordEdge u after ↔ wordEdge u after = false := by
  rw [wordEdge_append_of_isWordText u (h.isWordText u).reverse]
  cases wordEdge u after <;> simp

theorem matches_durationPattern {before w after : Text} :
    Matches (durationPattern u amountPattern) before w after ↔
      ∃ amount sp unit, w = amount ++ (sp ++ unit) ∧
        Shape u amountPattern before amount sp unit after := by
  simp only [durationPattern, matches_seqs_cons, matches_wordBoundary, matches_optSpaces,
    matches_unitPattern, matches_seqs_nil]
  constructor
  · rintro ⟨_, _, rfl, ⟨rfl, hedge⟩, amount, _, rfl, hamount, sp, _, rfl, hsp, unit, _, rfl,
      hunit, _, _, rfl, ⟨rfl, hclosed⟩, rfl⟩
    refine ⟨amount, sp, unit, by simp, ?_⟩
    simp only [List.append_nil, List.nil_append, List.append_assoc] at hedge hamount hclosed
    exact ⟨hedge, hamount, hsp, hunit, (closed_iff hunit).mp hclosed⟩
  · rintro ⟨amount, sp, unit, rfl, h⟩
    refine ⟨[], amount ++ (sp ++ unit), rfl, ⟨rfl, by simpa using h.edge⟩, amount, sp ++ unit,
      rfl, ?_, sp, unit, rfl, h.spaces, unit, [], by simp, h.unit, [], [], rfl, ⟨rfl, ?_⟩, rfl⟩
    · change Matches amountPattern before amount (sp ++ unit ++ after)
      rw [List.append_assoc]
      exact h.amount
    · simpa using (closed_iff h.unit).mpr h.closed

theorem groupFree_litAlts (words : List String) : GroupFree (litAlts words) := by
  refine groupFree_alts fun r hr => ?_
  obtain ⟨w, -, rfl⟩ := List.mem_map.mp hr
  exact groupFree_word

/-- A run of a duration pattern reads its shape, and its groups hold the amount
and the unit. -/
theorem shape_of_mem_runs (hfree : GroupFree amountPattern) {c d : Cursor Char}
    (h : d ∈ runs (durationPattern u amountPattern) c) :
    ∃ amount sp unit, Reads c (amount ++ (sp ++ unit)) d ∧
      Shape u amountPattern c.before amount sp unit d.after ∧
      groupText d.groups "1" = amount ∧ groupText d.groups "2" = unit := by
  rw [durationPattern] at h
  simp only [mem_runs_seqs_cons, mem_runs_seqs_nil, wordBoundary, mem_runs_look] at h
  obtain ⟨_, ⟨hedge, rfl⟩, d₁, h₁, d₂, h₂, d₃, h₃, _, ⟨hclosed, rfl⟩, rfl⟩ := h
  obtain ⟨amount, hread₁, hamount, hgroups₁⟩ := mem_runs_group hfree h₁
  obtain ⟨sp, hread₂, hsp⟩ := runs_sound _ _ _ h₂
  have hgroups₂ : d₂.groups = d₁.groups := groups_of_mem_runs (by trivial) _ _ h₂
  obtain ⟨unit, hread₃, hunit, hgroups₃⟩ := mem_runs_group (groupFree_litAlts _) h₃
  have hunit : IsUnit unit := matches_unitPattern.mp hunit
  rw [matches_optSpaces] at hsp
  have hread := (hread₁.trans hread₂).trans hread₃
  rw [List.append_assoc] at hread
  refine ⟨amount, sp, unit, hread, ⟨?_, ?_, hsp, hunit, ?_⟩, ?_, ?_⟩
  · rw [hread.1] at hedge
    simpa using hedge
  · rw [hread₂.1, hread₃.1] at hamount
    exact hamount
  · rw [hread₃.2] at hclosed
    exact (closed_iff hunit).mp (by simpa using hclosed)
  · rw [hgroups₃, hgroups₂, hgroups₁]
    rfl
  · rw [hgroups₃]
    rfl

theorem groupFree_digits : GroupFree (digits u) := groupFree_plus

theorem groupFree_numberWords : GroupFree (plus true (numberWordPattern u)) := by
  have hpiece : GroupFree (numberWordPattern u) := by
    refine ⟨?_, groupFree_litAlts _, trivial⟩
    refine groupFree_seqs fun r hr => ?_
    simp only [List.mem_cons, List.not_mem_nil, or_false] at hr
    rcases hr with rfl | rfl | rfl | rfl
    · trivial
    · exact groupFree_word
    · exact ⟨groupFree_word, trivial⟩
    · trivial
  exact ⟨hpiece, hpiece⟩

/-- Each duration found is a shape somewhere in the text. -/
theorem shape_of_mem_findAll (hfree : GroupFree amountPattern) {text : Text}
    {found : Found Char} (h : found ∈ findAll (durationPattern u amountPattern) text) :
    ∃ pre amount sp unit post, text = pre ++ (amount ++ (sp ++ unit)) ++ post ∧
      Shape u amountPattern pre.reverse amount sp unit post ∧
      groupText found.groups "1" = amount ∧ groupText found.groups "2" = unit ∧
      found.start = pre.length := by
  rw [findAll_eq] at h
  obtain ⟨pre, w, post, d, rfl, hd, hread, hgroups, hstart⟩ := exists_run_of_mem_foundsFrom h
  obtain ⟨amount, sp, unit, hread', hshape, h₁, h₂⟩ := shape_of_mem_runs hfree hd
  have hpost : d.after = post := (List.append_cancel_left hread.1).symm
  have hw : w = amount ++ (sp ++ unit) := by
    have h := hread'.1
    rw [hpost] at h
    exact List.append_cancel_right h
  rw [hpost, List.append_nil] at hshape
  rw [List.length_nil, Nat.zero_add] at hstart
  rw [hgroups, hw]
  exact ⟨pre, amount, sp, unit, post, by simp, hshape, h₁, h₂, hstart⟩

theorem Shape.ne_nil {before amount sp unit after : Text}
    (h : Shape u amountPattern before amount sp unit after) : amount ++ (sp ++ unit) ≠ [] := by
  intro hnil
  exact h.unit.isLower.1 (List.append_eq_nil_iff.mp (List.append_eq_nil_iff.mp hnil).2).2

/-- A stretch in which no shape starts is skipped. -/
theorem foundsFrom_skip_of_not_shape {stretch before rest : Text}
    (h : ∀ pre x post, stretch = pre ++ x :: post → ∀ amount sp unit after,
      Shape u amountPattern (pre.reverse ++ before) amount sp unit after →
      amount ++ (sp ++ (unit ++ after)) ≠ x :: (post ++ rest)) :
    foundsFrom (durationPattern u amountPattern) before (stretch ++ rest) =
      foundsFrom (durationPattern u amountPattern) (stretch.reverse ++ before) rest := by
  refine foundsFrom_skip fun pre x post hstretch => ?_
  rw [scanHere_eq_none_iff]
  intro w after hw _ hm
  obtain ⟨amount, sp, unit, rfl, hshape⟩ := matches_durationPattern.mp hm
  refine h pre x post hstretch amount sp unit after hshape ?_
  rw [← List.cons_append, hw]
  simp

/-- Where every shape that starts reads the same text, the scan finds it. -/
theorem foundsFrom_of_shape (hfree : GroupFree amountPattern) {before amount sp unit after : Text}
    (hshape : Shape u amountPattern before amount sp unit after)
    (hunique : ∀ amount' sp' unit' after',
      Shape u amountPattern before amount' sp' unit' after' →
      amount' ++ (sp' ++ (unit' ++ after')) = amount ++ (sp ++ (unit ++ after)) →
      amount' ++ sp' = amount ++ sp ∧ unit' = unit ∧ after' = after) :
    ∃ found sp', foundsFrom (durationPattern u amountPattern) before
        (amount ++ (sp ++ (unit ++ after))) =
          found :: foundsFrom (durationPattern u amountPattern)
            ((amount ++ (sp ++ unit)).reverse ++ before) after ∧
      found.start = before.length ∧
      found.stop = before.length + (amount ++ (sp ++ unit)).length ∧
      Shape u amountPattern before (groupText found.groups "1") sp' unit after ∧
      groupText found.groups "1" ++ sp' = amount ++ sp ∧ groupText found.groups "2" = unit := by
  have htext : amount ++ (sp ++ (unit ++ after)) = amount ++ (sp ++ unit) ++ after := by simp
  obtain ⟨d, hd⟩ := exists_scanHere hshape.ne_nil
    (matches_durationPattern.mpr ⟨amount, sp, unit, rfl, hshape⟩)
  obtain ⟨amount', sp', unit', hread, hshape', hgroup, hgroup'⟩ :=
    shape_of_mem_runs hfree (mem_runs_of_scanHere hd)
  have hsame := hread.1.symm
  simp only [List.append_assoc] at hsame
  obtain ⟨hamount, hunit, hafter⟩ := hunique amount' sp' unit' d.after hshape' hsame
  have hw : amount' ++ (sp' ++ unit') = amount ++ (sp ++ unit) := by
    rw [← List.append_assoc, hamount, hunit, List.append_assoc]
  rw [hw] at hread
  refine ⟨⟨before.length, before.length + (amount ++ (sp ++ unit)).length,
    amount ++ (sp ++ unit), d.groups⟩, sp', ?_, rfl, rfl, ?_, ?_, ?_⟩
  · rw [htext]
    refine foundsFrom_of_some hd ⟨?_, hread.2⟩
    rw [hafter]
  · rw [hgroup, ← hunit, ← hafter]
    exact hshape'
  · rw [hgroup, hamount]
  · rw [hgroup', hunit]

end NanoCore.Common.DurationMatches
