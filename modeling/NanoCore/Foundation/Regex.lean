import Mathlib.Data.List.Basic
import Mathlib.Data.List.Infix

/-!
Regular expressions over an arbitrary alphabet, matched by ordered
backtracking.  A pattern is read at a cursor that knows the text on both sides,
so zero-width tests are predicates of the two contexts.
-/

namespace NanoCore.Foundation.Regex

universe u

variable {α : Type u}

/-- Patterns.  The first alternative is tried first, a greedy star tries
another round before it stops, and `look` tests the reversed text before the
cursor and the text after it without consuming anything. -/
inductive Pattern (α : Type u) where
  | eps
  | sat (p : α → Bool)
  | seq (r s : Pattern α)
  | alt (r s : Pattern α)
  | star (greedy : Bool) (r : Pattern α)
  | group (name : String) (r : Pattern α)
  | look (p : List α → List α → Bool)

/-- A position in a text: what is before it (reversed), what is after it, and
the groups captured on the way, latest first. -/
structure Cursor (α : Type u) where
  before : List α
  after : List α
  groups : List (String × List α) := []

def Cursor.capture (name : String) (opened closed : Cursor α) : Cursor α :=
  { closed with
    groups := (name, opened.after.take (opened.after.length - closed.after.length)) ::
      closed.groups }

/-- The repetitions of one round, in order of preference.  A round that
consumes nothing ends the repetition, so the remaining length is enough fuel. -/
def starRuns (greedy : Bool) (round : Cursor α → List (Cursor α)) :
    Nat → Cursor α → List (Cursor α)
  | 0, c => [c]
  | fuel + 1, c =>
      let more := ((round c).filter fun d => d.after.length < c.after.length).flatMap
        (starRuns greedy round fuel)
      if greedy then more ++ [c] else c :: more

/-- Every way to match a pattern from a cursor, in the order in which
backtracking finds them. -/
def runs : Pattern α → Cursor α → List (Cursor α)
  | .eps, c => [c]
  | .sat p, c =>
      match c.after with
      | [] => []
      | x :: rest => if p x then [{ c with before := x :: c.before, after := rest }] else []
  | .seq r s, c => (runs r c).flatMap (runs s)
  | .alt r s, c => runs r c ++ runs s c
  | .star greedy r, c => starRuns greedy (runs r) c.after.length c
  | .group name r, c => (runs r c).map (c.capture name)
  | .look p, c => if p c.before c.after then [c] else []

/-- Zero or more consecutive non-empty rounds of a matching relation. -/
inductive StarMatches (round : List α → List α → List α → Prop) :
    List α → List α → List α → Prop where
  | nil (before after : List α) : StarMatches round before [] after
  | step (before u v after : List α) (hne : u ≠ [])
      (hround : round before u (v ++ after))
      (hrest : StarMatches round (u.reverse ++ before) v after) :
      StarMatches round before (u ++ v) after

/-- `Matches r before w after`: the pattern matches the word `w` when `before`
(reversed) precedes it and `after` follows it. -/
def Matches : Pattern α → List α → List α → List α → Prop
  | .eps, _, w, _ => w = []
  | .sat p, _, w, _ => ∃ x, p x = true ∧ w = [x]
  | .seq r s, before, w, after =>
      ∃ u v, w = u ++ v ∧ Matches r before u (v ++ after) ∧
        Matches s (u.reverse ++ before) v after
  | .alt r s, before, w, after => Matches r before w after ∨ Matches s before w after
  | .star _ r, before, w, after => StarMatches (Matches r) before w after
  | .group _ r, before, w, after => Matches r before w after
  | .look p, before, w, after => w = [] ∧ p before after = true

def Reads (c : Cursor α) (w : List α) (d : Cursor α) : Prop :=
  c.after = w ++ d.after ∧ d.before = w.reverse ++ c.before

theorem Reads.refl (c : Cursor α) : Reads c [] c := by
  simp [Reads]

theorem Reads.trans {c d e : Cursor α} {u v : List α}
    (h : Reads c u d) (h' : Reads d v e) : Reads c (u ++ v) e := by
  rcases h with ⟨hafter, hbefore⟩
  rcases h' with ⟨hafter', hbefore'⟩
  refine ⟨?_, ?_⟩
  · rw [hafter, hafter', List.append_assoc]
  · rw [hbefore', hbefore, List.reverse_append, List.append_assoc]

theorem Reads.length_lt_iff {c d : Cursor α} {w : List α} (h : Reads c w d) :
    d.after.length < c.after.length ↔ w ≠ [] := by
  rw [h.1, List.length_append, ← List.length_pos_iff]
  omega

theorem starRuns_sound {greedy : Bool} {round : Cursor α → List (Cursor α)}
    {rel : List α → List α → List α → Prop}
    (hround : ∀ c d, d ∈ round c → ∃ w, Reads c w d ∧ rel c.before w d.after) :
    ∀ (fuel : Nat) (c d : Cursor α), d ∈ starRuns greedy round fuel c →
      ∃ w, Reads c w d ∧ StarMatches rel c.before w d.after := by
  intro fuel
  induction fuel with
  | zero =>
      intro c d hd
      have hdc : d = c := by simpa [starRuns] using hd
      subst d
      exact ⟨[], Reads.refl c, .nil _ _⟩
  | succ fuel ih =>
      intro c d hd
      have hcases : d = c ∨ ∃ e ∈ round c, e.after.length < c.after.length ∧
          d ∈ starRuns greedy round fuel e := by
        simp only [starRuns] at hd
        split at hd
        · simpa [and_assoc, or_comm] using hd
        · simpa [and_assoc] using hd
      rcases hcases with rfl | ⟨e, he, hlt, hrest⟩
      · exact ⟨[], Reads.refl d, .nil _ _⟩
      · obtain ⟨u, hu, hrel⟩ := hround c e he
        obtain ⟨v, hv, hstar⟩ := ih e d hrest
        refine ⟨u ++ v, hu.trans hv, ?_⟩
        refine .step _ u v _ (hu.length_lt_iff.mp hlt) ?_ ?_
        · rw [← hv.1]
          exact hrel
        · rw [← hu.2]
          exact hstar

theorem runs_sound (r : Pattern α) :
    ∀ c d : Cursor α, d ∈ runs r c → ∃ w, Reads c w d ∧ Matches r c.before w d.after := by
  induction r with
  | eps =>
      intro c d hd
      have hdc : d = c := by simpa [runs] using hd
      subst d
      exact ⟨[], Reads.refl c, rfl⟩
  | sat p =>
      intro c d hd
      rcases c with ⟨before, after, groups⟩
      cases after with
      | nil => simp [runs] at hd
      | cons x rest =>
          by_cases hp : p x = true
          · have hd' : d = ⟨x :: before, rest, groups⟩ := by simpa [runs, hp] using hd
            subst d
            exact ⟨[x], by simp [Reads], x, hp, rfl⟩
          · simp [runs, hp] at hd
  | seq r s ihr ihs =>
      intro c d hd
      simp only [runs, List.mem_flatMap] at hd
      obtain ⟨e, he, hd⟩ := hd
      obtain ⟨u, hu, hr⟩ := ihr c e he
      obtain ⟨v, hv, hs⟩ := ihs e d hd
      refine ⟨u ++ v, hu.trans hv, u, v, rfl, ?_, ?_⟩
      · rw [← hv.1]
        exact hr
      · rw [← hu.2]
        exact hs
  | alt r s ihr ihs =>
      intro c d hd
      simp only [runs, List.mem_append] at hd
      rcases hd with hd | hd
      · obtain ⟨w, hw, hm⟩ := ihr c d hd
        exact ⟨w, hw, Or.inl hm⟩
      · obtain ⟨w, hw, hm⟩ := ihs c d hd
        exact ⟨w, hw, Or.inr hm⟩
  | star greedy r ih =>
      intro c d hd
      exact starRuns_sound ih _ c d hd
  | group name r ih =>
      intro c d hd
      simp only [runs, List.mem_map] at hd
      obtain ⟨e, he, rfl⟩ := hd
      exact ih c e he
  | look p =>
      intro c d hd
      by_cases hp : p c.before c.after = true
      · have hdc : d = c := by simpa [runs, hp] using hd
        subst d
        exact ⟨[], Reads.refl c, rfl, hp⟩
      · simp [runs, hp] at hd

theorem starRuns_complete {greedy : Bool} {round : Cursor α → List (Cursor α)}
    {rel : List α → List α → List α → Prop}
    (hround : ∀ (c : Cursor α) (w after : List α), c.after = w ++ after →
      rel c.before w after → ∃ d ∈ round c, Reads c w d ∧ d.after = after)
    {before w after : List α} (hstar : StarMatches rel before w after) :
    ∀ (fuel : Nat) (c : Cursor α), c.before = before → c.after = w ++ after →
      w.length ≤ fuel →
      ∃ d ∈ starRuns greedy round fuel c, Reads c w d ∧ d.after = after := by
  induction hstar with
  | nil before after =>
      intro fuel c _ hafter _
      refine ⟨c, ?_, Reads.refl c, by simpa using hafter⟩
      cases fuel with
      | zero => simp [starRuns]
      | succ fuel => cases greedy <;> simp [starRuns]
  | step before u v after hne hrel hrest ih =>
      intro fuel c hbefore hafter hfuel
      subst hbefore
      have hupos : 0 < u.length := List.length_pos_iff.mpr hne
      rw [List.length_append] at hfuel
      obtain ⟨n, rfl⟩ : ∃ n, fuel = n + 1 := ⟨fuel - 1, by omega⟩
      obtain ⟨e, he, hread, heafter⟩ :=
        hround c u (v ++ after) (by rw [hafter, List.append_assoc]) hrel
      obtain ⟨d, hd, hread', hdafter⟩ := ih n e hread.2 heafter (by omega)
      refine ⟨d, ?_, hread.trans hread', hdafter⟩
      have hlt : e.after.length < c.after.length := hread.length_lt_iff.mpr hne
      have hmore : d ∈ ((round c).filter fun d => d.after.length < c.after.length).flatMap
          (starRuns greedy round n) := by
        rw [List.mem_flatMap]
        exact ⟨e, List.mem_filter.mpr ⟨he, by simpa using hlt⟩, hd⟩
      cases greedy with
      | true => simpa [starRuns] using Or.inl (by simpa using hmore)
      | false => simpa [starRuns] using Or.inr (by simpa using hmore)

theorem runs_complete (r : Pattern α) :
    ∀ (c : Cursor α) (w after : List α), c.after = w ++ after → Matches r c.before w after →
      ∃ d ∈ runs r c, Reads c w d ∧ d.after = after := by
  induction r with
  | eps =>
      rintro c w after hafter rfl
      exact ⟨c, by simp [runs], Reads.refl c, by simpa using hafter⟩
  | sat p =>
      rintro ⟨before, _, groups⟩ w after hafter ⟨x, hp, rfl⟩
      subst hafter
      exact ⟨⟨x :: before, after, groups⟩, by simp [runs, hp], by simp [Reads], rfl⟩
  | seq r s ihr ihs =>
      rintro c w after hafter ⟨u, v, rfl, hr, hs⟩
      obtain ⟨e, he, hread, heafter⟩ :=
        ihr c u (v ++ after) (by rw [hafter, List.append_assoc]) hr
      obtain ⟨d, hd, hread', hdafter⟩ := ihs e v after heafter (by rw [hread.2]; exact hs)
      refine ⟨d, ?_, hread.trans hread', hdafter⟩
      simp only [runs, List.mem_flatMap]
      exact ⟨e, he, hd⟩
  | alt r s ihr ihs =>
      rintro c w after hafter (hr | hs)
      · obtain ⟨d, hd, hread, hdafter⟩ := ihr c w after hafter hr
        exact ⟨d, by simp [runs, hd], hread, hdafter⟩
      · obtain ⟨d, hd, hread, hdafter⟩ := ihs c w after hafter hs
        exact ⟨d, by simp [runs, hd], hread, hdafter⟩
  | star greedy r ih =>
      intro c w after hafter hstar
      exact starRuns_complete ih hstar _ c rfl hafter
        (by rw [hafter, List.length_append]; omega)
  | group name r ih =>
      intro c w after hafter hm
      obtain ⟨d, hd, hread, hdafter⟩ := ih c w after hafter hm
      exact ⟨c.capture name d, by simpa [runs] using ⟨d, hd, rfl⟩, hread, hdafter⟩
  | look p =>
      rintro c w after hafter ⟨rfl, hp⟩
      have hsame : c.after = after := by simpa using hafter
      rw [← hsame] at hp
      exact ⟨c, by simp [runs, hp], Reads.refl c, hsame⟩

end NanoCore.Foundation.Regex
