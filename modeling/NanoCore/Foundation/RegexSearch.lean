import NanoCore.Foundation.Regex
import Mathlib.Data.List.Forall2

namespace NanoCore.Foundation.RegexSearch

open NanoCore.Foundation.Regex

universe u

variable {α : Type u}

def seqs (rs : List (Pattern α)) : Pattern α :=
  rs.foldr .seq .eps

@[simp] theorem matches_seqs_nil (before w after : List α) :
    Matches (seqs []) before w after ↔ w = [] :=
  Iff.rfl

@[simp] theorem matches_seqs_cons (r : Pattern α) (rs : List (Pattern α))
    (before w after : List α) :
    Matches (seqs (r :: rs)) before w after ↔
      ∃ u v, w = u ++ v ∧ Matches r before u (v ++ after) ∧
        Matches (seqs rs) (u.reverse ++ before) v after :=
  Iff.rfl

theorem matches_seqs_append {r : Pattern α} {rs : List (Pattern α)} {v rest after : List α}
    (hv : ∀ before after, Matches r before v after)
    (h : ∀ before, Matches (seqs rs) before rest after) (before : List α) :
    Matches (seqs (r :: rs)) before (v ++ rest) after :=
  ⟨v, rest, rfl, hv _ _, h _⟩

/-- Ordered choice between patterns; the empty choice never matches. -/
def alts (rs : List (Pattern α)) : Pattern α :=
  rs.foldr .alt (.look fun _ _ => false)

theorem matches_alts {rs : List (Pattern α)} {before w after : List α} :
    Matches (alts rs) before w after ↔ ∃ r ∈ rs, Matches r before w after := by
  induction rs with
  | nil => simp [alts, Matches]
  | cons r rs ih =>
      have hcons : Matches (alts (r :: rs)) before w after ↔
          Matches r before w after ∨ Matches (alts rs) before w after := Iff.rfl
      rw [hcons, ih]
      simp

def plus (greedy : Bool) (r : Pattern α) : Pattern α :=
  .seq r (.star greedy r)

/-- At most one round, preferring one. -/
def opt (r : Pattern α) : Pattern α :=
  .alt r .eps

def word (p : α → α → Bool) (w : List α) : Pattern α :=
  seqs (w.map fun x => .sat (p x))

theorem matches_word {p : α → α → Bool} {w before v after : List α} :
    Matches (word p w) before v after ↔ List.Forall₂ (fun x y => p x y = true) w v := by
  induction w generalizing before v with
  | nil => simp [word]
  | cons x w ih =>
      have hcons : word p (x :: w) = .seq (.sat (p x)) (word p w) := rfl
      rw [hcons, List.forall₂_cons_left_iff]
      constructor
      · rintro ⟨_, v, rfl, ⟨y, hy, rfl⟩, hw⟩
        exact ⟨y, v, hy, ih.mp hw, rfl⟩
      · rintro ⟨y, v, hy, hw, rfl⟩
        exact ⟨[y], v, rfl, ⟨y, hy, rfl⟩, ih.mpr hw⟩

theorem matches_star_sat {greedy : Bool} {p : α → Bool} {before w after : List α} :
    Matches (.star greedy (.sat p)) before w after ↔ ∀ x ∈ w, p x = true := by
  change StarMatches (Matches (.sat p)) before w after ↔ _
  constructor
  · intro h
    induction h with
    | nil => simp
    | step before u v after _ hround _ ih =>
        obtain ⟨y, hy, rfl⟩ := hround
        simpa [hy] using ih
  · intro h
    induction w generalizing before with
    | nil => exact .nil _ _
    | cons x w ih =>
        refine .step before [x] w after (by simp) ⟨x, h x (by simp), rfl⟩ ?_
        exact ih fun y hy => h y (List.mem_cons_of_mem x hy)

theorem matches_plus_sat {greedy : Bool} {p : α → Bool} {before w after : List α} :
    Matches (plus greedy (.sat p)) before w after ↔ w ≠ [] ∧ ∀ x ∈ w, p x = true := by
  change (∃ u v, w = u ++ v ∧ (∃ x, p x = true ∧ u = [x]) ∧
    Matches (.star greedy (.sat p)) (u.reverse ++ before) v after) ↔ _
  simp only [matches_star_sat]
  constructor
  · rintro ⟨_, v, rfl, ⟨x, hx, rfl⟩, hv⟩
    simpa [hx] using hv
  · rintro ⟨hne, hall⟩
    cases w with
    | nil => exact absurd rfl hne
    | cons x v =>
        exact ⟨[x], v, rfl, ⟨x, hall x (by simp), rfl⟩,
          fun y hy => hall y (List.mem_cons_of_mem x hy)⟩

def matchPrefix (r : Pattern α) (text : List α) : Option (Cursor α) :=
  (runs r { before := [], after := text }).head?

theorem head?_runs_isSome_iff {r : Pattern α} {c : Cursor α} :
    (runs r c).head?.isSome = true ↔
      ∃ w after, c.after = w ++ after ∧ Matches r c.before w after := by
  rw [List.isSome_head?]
  constructor
  · intro h
    obtain ⟨d, hd⟩ := List.exists_mem_of_ne_nil _ h
    obtain ⟨w, hread, hm⟩ := runs_sound r c d hd
    exact ⟨w, d.after, hread.1, hm⟩
  · rintro ⟨w, after, hafter, hm⟩
    obtain ⟨d, hd, -⟩ := runs_complete r c w after hafter hm
    exact List.ne_nil_of_mem hd

theorem matchPrefix_isSome_iff {r : Pattern α} {text : List α} :
    (matchPrefix r text).isSome = true ↔ ∃ w after, text = w ++ after ∧ Matches r [] w after :=
  head?_runs_isSome_iff

theorem exists_matchPrefix {r : Pattern α} {text : List α} (h : Matches r [] text []) :
    ∃ found, matchPrefix r text = some found ∧ found ∈ runs r ⟨[], text, []⟩ := by
  have hsome : (matchPrefix r text).isSome = true :=
    matchPrefix_isSome_iff.mpr ⟨text, [], (List.append_nil text).symm, h⟩
  obtain ⟨found, hfound⟩ := Option.isSome_iff_exists.mp hsome
  exact ⟨found, hfound, List.mem_of_mem_head? hfound⟩

/-- The leftmost preferred match at or after the cursor. -/
def searchFrom (r : Pattern α) (before : List α) : List α → Option (Cursor α)
  | [] => (runs r { before := before, after := [] }).head?
  | x :: rest =>
      match (runs r { before := before, after := x :: rest }).head? with
      | some d => some d
      | none => searchFrom r (x :: before) rest

def search (r : Pattern α) (text : List α) : Option (Cursor α) :=
  searchFrom r [] text

def occurs (r : Pattern α) (text : List α) : Bool :=
  (search r text).isSome

def OccursFrom (r : Pattern α) (before text : List α) : Prop :=
  ∃ u w after, text = u ++ (w ++ after) ∧ Matches r (u.reverse ++ before) w after

theorem occursFrom_cons {r : Pattern α} {before text : List α} {x : α} :
    OccursFrom r before (x :: text) ↔
      (∃ w after, x :: text = w ++ after ∧ Matches r before w after) ∨
        OccursFrom r (x :: before) text := by
  constructor
  · rintro ⟨u, w, after, htext, hm⟩
    cases u with
    | nil => exact Or.inl ⟨w, after, htext, hm⟩
    | cons y u =>
        obtain ⟨rfl, hrest⟩ := List.cons.inj htext
        exact Or.inr ⟨u, w, after, hrest, by simpa using hm⟩
  · rintro (⟨w, after, htext, hm⟩ | ⟨u, w, after, rfl, hm⟩)
    · exact ⟨[], w, after, htext, hm⟩
    · exact ⟨x :: u, w, after, rfl, by simpa using hm⟩

theorem searchFrom_isSome_iff {r : Pattern α} {before text : List α} :
    (searchFrom r before text).isSome = true ↔ OccursFrom r before text := by
  induction text generalizing before with
  | nil =>
      rw [searchFrom, head?_runs_isSome_iff]
      constructor
      · rintro ⟨w, after, htext, hm⟩
        exact ⟨[], w, after, htext, hm⟩
      · rintro ⟨u, w, after, htext, hm⟩
        obtain ⟨rfl, hrest⟩ := List.append_eq_nil_iff.mp htext.symm
        exact ⟨w, after, hrest.symm, hm⟩
  | cons x rest ih =>
      have hhere := head?_runs_isSome_iff (r := r)
        (c := { before := before, after := x :: rest })
      rw [occursFrom_cons, ← hhere, ← ih]
      simp only [searchFrom]
      cases (runs r { before := before, after := x :: rest }).head? <;> simp

theorem occurs_iff {r : Pattern α} {text : List α} :
    occurs r text = true ↔ OccursFrom r [] text :=
  searchFrom_isSome_iff

/-- The tests of a pattern do not distinguish letters related by `R`, nor
contexts related by `E`. -/
def Respects (R : α → α → Prop) (E : List α → List α → Prop) : Pattern α → Prop
  | .eps => True
  | .sat p => ∀ x y, R x y → p x = p y
  | .seq r s => Respects R E r ∧ Respects R E s
  | .alt r s => Respects R E r ∧ Respects R E s
  | .star _ r => Respects R E r
  | .group _ r => Respects R E r
  | .look p => ∀ b b' a a', E b b' → E a a' → p b a = p b' a'

section Transfer

variable {R : α → α → Prop} {E : List α → List α → Prop}

theorem respects_seqs {rs : List (Pattern α)} (h : ∀ r ∈ rs, Respects R E r) :
    Respects R E (seqs rs) := by
  induction rs with
  | nil => trivial
  | cons r rs ih =>
      exact ⟨h r List.mem_cons_self, ih fun s hs => h s (List.mem_cons_of_mem r hs)⟩

theorem respects_word {p : α → α → Bool} {w : List α}
    (h : ∀ k ∈ w, ∀ x y, R x y → p k x = p k y) : Respects R E (word p w) := by
  refine respects_seqs fun r hr => ?_
  obtain ⟨k, hk, rfl⟩ := List.mem_map.mp hr
  exact h k hk

theorem exists_forall₂_append {u v w' : List α} (h : List.Forall₂ R (u ++ v) w') :
    ∃ u' v', w' = u' ++ v' ∧ List.Forall₂ R u u' ∧ List.Forall₂ R v v' := by
  induction u generalizing w' with
  | nil => exact ⟨[], w', rfl, .nil, h⟩
  | cons x u ih =>
      obtain ⟨y, w', hxy, htail, rfl⟩ := List.forall₂_cons_left_iff.mp h
      obtain ⟨u', v', rfl, hu, hv⟩ := ih htail
      exact ⟨y :: u', v', rfl, .cons hxy hu, hv⟩

theorem context_append (hcons : ∀ x y l l', R x y → E l l' → E (x :: l) (y :: l'))
    {u u' l l' : List α} (hu : List.Forall₂ R u u') (hl : E l l') : E (u ++ l) (u' ++ l') := by
  induction hu with
  | nil => exact hl
  | cons hxy _ ih => exact hcons _ _ _ _ hxy ih

theorem matches_transfer (hcons : ∀ x y l l', R x y → E l l' → E (x :: l) (y :: l'))
    {r : Pattern α} (hr : Respects R E r) :
    ∀ {b b' w w' a a' : List α}, E b b' → List.Forall₂ R w w' → E a a' →
      Matches r b w a → Matches r b' w' a' := by
  induction r with
  | eps =>
      rintro b b' w w' a a' - hw - rfl
      exact List.forall₂_nil_left_iff.mp hw
  | sat p =>
      rintro b b' w w' a a' - hw - ⟨x, hx, rfl⟩
      obtain ⟨y, w', hxy, htail, rfl⟩ := List.forall₂_cons_left_iff.mp hw
      obtain rfl := List.forall₂_nil_left_iff.mp htail
      exact ⟨y, (hr x y hxy) ▸ hx, rfl⟩
  | seq r s ihr ihs =>
      rintro b b' w w' a a' hb hw ha ⟨u, v, rfl, hmr, hms⟩
      obtain ⟨u', v', rfl, hu, hv⟩ := exists_forall₂_append hw
      exact ⟨u', v', rfl, ihr hr.1 hb hu (context_append hcons hv ha) hmr,
        ihs hr.2 (context_append hcons (List.rel_reverse hu) hb) hv ha hms⟩
  | alt r s ihr ihs =>
      rintro b b' w w' a a' hb hw ha (hm | hm)
      · exact Or.inl (ihr hr.1 hb hw ha hm)
      · exact Or.inr (ihs hr.2 hb hw ha hm)
  | star greedy r ih =>
      intro b b' w w' a a' hb hw ha hm
      change StarMatches (Matches r) b w a at hm
      change StarMatches (Matches r) b' w' a'
      induction hm generalizing b' w' a' with
      | nil =>
          obtain rfl := List.forall₂_nil_left_iff.mp hw
          exact .nil _ _
      | step b u v a hne hround _ ihstar =>
          obtain ⟨u', v', rfl, hu, hv⟩ := exists_forall₂_append hw
          refine .step b' u' v' a' ?_ ?_ ?_
          · rintro rfl
            exact hne (List.forall₂_nil_right_iff.mp hu)
          · exact ih hr hb hu (context_append hcons hv ha) hround
          · exact ihstar (context_append hcons (List.rel_reverse hu) hb) hv ha
  | group name r ih =>
      intro b b' w w' a a' hb hw ha hm
      exact ih hr hb hw ha hm
  | look p =>
      rintro b b' w w' a a' hb hw ha ⟨rfl, hp⟩
      exact ⟨List.forall₂_nil_left_iff.mp hw, (hr b b' a a' hb ha) ▸ hp⟩

/-- A pattern that occurs in a text occurs in every related text, also between
surroundings that look like the ends of the text. -/
theorem occurs_transfer (hcons : ∀ x y l l', R x y → E l l' → E (x :: l) (y :: l'))
    {r : Pattern α} (hr : Respects R E r) {text text' pre post : List α}
    (htext : List.Forall₂ R text text') (hpre : E [] pre.reverse) (hpost : E [] post)
    (h : occurs r text = true) : occurs r (pre ++ text' ++ post) = true := by
  rw [occurs_iff] at h ⊢
  obtain ⟨u, w, after, rfl, hm⟩ := h
  obtain ⟨u', rest', rfl, hu, hrest⟩ := exists_forall₂_append htext
  obtain ⟨w', after', rfl, hw, hafter⟩ := exists_forall₂_append hrest
  refine ⟨pre ++ u', w', after' ++ post, by simp, ?_⟩
  refine matches_transfer hcons hr ?_ hw ?_ hm
  · simpa using context_append hcons (List.rel_reverse hu) hpre
  · simpa using context_append hcons hafter hpost

end Transfer

/-- A match found by scanning: where it starts and ends, its text and its groups. -/
structure Found (α : Type u) where
  start : Nat
  stop : Nat
  text : List α
  groups : List (String × List α)

/-- The non-empty match that the scan takes at a cursor. -/
def scanHere (r : Pattern α) (before after : List α) : Option (Cursor α) :=
  ((runs r { before := before, after := after }).filter fun d =>
    d.after.length < after.length).head?

theorem scanHere_sound {r : Pattern α} {before after : List α} {d : Cursor α}
    (h : scanHere r before after = some d) :
    ∃ w, w ≠ [] ∧ after = w ++ d.after ∧ d.before = w.reverse ++ before ∧
      Matches r before w d.after := by
  have hmem := List.mem_of_mem_head? h
  rw [List.mem_filter, decide_eq_true_eq] at hmem
  obtain ⟨w, hread, hm⟩ := runs_sound r _ d hmem.1
  exact ⟨w, hread.length_lt_iff.mp hmem.2, hread.1, hread.2, hm⟩

/-- The pieces of a text in order: each match of a pattern that never matches
the empty word, and each element outside the matches. -/
def scanFrom (r : Pattern α) : Nat → List α → List α → List (α ⊕ Found α)
  | 0, _, _ => []
  | fuel + 1, before, after =>
      match scanHere r before after with
      | some d =>
          .inr { start := before.length
                 stop := d.before.length
                 text := after.take (after.length - d.after.length)
                 groups := d.groups } :: scanFrom r fuel d.before d.after
      | none =>
          match after with
          | [] => []
          | x :: rest => .inl x :: scanFrom r fuel (x :: before) rest

theorem scanFrom_succ (r : Pattern α) (fuel : Nat) (before after : List α) :
    scanFrom r (fuel + 1) before after =
      match scanHere r before after with
      | some d =>
          .inr { start := before.length
                 stop := d.before.length
                 text := after.take (after.length - d.after.length)
                 groups := d.groups } :: scanFrom r fuel d.before d.after
      | none =>
          match after with
          | [] => []
          | x :: rest => .inl x :: scanFrom r fuel (x :: before) rest :=
  rfl

theorem scanFrom_nil (r : Pattern α) (fuel : Nat) (before : List α) :
    scanFrom r fuel before [] = [] := by
  cases fuel with
  | zero => rfl
  | succ fuel =>
      rw [scanFrom_succ]
      cases hhere : scanHere r before [] with
      | none => rfl
      | some d =>
          obtain ⟨w, hne, hnil, -⟩ := scanHere_sound hhere
          exact absurd (List.append_eq_nil_iff.mp hnil.symm).1 hne

def findAll (r : Pattern α) (text : List α) : List (Found α) :=
  (scanFrom r text.length [] text).filterMap Sum.getRight?

def substitute (r : Pattern α) (f : Found α → List α) (text : List α) : List α :=
  (scanFrom r text.length [] text).flatMap (Sum.elim (fun x => [x]) f)

theorem substitute_cons_of_not_matches {r : Pattern α} {f : Found α → List α} {x : α}
    {rest : List α} (h : ¬ ∃ w after, x :: rest = w ++ after ∧ Matches r [] w after) :
    ∃ rest', substitute r f (x :: rest) = x :: rest' := by
  have hnone : scanHere r [] (x :: rest) = none := by
    rw [Option.eq_none_iff_forall_ne_some]
    intro d hd
    obtain ⟨w, -, hafter, -, hm⟩ := scanHere_sound hd
    exact h ⟨w, d.after, hafter, hm⟩
  refine ⟨(scanFrom r rest.length [x] rest).flatMap (Sum.elim (fun x => [x]) f), ?_⟩
  simp only [substitute, List.length_cons, scanFrom, hnone]
  rfl

theorem substitute_eq_self {r : Pattern α} {f : Found α → List α} {text : List α}
    (h : occurs r text = false) : substitute r f text = text := by
  have hscan : ∀ (before text : List α), ¬ OccursFrom r before text →
      (scanFrom r text.length before text).flatMap (Sum.elim (fun x => [x]) f) = text := by
    intro before text
    induction text generalizing before with
    | nil => exact fun _ => rfl
    | cons x rest ih =>
        intro hno
        rw [occursFrom_cons, not_or] at hno
        have hnone : scanHere r before (x :: rest) = none := by
          rw [Option.eq_none_iff_forall_ne_some]
          intro d hd
          obtain ⟨w, -, hafter, -, hm⟩ := scanHere_sound hd
          exact hno.1 ⟨w, d.after, hafter, hm⟩
        simp only [List.length_cons, scanFrom, hnone]
        change x :: (scanFrom r rest.length (x :: before) rest).flatMap _ = _
        rw [ih _ hno.2]
  refine hscan [] text fun hocc => ?_
  rw [occurs_iff.mpr hocc] at h
  exact Bool.noConfusion h

/-- A substitution keeps the letters that no match of the pattern holds. -/
theorem mem_substitute {r : Pattern α} {f : Found α → List α} {c : α} {text : List α}
    (hr : ∀ before w after, Matches r before w after → c ∉ w) (hc : c ∈ text) :
    c ∈ substitute r f text := by
  have hscan : ∀ (fuel : Nat) (before after : List α), after.length ≤ fuel → c ∈ after →
      c ∈ (scanFrom r fuel before after).flatMap (Sum.elim (fun x => [x]) f) := by
    intro fuel
    induction fuel with
    | zero =>
        intro before after hfuel hmem
        rw [List.length_eq_zero_iff.mp (Nat.le_zero.mp hfuel)] at hmem
        exact absurd hmem List.not_mem_nil
    | succ fuel ih =>
        intro before after hfuel hmem
        rw [scanFrom_succ]
        rcases hhere : scanHere r before after with _ | d
        · obtain ⟨x, rest, rfl⟩ := List.exists_cons_of_ne_nil (List.ne_nil_of_mem hmem)
          simp only [List.flatMap_cons, List.mem_append]
          rcases List.mem_cons.mp hmem with rfl | hrest
          · exact .inl List.mem_cons_self
          · exact .inr (ih _ rest (Nat.le_of_succ_le_succ hfuel) hrest)
        · obtain ⟨w, hne, hafter, -, hm⟩ := scanHere_sound hhere
          simp only [List.flatMap_cons, List.mem_append]
          rw [hafter, List.mem_append] at hmem
          have hlength := congrArg List.length hafter
          have hpos := List.length_pos_of_ne_nil hne
          rw [List.length_append] at hlength
          exact .inr (ih _ d.after (by omega) (hmem.resolve_left (hr _ _ _ hm)))
  exact hscan _ _ _ (Nat.le_refl _) hc

end NanoCore.Foundation.RegexSearch
