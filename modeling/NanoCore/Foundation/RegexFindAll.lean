import NanoCore.Foundation.RegexSearch

namespace NanoCore.Foundation.RegexFindAll

open NanoCore.Foundation.Regex
open NanoCore.Foundation.RegexSearch

universe u

variable {α : Type u}

def GroupFree : Pattern α → Prop
  | .eps => True
  | .sat _ => True
  | .seq r s => GroupFree r ∧ GroupFree s
  | .alt r s => GroupFree r ∧ GroupFree s
  | .star _ r => GroupFree r
  | .group _ _ => False
  | .look _ => True

theorem groups_of_mem_starRuns {greedy : Bool} {round : Cursor α → List (Cursor α)}
    (hround : ∀ c, ∀ d ∈ round c, d.groups = c.groups) (fuel : Nat) :
    ∀ c, ∀ d ∈ starRuns greedy round fuel c, d.groups = c.groups := by
  induction fuel with
  | zero =>
      intro c d hd
      rw [List.mem_singleton.mp hd]
  | succ fuel ih =>
      intro c d hd
      have hcases : d = c ∨ ∃ e ∈ round c, d ∈ starRuns greedy round fuel e := by
        simp only [starRuns] at hd
        split at hd
        · simp only [List.mem_append, List.mem_flatMap, List.mem_filter, List.mem_singleton] at hd
          rcases hd with ⟨e, he, hd⟩ | hd
          · exact .inr ⟨e, he.1, hd⟩
          · exact .inl hd
        · simp only [List.mem_cons, List.mem_flatMap, List.mem_filter] at hd
          rcases hd with hd | ⟨e, he, hd⟩
          · exact .inl hd
          · exact .inr ⟨e, he.1, hd⟩
      rcases hcases with rfl | ⟨e, he, hd⟩
      · rfl
      · exact (ih e d hd).trans (hround c e he)

theorem groups_of_mem_runs {r : Pattern α} (hr : GroupFree r) :
    ∀ c, ∀ d ∈ runs r c, d.groups = c.groups := by
  induction r with
  | eps =>
      intro c d hd
      rw [List.mem_singleton.mp hd]
  | sat p =>
      rintro ⟨before, _ | ⟨x, rest⟩, groups⟩ d hd
      · exact absurd hd List.not_mem_nil
      · simp only [runs] at hd
        split at hd
        · rw [List.mem_singleton.mp hd]
        · exact absurd hd List.not_mem_nil
  | seq r s ihr ihs =>
      intro c d hd
      obtain ⟨e, he, hd⟩ := List.mem_flatMap.mp hd
      exact (ihs hr.2 e d hd).trans (ihr hr.1 c e he)
  | alt r s ihr ihs =>
      intro c d hd
      rcases List.mem_append.mp hd with hd | hd
      · exact ihr hr.1 c d hd
      · exact ihs hr.2 c d hd
  | star greedy r ih =>
      intro c d hd
      exact groups_of_mem_starRuns (ih hr) _ c d hd
  | group name r ih => exact hr.elim
  | look p =>
      intro c d hd
      simp only [runs] at hd
      split at hd
      · rw [List.mem_singleton.mp hd]
      · exact absurd hd List.not_mem_nil

theorem groupFree_plus {greedy : Bool} {p : α → Bool} : GroupFree (plus greedy (.sat p)) :=
  ⟨trivial, trivial⟩

theorem groupFree_seqs {rs : List (Pattern α)} (h : ∀ r ∈ rs, GroupFree r) :
    GroupFree (seqs rs) := by
  induction rs with
  | nil => trivial
  | cons r rs ih =>
      exact ⟨h r List.mem_cons_self, ih fun s hs => h s (List.mem_cons_of_mem r hs)⟩

theorem groupFree_alts {rs : List (Pattern α)} (h : ∀ r ∈ rs, GroupFree r) :
    GroupFree (alts rs) := by
  induction rs with
  | nil => trivial
  | cons r rs ih =>
      exact ⟨h r List.mem_cons_self, ih fun s hs => h s (List.mem_cons_of_mem r hs)⟩

theorem groupFree_word {p : α → α → Bool} {w : List α} : GroupFree (word p w) := by
  refine groupFree_seqs fun r hr => ?_
  obtain ⟨x, -, rfl⟩ := List.mem_map.mp hr
  trivial

/-- A group without groups of its own holds what it has read. -/
theorem mem_runs_group {name : String} {r : Pattern α} {c d : Cursor α} (hr : GroupFree r)
    (hd : d ∈ runs (.group name r) c) :
    ∃ w, Reads c w d ∧ Matches r c.before w d.after ∧ d.groups = (name, w) :: c.groups := by
  simp only [runs, List.mem_map] at hd
  obtain ⟨e, he, rfl⟩ := hd
  obtain ⟨w, hread, hm⟩ := runs_sound r c e he
  refine ⟨w, hread, hm, ?_⟩
  rw [Cursor.capture, groups_of_mem_runs hr c e he, hread.1, List.length_append,
    Nat.add_sub_cancel_right, List.take_left']
  rfl

@[simp] theorem mem_runs_seqs_nil {c d : Cursor α} : d ∈ runs (seqs []) c ↔ d = c :=
  List.mem_singleton

@[simp] theorem mem_runs_seqs_cons {r : Pattern α} {rs : List (Pattern α)} {c d : Cursor α} :
    d ∈ runs (seqs (r :: rs)) c ↔ ∃ e ∈ runs r c, d ∈ runs (seqs rs) e :=
  List.mem_flatMap

theorem mem_runs_look {p : List α → List α → Bool} {c d : Cursor α} :
    d ∈ runs (.look p) c ↔ p c.before c.after = true ∧ d = c := by
  simp only [runs]
  split <;> simp_all

theorem exists_run_of_searchFrom {r : Pattern α} {before text : List α} {d : Cursor α}
    (h : searchFrom r before text = some d) :
    ∃ pre rest, text = pre ++ rest ∧ d ∈ runs r ⟨pre.reverse ++ before, rest, []⟩ := by
  induction text generalizing before with
  | nil => exact ⟨[], [], rfl, List.mem_of_mem_head? h⟩
  | cons x rest ih =>
      rw [searchFrom] at h
      split at h
      · rename_i e he
        obtain rfl := Option.some.inj h
        exact ⟨[], x :: rest, rfl, List.mem_of_mem_head? he⟩
      · obtain ⟨pre, rest', rfl, hd⟩ := ih h
        exact ⟨x :: pre, rest', rfl, by simpa using hd⟩

theorem scanFrom_eq_of_length_le {r : Pattern α} {fuel fuel' : Nat} {before after : List α}
    (h : after.length ≤ fuel) (h' : after.length ≤ fuel') :
    scanFrom r fuel before after = scanFrom r fuel' before after := by
  induction fuel generalizing fuel' before after with
  | zero =>
      obtain rfl := List.eq_nil_of_length_eq_zero (Nat.le_zero.mp h)
      rw [scanFrom_nil, scanFrom_nil]
  | succ fuel ih =>
      rcases after with _ | ⟨x, rest⟩
      · rw [scanFrom_nil, scanFrom_nil]
      · obtain ⟨fuel', rfl⟩ := Nat.exists_eq_succ_of_ne_zero
          (Nat.ne_of_gt (Nat.lt_of_lt_of_le (Nat.succ_pos _) h'))
        rw [scanFrom_succ, scanFrom_succ]
        cases hhere : scanHere r before (x :: rest) with
        | some d =>
            obtain ⟨w, hne, hafter, -⟩ := scanHere_sound hhere
            have hlength := congrArg List.length hafter
            have hpos := List.length_pos_of_ne_nil hne
            rw [List.length_append] at hlength
            exact congrArg (_ :: ·) (ih (by omega) (by omega))
        | none =>
            exact congrArg (_ :: ·)
              (ih (Nat.le_of_succ_le_succ h) (Nat.le_of_succ_le_succ h'))

theorem scanHere_eq_none_iff {r : Pattern α} {before after : List α} :
    scanHere r before after = none ↔
      ∀ w rest, after = w ++ rest → w ≠ [] → ¬ Matches r before w rest := by
  constructor
  · intro h w rest hafter hne hm
    obtain ⟨d, hd, hread, -⟩ := runs_complete r ⟨before, after, []⟩ w rest hafter hm
    have hlt : d.after.length < after.length := hread.length_lt_iff.mpr hne
    rw [scanHere, List.head?_eq_none_iff, List.filter_eq_nil_iff] at h
    exact h d hd (decide_eq_true hlt)
  · intro h
    rw [Option.eq_none_iff_forall_ne_some]
    intro d hd
    obtain ⟨w, hne, hafter, -, hm⟩ := scanHere_sound hd
    exact h w d.after hafter hne hm

theorem mem_runs_of_scanHere {r : Pattern α} {before after : List α} {d : Cursor α}
    (h : scanHere r before after = some d) : d ∈ runs r ⟨before, after, []⟩ :=
  (List.mem_filter.mp (List.mem_of_mem_head? h)).1

/-- A place where a match starts is one where the scan takes a match. -/
theorem exists_scanHere {r : Pattern α} {before w rest : List α} (hne : w ≠ [])
    (hm : Matches r before w rest) : ∃ d, scanHere r before (w ++ rest) = some d := by
  rw [← Option.isSome_iff_exists, ← Option.ne_none_iff_isSome]
  exact fun hnone => scanHere_eq_none_iff.mp hnone w rest rfl hne hm

/-- The matches of the rest of a text. -/
def foundsFrom (r : Pattern α) (before after : List α) : List (Found α) :=
  (scanFrom r after.length before after).filterMap Sum.getRight?

theorem findAll_eq (r : Pattern α) (text : List α) : findAll r text = foundsFrom r [] text :=
  rfl

@[simp] theorem foundsFrom_nil (r : Pattern α) (before : List α) :
    foundsFrom r before [] = [] :=
  rfl

theorem foundsFrom_of_none {r : Pattern α} {before rest : List α} {x : α}
    (h : scanHere r before (x :: rest) = none) :
    foundsFrom r before (x :: rest) = foundsFrom r (x :: before) rest := by
  unfold foundsFrom
  rw [List.length_cons, scanFrom_succ, h]
  rfl

theorem foundsFrom_of_some {r : Pattern α} {before w rest : List α} {d : Cursor α}
    (h : scanHere r before (w ++ rest) = some d) (hd : Reads ⟨before, w ++ rest, []⟩ w d) :
    foundsFrom r before (w ++ rest) =
      { start := before.length, stop := before.length + w.length, text := w
        groups := d.groups } :: foundsFrom r (w.reverse ++ before) rest := by
  obtain ⟨v, hne, hafter, -⟩ := scanHere_sound h
  have hrest : d.after = rest := (List.append_cancel_left hd.1).symm
  have hlength : (w ++ rest).length ≠ 0 := by
    have hpos := List.length_pos_of_ne_nil hne
    rw [hafter, List.length_append]
    omega
  obtain ⟨fuel, hfuel⟩ := Nat.exists_eq_succ_of_ne_zero hlength
  have hle : rest.length ≤ fuel := by
    have hv := congrArg List.length hafter
    have hpos := List.length_pos_of_ne_nil hne
    have hsum : (v ++ d.after).length = v.length + d.after.length := List.length_append
    rw [hsum, hrest] at hv
    omega
  unfold foundsFrom
  rw [hfuel, scanFrom_succ, h]
  simp only [List.filterMap_cons, Sum.getRight?_inr, hd.2, hrest]
  rw [scanFrom_eq_of_length_le hle le_rfl]
  congr 2
  · rw [List.length_append, List.length_reverse, Nat.add_comm]
  · rw [List.length_append, Nat.add_sub_cancel_right, List.take_left']
    rfl

/-- A stretch in which no match starts is skipped. -/
theorem foundsFrom_skip {r : Pattern α} {stretch before rest : List α}
    (h : ∀ pre x post, stretch = pre ++ x :: post →
      scanHere r (pre.reverse ++ before) (x :: post ++ rest) = none) :
    foundsFrom r before (stretch ++ rest) = foundsFrom r (stretch.reverse ++ before) rest := by
  induction stretch generalizing before with
  | nil => rfl
  | cons x stretch ih =>
      have hhere : scanHere r before (x :: (stretch ++ rest)) = none := h [] x stretch rfl
      rw [List.cons_append, foundsFrom_of_none hhere, ih]
      · simp
      · intro pre y post hstretch
        have hskip := h (x :: pre) y post (by rw [hstretch]; rfl)
        simpa using hskip

/-- Each match found is one of the runs at its place. -/
theorem exists_run_of_mem_foundsFrom {r : Pattern α} {before after : List α} {found : Found α}
    (h : found ∈ foundsFrom r before after) :
    ∃ pre w post d, after = pre ++ (w ++ post) ∧
      d ∈ runs r ⟨pre.reverse ++ before, w ++ post, []⟩ ∧
      Reads ⟨pre.reverse ++ before, w ++ post, []⟩ w d ∧ found.groups = d.groups ∧
      found.start = before.length + pre.length := by
  obtain ⟨n, hn⟩ : ∃ n, n = after.length := ⟨_, rfl⟩
  induction n using Nat.strong_induction_on generalizing before after with
  | h n ih =>
      rcases after with _ | ⟨x, rest⟩
      · rw [foundsFrom_nil] at h
        exact absurd h List.not_mem_nil
      · cases hhere : scanHere r before (x :: rest) with
        | none =>
            rw [foundsFrom_of_none hhere] at h
            obtain ⟨pre, w, post, d, hrest, hd, hread, hgroups, hstart⟩ :=
              ih rest.length (by rw [hn, List.length_cons]; omega) h rfl
            refine ⟨x :: pre, w, post, d, by rw [hrest]; rfl, ?_, ?_, hgroups, ?_⟩
            · simpa using hd
            · simpa using hread
            · rw [hstart, List.length_cons, List.length_cons]
              omega
        | some d =>
            obtain ⟨w, hne, hafter, hbefore, -⟩ := scanHere_sound hhere
            have hpos := List.length_pos_of_ne_nil hne
            have hlength := congrArg List.length hafter
            rw [List.length_append] at hlength
            have hd := mem_runs_of_scanHere hhere
            rw [hafter] at h hhere hd
            rw [foundsFrom_of_some hhere ⟨rfl, hbefore⟩, List.mem_cons] at h
            rcases h with rfl | h
            · exact ⟨[], w, d.after, d, hafter, hd, ⟨rfl, hbefore⟩, rfl, rfl⟩
            · obtain ⟨pre, w', post, d', hrest, hd', hread, hgroups, hstart⟩ :=
                ih d.after.length (by omega) h rfl
              refine ⟨w ++ pre, w', post, d', ?_, ?_, ?_, hgroups, ?_⟩
              · rw [hafter, hrest, List.append_assoc]
              · simpa using hd'
              · simpa using hread
              · rw [hstart, List.length_append, List.length_append, List.length_reverse]
                omega

/-- No match that starts before the end of `pre` reads beyond it. -/
def Uncovered (r : Pattern α) (before pre rest : List α) : Prop :=
  ∀ a w b, pre ++ rest = a ++ (w ++ b) → a.length < pre.length →
    Matches r (a.reverse ++ before) w b → a.length + w.length ≤ pre.length

theorem Uncovered.of_append {r : Pattern α} {before w pre rest : List α}
    (h : Uncovered r before (w ++ pre) rest) : Uncovered r (w.reverse ++ before) pre rest := by
  intro a v b htext hlt hm
  have hle := h (w ++ a) v b (by rw [List.append_assoc, htext, List.append_assoc])
    (by rw [List.length_append, List.length_append]; omega) (by simpa using hm)
  rw [List.length_append, List.length_append] at hle
  omega

/-- The scan comes to such a place. -/
theorem Uncovered.exists_append {r : Pattern α} {before pre rest : List α}
    (h : Uncovered r before pre rest) :
    ∃ founds, foundsFrom r before (pre ++ rest) =
      founds ++ foundsFrom r (pre.reverse ++ before) rest := by
  obtain ⟨n, hn⟩ : ∃ n, n = pre.length := ⟨_, rfl⟩
  induction n using Nat.strong_induction_on generalizing pre before with
  | h n ih =>
      rcases pre with _ | ⟨x, pre⟩
      · exact ⟨[], rfl⟩
      · cases hhere : scanHere r before (x :: (pre ++ rest)) with
        | none =>
            have hlt : pre.length < n := by rw [hn]; exact Nat.lt_succ_self _
            have hrest : Uncovered r (x :: before) pre rest := Uncovered.of_append (w := [x]) h
            obtain ⟨founds, hfounds⟩ := ih _ hlt hrest rfl
            refine ⟨founds, ?_⟩
            rw [List.cons_append, foundsFrom_of_none hhere, hfounds]
            simp
        | some d =>
            obtain ⟨w, hne, hafter, hbefore, hm⟩ := scanHere_sound hhere
            have hle := h [] w d.after hafter (Nat.succ_pos _) hm
            rw [List.length_nil, Nat.zero_add] at hle
            obtain ⟨tail, htail⟩ : w <+: x :: pre :=
              List.prefix_of_prefix_length_le ⟨d.after, hafter.symm⟩
                (List.prefix_append (x :: pre) rest) hle
            have hpos := List.length_pos_of_ne_nil hne
            have hlength := congrArg List.length htail
            rw [List.length_append] at hlength
            rw [← htail] at h
            obtain ⟨founds, hfounds⟩ := ih tail.length (by omega) h.of_append rfl
            have htext : x :: (pre ++ rest) = w ++ (tail ++ rest) := by
              rw [← List.append_assoc, htail]
              rfl
            have hrest : d.after = tail ++ rest :=
              List.append_cancel_left (hafter.symm.trans htext)
            rw [htext] at hhere
            have hfound := foundsFrom_of_some hhere ⟨by rw [hrest], hbefore⟩
            rw [hfounds] at hfound
            rw [← htail, List.append_assoc, hfound, List.reverse_append, List.append_assoc]
            exact ⟨_ :: founds, rfl⟩

end NanoCore.Foundation.RegexFindAll
