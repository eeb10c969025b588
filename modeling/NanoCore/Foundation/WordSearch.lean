import NanoCore.Foundation.PythonRegex

namespace NanoCore.Foundation.WordSearch

open NanoCore.Foundation.PythonText
open NanoCore.Foundation.Regex
open NanoCore.Foundation.RegexSearch
open NanoCore.Foundation.PythonRegex

variable (u : PyData)

/-- The word stands in the text between code points that are not word code
points; `context` (reversed) precedes the text. -/
def HasWord (context k s : Text) : Prop :=
  ∃ pre post, s = pre ++ (k ++ post) ∧ wordEdge u (pre.reverse ++ context) = false ∧
    wordEdge u post = false

theorem occurs_wholeWord_iff_hasWord {keyword : String} (hk : IsWordText u keyword.toList)
    {s : Text} : occurs (wholeWord u keyword) s = true ↔ HasWord u [] keyword.toList s := by
  rw [occurs_wholeWord_iff u hk]
  simp only [HasWord, List.append_assoc, List.append_nil]

/-- The pattern matches non-empty stretches from word edge to word edge. -/
def MatchesWords (r : Regex) : Prop :=
  ∀ before w after, Matches r before w after → wordEdge u before = false ∧
    wordEdge u after = false ∧ wordEdge u w = true ∧ wordEdge u w.reverse = true

variable {u} {r : Regex} {f : Found Char → Text}

@[simp] theorem wordEdge_cons (c : Char) (context : Text) :
    wordEdge u (c :: context) = u.isWord c :=
  rfl

theorem wordEdge_append {s : Text} (hs : wordEdge u s = true) (context : Text) :
    wordEdge u (s ++ context) = true := by
  rcases s with _ | ⟨c, s⟩
  · exact Bool.noConfusion hs
  · exact hs

theorem HasWord.cons {context k s : Text} {c : Char} (h : HasWord u (c :: context) k s) :
    HasWord u context k (c :: s) := by
  obtain ⟨pre, post, rfl, hleft, hright⟩ := h
  exact ⟨c :: pre, post, rfl, by simpa using hleft, hright⟩

theorem HasWord.append {context k s w : Text} (h : HasWord u (w.reverse ++ context) k s) :
    HasWord u context k (w ++ s) := by
  obtain ⟨pre, post, rfl, hleft, hright⟩ := h
  exact ⟨w ++ pre, post, by simp, by simpa using hleft, hright⟩

theorem not_hasWord_nil {context k : Text} (hk : IsWordText u k) : ¬HasWord u context k [] := by
  rintro ⟨pre, post, hout, -⟩
  have hnil : k ++ post = [] := (List.append_eq_nil_iff.mp hout.symm).2
  exact hk.1 (List.append_eq_nil_iff.mp hnil).1

/-- A word starts with the first code point or stands behind it. -/
theorem HasWord.cons_cases {context k rest : Text} {x : Char} (hk : IsWordText u k)
    (h : HasWord u context k (x :: rest)) :
    (∃ k' post, k = x :: k' ∧ rest = k' ++ post ∧ wordEdge u context = false ∧
      wordEdge u post = false) ∨ HasWord u (x :: context) k rest := by
  obtain ⟨pre, post, hout, hleft, hright⟩ := h
  rcases pre with _ | ⟨p, pre⟩
  · obtain ⟨y, k', rfl⟩ := List.exists_cons_of_ne_nil hk.1
    obtain ⟨rfl, hout'⟩ := List.cons.inj hout
    exact Or.inl ⟨k', post, rfl, hout', hleft, hright⟩
  · obtain ⟨rfl, hout'⟩ := List.cons.inj hout
    exact Or.inr ⟨pre, post, hout', by simpa using hleft, hright⟩

def rewritten (f : Found Char → Text) (pieces : List (Char ⊕ Found Char)) : Text :=
  pieces.flatMap (Sum.elim (fun x => [x]) f)

section Scan

variable (hr : MatchesWords u r) (hf : ∀ found, IsWordText u (f found))

include hr hf

theorem exists_of_rewritten_prefix {k post : Text} (hk : ∀ c ∈ k, u.isWord c = true)
    (hpost : wordEdge u post = false) :
    ∀ {fuel : Nat} {before after : Text}, after.length ≤ fuel →
      (k = [] ∨ wordEdge u before = true) →
      rewritten f (scanFrom r fuel before after) = k ++ post →
      ∃ post', after = k ++ post' ∧ wordEdge u post' = false := by
  induction k with
  | nil =>
      rintro fuel before after hfuel - hout
      refine ⟨after, rfl, ?_⟩
      rcases after with _ | ⟨x, rest⟩
      · rfl
      · obtain ⟨fuel, rfl⟩ := Nat.exists_eq_succ_of_ne_zero (Nat.ne_of_gt
          (Nat.lt_of_lt_of_le (Nat.succ_pos _) hfuel))
        rw [scanFrom_succ] at hout
        cases hhere : scanHere r before (x :: rest) with
        | some d =>
            simp only [hhere] at hout
            rw [List.nil_append] at hout
            rw [← hout] at hpost
            have hword := wordEdge_append_of_isWordText u (hf
              { start := before.length, stop := d.before.length
                text := (x :: rest).take ((x :: rest).length - d.after.length)
                groups := d.groups }) (rewritten f (scanFrom r fuel d.before d.after))
            exact absurd (hword.symm.trans hpost) (by decide)
        | none =>
            simp only [hhere] at hout
            rw [List.nil_append] at hout
            rw [← hout] at hpost
            exact hpost
  | cons y k ih =>
      intro fuel before after hfuel hedge hout
      have hedge : wordEdge u before = true := hedge.resolve_left (List.cons_ne_nil y k)
      rcases after with _ | ⟨x, rest⟩
      · rw [scanFrom_nil] at hout
        exact absurd hout.symm (List.cons_ne_nil _ _)
      · obtain ⟨fuel, rfl⟩ := Nat.exists_eq_succ_of_ne_zero (Nat.ne_of_gt
          (Nat.lt_of_lt_of_le (Nat.succ_pos _) hfuel))
        rw [scanFrom_succ] at hout
        cases hhere : scanHere r before (x :: rest) with
        | some d =>
            obtain ⟨w, -, -, -, hm⟩ := scanHere_sound hhere
            exact absurd (hedge.symm.trans (hr _ _ _ hm).1) (by decide)
        | none =>
            simp only [hhere] at hout
            change x :: rewritten f (scanFrom r fuel (x :: before) rest) = y :: (k ++ post) at hout
            obtain ⟨rfl, hout'⟩ := List.cons.inj hout
            have hx : wordEdge u (x :: before) = true := hk x List.mem_cons_self
            obtain ⟨post', hrest, hpost'⟩ :=
              ih (fun c hc => hk c (List.mem_cons_of_mem x hc)) (Nat.le_of_succ_le_succ hfuel)
                (Or.inr hx) hout'
            exact ⟨post', by rw [hrest]; rfl, hpost'⟩

/-- A word that starts where a word was put is that word: it can neither end inside
of it nor go on in the text behind, which has a word edge there. -/
theorem eq_of_replacement {k v post before after : Text} {fuel : Nat} (hk : IsWordText u k)
    (hv : IsWordText u v) (hfuel : after.length ≤ fuel) (hbefore : wordEdge u before = true)
    (hafter : wordEdge u after = false) (hpost : wordEdge u post = false)
    (hout : v ++ rewritten f (scanFrom r fuel before after) = k ++ post) : v = k := by
  rcases List.append_eq_append_iff.mp hout with ⟨e, hke, hrest⟩ | ⟨e, hve, hrest⟩
  · rcases e with _ | ⟨x, e⟩
    · rw [hke, List.append_nil]
    · have hword : ∀ c ∈ x :: e, u.isWord c = true := fun c hc =>
        hk.2 c (by rw [hke]; exact List.mem_append_right _ hc)
      obtain ⟨post', hpost', -⟩ := exists_of_rewritten_prefix hr hf hword hpost hfuel
        (Or.inr hbefore) hrest
      rw [hpost'] at hafter
      exact absurd (hafter.symm.trans (hword x List.mem_cons_self)) (by decide)
  · rcases e with _ | ⟨x, e⟩
    · rw [hve, List.append_nil]
    · rw [hrest] at hpost
      have hx : u.isWord x = true := hv.2 x (by rw [hve]; simp)
      exact absurd (hpost.symm.trans hx) (by decide)

/-- A word of a replaced stretch and the text behind it is the replacement, or stands
behind it. -/
theorem HasWord.of_replacement {k v context before after : Text} {fuel : Nat}
    (hk : IsWordText u k) (hv : IsWordText u v) (hfuel : after.length ≤ fuel)
    (hbefore : wordEdge u before = true) (hafter : wordEdge u after = false)
    (h : HasWord u context k (v ++ rewritten f (scanFrom r fuel before after))) :
    v = k ∨ HasWord u (v.reverse ++ context) k (rewritten f (scanFrom r fuel before after)) := by
  obtain ⟨pre, post, hout, hleft, hright⟩ := h
  rcases List.append_eq_append_iff.mp hout with ⟨a, rfl, hrest⟩ | ⟨c, hsplit, -⟩
  · exact Or.inr ⟨a, post, hrest, by simpa using hleft, hright⟩
  · -- the word starts in the replacement, hence where it starts
    have hpre : pre = [] := by
      by_contra hpre
      have hword : IsWordText u pre :=
        ⟨hpre, fun x hx => hv.2 x (by rw [hsplit]; exact List.mem_append_left _ hx)⟩
      rw [wordEdge_append_of_isWordText u hword.reverse] at hleft
      exact Bool.noConfusion hleft
    subst hpre
    exact Or.inl (eq_of_replacement hr hf hk hv hfuel hbefore hafter hright hout)

/-- A word of the rewritten text is a word of the text, or one put there. -/
theorem hasWord_of_rewritten {k : Text} (hk : IsWordText u k) :
    ∀ {fuel : Nat} {before after context : Text}, after.length ≤ fuel →
      wordEdge u context = wordEdge u before →
      HasWord u context k (rewritten f (scanFrom r fuel before after)) →
      HasWord u before k after ∨
        ∃ found, Sum.inr found ∈ scanFrom r fuel before after ∧ f found = k := by
  intro fuel
  induction fuel with
  | zero =>
      intro before after context _ _ h
      exact absurd h (not_hasWord_nil hk)
  | succ fuel ih =>
      intro before after context hfuel hedge h
      rw [scanFrom_succ] at h ⊢
      cases hhere : scanHere r before after with
      | none =>
          simp only [hhere] at h ⊢
          rcases after with _ | ⟨x, rest⟩
          · exact absurd h (not_hasWord_nil hk)
          · have hrest : rest.length ≤ fuel := Nat.le_of_succ_le_succ hfuel
            rcases h.cons_cases hk with ⟨k', post, rfl, hout, hleft, hright⟩ | hword
            · have hx : wordEdge u (x :: before) = true := hk.2 x List.mem_cons_self
              obtain ⟨post', rfl, hpost'⟩ := exists_of_rewritten_prefix hr hf
                (fun c hc => hk.2 c (List.mem_cons_of_mem x hc)) hright hrest (Or.inr hx) hout
              exact Or.inl ⟨[], post', rfl, hedge.symm.trans hleft, hpost'⟩
            · have hedge' : wordEdge u (x :: context) = wordEdge u (x :: before) := rfl
              rcases ih hrest hedge' hword with h | ⟨found, hmem, hfound⟩
              · exact Or.inl h.cons
              · exact Or.inr ⟨found, List.mem_cons_of_mem _ hmem, hfound⟩
      | some d =>
          simp only [hhere] at h ⊢
          obtain ⟨w, hne, hafter, hbefore, hm⟩ := scanHere_sound hhere
          obtain ⟨-, hafterEdge, -, hlastEdge⟩ := hr _ _ _ hm
          have hdEdge : wordEdge u d.before = true := by
            rw [hbefore]
            exact wordEdge_append hlastEdge _
          have hdLength : d.after.length ≤ fuel := by
            have hlength := congrArg List.length hafter
            have hpos := List.length_pos_of_ne_nil hne
            rw [List.length_append] at hlength
            omega
          generalize Found.mk before.length d.before.length
            (after.take (after.length - d.after.length)) d.groups = found at h ⊢
          rcases HasWord.of_replacement hr hf hk (hf found) hdLength hdEdge hafterEdge h with
            hfound | hword
          · exact Or.inr ⟨found, List.mem_cons_self, hfound⟩
          · have hedge' : wordEdge u ((f found).reverse ++ context) = wordEdge u d.before := by
              rw [wordEdge_append_of_isWordText u (hf found).reverse, hdEdge]
            rcases ih hdLength hedge' hword with h | ⟨other, hmem, hother⟩
            · rw [hbefore] at h
              rw [hafter]
              exact Or.inl h.append
            · exact Or.inr ⟨other, List.mem_cons_of_mem _ hmem, hother⟩

end Scan

theorem matches_of_mem_scanFrom {fuel : Nat} {before after : Text} {found : Found Char}
    (h : Sum.inr found ∈ scanFrom r fuel before after) :
    ∃ pre post, after = pre ++ (found.text ++ post) ∧
      Matches r (pre.reverse ++ before) found.text post := by
  induction fuel generalizing before after with
  | zero => exact absurd h List.not_mem_nil
  | succ fuel ih =>
      rw [scanFrom_succ] at h
      cases hhere : scanHere r before after with
      | some d =>
          obtain ⟨w, -, hafter, hbefore, hm⟩ := scanHere_sound hhere
          simp only [hhere, List.mem_cons, Sum.inr.injEq] at h
          rcases h with rfl | h
          · have htext : after.take (after.length - d.after.length) = w := by
              rw [hafter, List.length_append, Nat.add_sub_cancel, List.take_left']
              rfl
            refine ⟨[], d.after, ?_, ?_⟩
            · simp only [htext]
              exact hafter
            · simp only [htext]
              exact hm
          · obtain ⟨pre, post, hrest, hm'⟩ := ih h
            refine ⟨w ++ pre, post, ?_, ?_⟩
            · rw [hafter, hrest, List.append_assoc]
            · rw [hbefore] at hm'
              rwa [List.reverse_append, List.append_assoc]
      | none =>
          rcases after with _ | ⟨x, rest⟩
          · simp only [hhere, List.not_mem_nil] at h
          · simp only [hhere, List.mem_cons, reduceCtorEq, false_or] at h
            obtain ⟨pre, post, hrest, hm⟩ := ih h
            exact ⟨x :: pre, post, by rw [hrest]; rfl, by simpa using hm⟩

/-- A whole word of a text after a substitution of words for words. -/
theorem occurs_wholeWord_substitute (hr : MatchesWords u r)
    (hf : ∀ found, IsWordText u (f found)) {keyword : String}
    (hk : IsWordText u keyword.toList) {text : Text}
    (h : occurs (wholeWord u keyword) (substitute r f text) = true) :
    occurs (wholeWord u keyword) text = true ∨
      ∃ pre w post found, text = pre ++ (w ++ post) ∧ Matches r pre.reverse w post ∧
        found.text = w ∧ f found = keyword.toList := by
  rw [occurs_wholeWord_iff_hasWord u hk] at h ⊢
  rcases hasWord_of_rewritten hr hf hk le_rfl rfl h with h | ⟨found, hmem, hfound⟩
  · exact Or.inl h
  · obtain ⟨pre, post, htext, hm⟩ := matches_of_mem_scanFrom hmem
    exact Or.inr ⟨pre, found.text, post, found, htext, by simpa using hm, rfl, hfound⟩

end NanoCore.Foundation.WordSearch
