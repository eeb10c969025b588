import NanoCore.Common.JsonExtraction

namespace NanoCore.Common.TruncatedJson

open NanoCore.Common.JsonExtraction
open NanoCore.Common.JsonObjects
open NanoCore.Common.JsonParsing
open NanoCore.Foundation.JsonGrammar
open NanoCore.Foundation.JsonLoads
open NanoCore.Foundation.JsonText
open NanoCore.Foundation.JsonTokens
open NanoCore.Foundation.PythonText

variable {p s t x inner : Text} {c : Char} {d : Nat} {b e : Bool}

/-- A character ends the object or is taken into it, whatever follows. -/
theorem balancedFrom_cons (d : Nat) (b e : Bool) (c : Char) :
    (∀ s, balancedFrom d b e (c :: s) = some [c]) ∨
      ∃ d' b' e', ∀ s, balancedFrom d b e (c :: s) = (balancedFrom d' b' e' s).map (c :: ·) := by
  cases b with
  | true =>
      cases e with
      | true => exact .inr ⟨d, true, false, fun _ => by rw [balancedFrom]⟩
      | false => exact .inr ⟨d, c != '"', c == '\\', fun _ => by rw [balancedFrom]⟩
  | false =>
      by_cases hquote : c = '"'
      · exact .inr ⟨d, true, false, fun _ => by rw [balancedFrom, if_pos hquote]⟩
      · by_cases hopen : c = '\x7b'
        · exact .inr ⟨d + 1, false, false, fun _ => by
            rw [balancedFrom, if_neg hquote, if_pos hopen]⟩
        · by_cases hclose : c = '\x7d'
          · by_cases hdepth : d = 1
            · exact .inl fun _ => by
                rw [balancedFrom, if_neg hquote, if_neg hopen, if_pos hclose, if_pos hdepth]
            · exact .inr ⟨d - 1, false, false, fun _ => by
                rw [balancedFrom, if_neg hquote, if_neg hopen, if_pos hclose, if_neg hdepth]⟩
          · exact .inr ⟨d, false, false, fun _ => by
              rw [balancedFrom, if_neg hquote, if_neg hopen, if_neg hclose]⟩

/-- What the scanner finds is the front of the text, and it finds the same with more
text behind. -/
theorem balancedFrom_append (h : balancedFrom d b e s = some x) :
    x <+: s ∧ ∀ r, balancedFrom d b e (s ++ r) = some x := by
  induction s generalizing d b e x with
  | nil =>
      rw [balancedFrom] at h
      cases h
  | cons c s ih =>
      rcases balancedFrom_cons d b e c with hends | ⟨d', b', e', htakes⟩
      · rw [hends] at h
        cases h
        exact ⟨⟨s, rfl⟩, fun r => hends (s ++ r)⟩
      · rw [htakes] at h
        obtain ⟨y, hy, rfl⟩ := Option.map_eq_some_iff.mp h
        obtain ⟨hfront, happend⟩ := ih hy
        refine ⟨(List.prefix_cons_inj c).mpr hfront, fun r => ?_⟩
        rw [List.cons_append, htakes, happend r]
        rfl

/-- In a proper part of an object nothing is found. -/
theorem balancedFrom_of_lt (hmoves : Moves 1 false inner 1 false) (h : p <+: braced inner)
    (hlt : p.length < (braced inner).length) : balancedFrom 0 false false p = none := by
  rw [Option.eq_none_iff_forall_ne_some]
  intro x hx
  obtain ⟨r, hr⟩ := h
  obtain ⟨hfront, happend⟩ := balancedFrom_append hx
  have hwhole := balancedFrom_of_moves hmoves []
  rw [List.append_nil, ← hr, happend r] at hwhole
  have hx : x = braced inner := (Option.some.inj hwhole).trans hr
  have hle := hfront.length_le
  rw [hx] at hle
  omega

theorem stripMarkdownFence_cons (hc : c ≠ '\x60') (s : Text) :
    stripMarkdownFence (c :: s) = c :: s := by
  apply stripMarkdownFence_of_not_fence
  show ¬ ('\x60' == c && _) = true
  rw [beq_eq_false_iff_ne.mpr (Ne.symm hc), Bool.false_and]
  exact Bool.false_ne_true

theorem findBalancedJsonObject_cons (s : Text) :
    findBalancedJsonObject ('\x7b' :: s) = balancedFrom 0 false false ('\x7b' :: s) := rfl

/-- A text that begins with a brace is inspected without the white space behind it. -/
theorem looksLikeTruncatedJson_cons (s : Text) :
    ∃ s', strip ('\x7b' :: s) = '\x7b' :: s' ∧ '\x7b' :: s' <+: '\x7b' :: s ∧
      looksLikeTruncatedJson ('\x7b' :: s) = (findBalancedJsonObject ('\x7b' :: s')).isNone := by
  have hreverse : ('\x7b' :: s).reverse = s.reverse ++ ['\x7b'] := List.reverse_cons
  have hstrip : strip ('\x7b' :: s) = '\x7b' :: (s.reverse.dropWhile isSpace).reverse := by
    show (('\x7b' :: s).reverse.dropWhile isSpace).reverse = _
    rw [hreverse, dropWhile_append_cons (by decide), List.reverse_append]
    rfl
  refine ⟨_, hstrip, ?_, ?_⟩
  · rw [List.prefix_cons_inj]
    have hsuffix := List.dropWhile_suffix (l := s.reverse) isSpace
    rw [← List.reverse_prefix, List.reverse_reverse] at hsuffix
    exact hsuffix
  · rw [looksLikeTruncatedJson, hstrip, stripMarkdownFence_cons (by decide)]
    exact if_neg (not_not_intro List.mem_cons_self)

/-- What `json.loads` reads as an object is the text of one, where no white space is
around it. -/
theorem isObjectText_of_loads {readFloat : ReadFloat} {payload : JsonObject}
    (h : loads readFloat t = .ok (.obj payload)) (hfirst : ∀ c ∈ t.head?, isJsonSpace c = false)
    (hlast : ∀ c ∈ t.getLast?, isJsonSpace c = false) : IsObjectText t := by
  obtain ⟨sp, w, sp', rfl, hsp, hsp', hw⟩ := loads_eq_ok_iff.mp h
  have hsp : sp = [] := by
    rw [List.eq_nil_iff_forall_not_mem]
    intro c hc
    obtain ⟨d, sp, rfl⟩ := List.exists_cons_of_ne_nil (List.ne_nil_of_mem hc)
    have hspace := hsp d List.mem_cons_self
    rw [hfirst d rfl] at hspace
    cases hspace
  have hsp' : sp' = [] := by
    rcases List.eq_nil_or_concat sp' with hnil | ⟨sp', d, rfl⟩
    · exact hnil
    · have hspace := hsp' d (by simp)
      rw [hlast d (by simp)] at hspace
      cases hspace
  rw [hsp, hsp', List.nil_append, List.append_nil]
  exact isObjectText_of_denotes hw

/-- A JSON object text that is cut anywhere looks truncated and holds no object; with
its last brace, and any text behind, it does not, and the object is found exactly. -/
theorem truncation_of_isObjectText (ht : IsObjectText t) :
    (∀ p s, t = p ++ s → p ≠ [] → s ≠ [] →
      looksLikeTruncatedJson p = true ∧ findBalancedJsonObject p = none) ∧
    ∀ s, looksLikeTruncatedJson (t ++ s) = false ∧ findBalancedJsonObject (t ++ s) = some t := by
  obtain ⟨inner, rfl, hmoves⟩ := ht.exists_inner
  constructor
  · intro p s hsplit hp hs
    obtain ⟨c, p, rfl⟩ := List.exists_cons_of_ne_nil hp
    obtain ⟨rfl, -⟩ := List.cons.inj hsplit
    have hfront : '\x7b' :: p <+: braced inner := ⟨s, hsplit.symm⟩
    have hlt : ('\x7b' :: p).length < (braced inner).length := by
      rw [hsplit, List.length_append]
      have hpos := List.length_pos_of_ne_nil hs
      omega
    obtain ⟨p', -, hfront', hlooks⟩ := looksLikeTruncatedJson_cons p
    have hlt' := lt_of_le_of_lt hfront'.length_le hlt
    constructor
    · rw [hlooks, findBalancedJsonObject_cons,
        balancedFrom_of_lt hmoves (hfront'.trans hfront) hlt']
      rfl
    · rw [findBalancedJsonObject_cons, balancedFrom_of_lt hmoves hfront hlt]
  · intro s
    have hfind (s : Text) : findBalancedJsonObject (braced inner ++ s) = some (braced inner) :=
      balancedFrom_of_moves hmoves s
    refine ⟨?_, hfind s⟩
    have hstrip : strip (braced inner ++ s) =
        braced inner ++ (s.reverse.dropWhile isSpace).reverse :=
      trim_append_braced (by decide) (by decide) [] inner s
    obtain ⟨s', hs', -, hlooks⟩ := looksLikeTruncatedJson_cons (inner ++ ['\x7d'] ++ s)
    have hs'' : '\x7b' :: s' = braced inner ++ (s.reverse.dropWhile isSpace).reverse :=
      hs'.symm.trans hstrip
    rw [hs'', hfind] at hlooks
    exact hlooks

/-- A brace in a string does not close the object. -/
theorem truncation_brace_in_string :
    looksLikeTruncatedJson ['\x7b', '"', 'a', '"', ':', '"', '\x7d'] = true ∧
      findBalancedJsonObject ['\x7b', '"', 'a', '"', ':', '"', '\x7d', '"', '\x7d', '!'] =
        some ['\x7b', '"', 'a', '"', ':', '"', '\x7d', '"', '\x7d'] :=
  have hkey : Quoted ['a'] := .plain (by decide) (by decide) .nil
  have hvalue : Quoted ['\x7d'] := .plain (by decide) (by decide) .nil
  have ht : IsObjectText ['\x7b', '"', 'a', '"', ':', '"', '\x7d', '"', '\x7d'] :=
    ⟨.object isSpaces_nil
      (.lastEntry hkey isSpaces_nil isSpaces_nil (.string hvalue) isSpaces_nil), rfl⟩
  have h := truncation_of_isObjectText ht
  ⟨(h.1 ['\x7b', '"', 'a', '"', ':', '"', '\x7d'] ['"', '\x7d'] rfl
    (List.cons_ne_nil _ _) (List.cons_ne_nil _ _)).1, (h.2 ['!']).2⟩

end NanoCore.Common.TruncatedJson
