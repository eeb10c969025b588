import NanoCore.Common.JsonObjects

namespace NanoCore.Common.JsonExtraction

open NanoCore.Common.JsonObjects
open NanoCore.Common.JsonParsing
open NanoCore.Foundation.JsonGrammar
open NanoCore.Foundation.JsonLoads
open NanoCore.Foundation.JsonText
open NanoCore.Foundation.PythonText

variable {p s t u v inner : Text} {c e : Char} {drops : Char → Bool}

/-- `strip` and `strip(chars)`. -/
def trim (drops : Char → Bool) (s : Text) : Text :=
  ((s.dropWhile drops).reverse.dropWhile drops).reverse

theorem trim_append_braced (hopen : drops '\x7b' = false) (hclose : drops '\x7d' = false)
    (u inner v : Text) :
    trim drops (u ++ (braced inner ++ v)) =
      u.dropWhile drops ++ (braced inner ++ (v.reverse.dropWhile drops).reverse) := by
  have hfront : (u ++ (braced inner ++ v)).dropWhile drops =
      u.dropWhile drops ++ (braced inner ++ v) := by
    show (u ++ '\x7b' :: (inner ++ ['\x7d'] ++ v)).dropWhile drops = _
    rw [dropWhile_append_cons hopen]
    rfl
  have hreverse : (u.dropWhile drops ++ (braced inner ++ v)).reverse =
      v.reverse ++ '\x7d' :: (u.dropWhile drops ++ '\x7b' :: inner).reverse := by
    simp [braced]
  rw [trim, hfront, hreverse, dropWhile_append_cons hclose]
  simp [braced]

/-- A needle without the first character of the rest is in front of a text when it is
in front of its first part. -/
theorem isPrefixOf_append_cons {needle : Text} (hc : c ∉ needle) (u t : Text) :
    needle.isPrefixOf (u ++ c :: t) = needle.isPrefixOf u := by
  induction needle generalizing u with
  | nil => rw [List.isPrefixOf_nil_left, List.isPrefixOf_nil_left]
  | cons d needle ih =>
      rw [List.mem_cons, not_or] at hc
      cases u with
      | nil =>
          show (d == c && needle.isPrefixOf t) = false
          rw [beq_eq_false_iff_ne.mpr (Ne.symm hc.1), Bool.false_and]
      | cons f u =>
          show (d == f && needle.isPrefixOf (u ++ c :: t)) = (d == f && needle.isPrefixOf u)
          rw [ih hc.2]

def fence : Text := "```".toList

/-- The prefix begins with a fence, and its line does not end in the prefix. -/
def OpensFenceLine (p : Text) : Prop :=
  fence.isPrefixOf (lstrip p) = true ∧ '\n' ∉ lstrip p

instance (p : Text) : Decidable (OpensFenceLine p) :=
  inferInstanceAs (Decidable (_ ∧ _))

theorem isPrefixOf_fence (u inner v : Text) :
    fence.isPrefixOf (u ++ (braced inner ++ v)) = fence.isPrefixOf u :=
  isPrefixOf_append_cons (by decide) u _

theorem not_mem_dropWhile (h : c ∉ u) : c ∉ u.dropWhile drops := fun hc =>
  h ((List.dropWhile_sublist drops).mem hc)

theorem dropWhile_ne_of_not_mem (h : c ∉ u) (t : Text) :
    (u ++ t).dropWhile (· != c) = t.dropWhile (· != c) := by
  apply List.dropWhile_append_of_pos
  intro d hd
  rw [bne_iff_ne]
  rintro rfl
  exact h hd

/-- The text behind the first line break, or the text itself. -/
def afterLine (s : Text) : Text :=
  match s.dropWhile (· != '\n') with
  | _ :: rest => rest
  | [] => s

theorem stripMarkdownFence_of_fence (h : fence.isPrefixOf s = true) :
    stripMarkdownFence s = afterLine (trim ['\x60'].contains s) :=
  if_pos h

theorem stripMarkdownFence_of_not_fence (h : ¬ fence.isPrefixOf s = true) :
    stripMarkdownFence s = s :=
  if_neg h

theorem afterLine_of_mem (h : '\n' ∈ u) (t : Text) :
    ∃ front back, u = front ++ '\n' :: back ∧ afterLine (u ++ t) = back ++ t := by
  obtain ⟨front, back, rfl, hfront⟩ := List.eq_append_cons_of_mem h
  have hdrop : (front ++ '\n' :: back ++ t).dropWhile (· != '\n') = '\n' :: (back ++ t) := by
    rw [List.append_assoc, dropWhile_ne_of_not_mem hfront]
    rfl
  refine ⟨front, back, rfl, ?_⟩
  rw [afterLine, hdrop]

theorem afterLine_of_not_mem (h : '\n' ∉ s) : afterLine s = s := by
  have hnil : s.dropWhile (· != '\n') = [] := by
    rw [List.dropWhile_eq_nil_iff]
    intro d hd
    rw [bne_iff_ne]
    rintro rfl
    exact h hd
  rw [afterLine, hnil]

/-- Without an unfinished fence line the object stays in the text, behind characters
that are no brace. -/
theorem stripMarkdownFence_braced (hu : '\x7b' ∉ u)
    (h : fence.isPrefixOf u = true → '\n' ∈ u ∨ '\n' ∉ braced inner ++ v) :
    ∃ u' v', '\x7b' ∉ u' ∧
      stripMarkdownFence (u ++ (braced inner ++ v)) = u' ++ (braced inner ++ v') := by
  by_cases hfence : fence.isPrefixOf u = true
  · rw [stripMarkdownFence_of_fence (by rw [isPrefixOf_fence, hfence]),
      trim_append_braced (by decide) (by decide)]
    have hu' : '\x7b' ∉ u.dropWhile ['\x60'].contains := not_mem_dropWhile hu
    by_cases hline : '\n' ∈ u
    · obtain ⟨front, back, heq, hafter⟩ :=
        afterLine_of_mem (mem_dropWhile_of_not (p := ['\x60'].contains) hline (by decide))
          (braced inner ++ (v.reverse.dropWhile ['\x60'].contains).reverse)
      rw [hafter]
      refine ⟨back, _, fun hmem => hu' ?_, rfl⟩
      rw [heq]
      exact List.mem_append_right front (List.mem_cons_of_mem _ hmem)
    · have hrest := (h hfence).resolve_left hline
      rw [List.mem_append, not_or] at hrest
      have hv : '\n' ∉ (v.reverse.dropWhile ['\x60'].contains).reverse := by
        rw [List.mem_reverse]
        exact not_mem_dropWhile (by rw [List.mem_reverse]; exact hrest.2)
      rw [afterLine_of_not_mem]
      · exact ⟨_, _, hu', rfl⟩
      · rw [List.mem_append, List.mem_append, not_or, not_or]
        exact ⟨not_mem_dropWhile hline, hrest.1, hv⟩
  · rw [stripMarkdownFence_of_not_fence (by rwa [isPrefixOf_fence])]
    exact ⟨u, v, hu, rfl⟩

theorem fromBrace_append (hu : '\x7b' ∉ u) : fromBrace (u ++ (braced inner ++ v)) =
    braced inner ++ v := by
  rw [fromBrace, dropWhile_ne_of_not_mem hu]
  rfl

variable {readFloat : ReadFloat} {payload : JsonObject}

theorem extractJson_of_stripped (hu : '\x7b' ∉ u)
    (h : Denotes readFloat .value (braced inner) (.obj payload))
    (hmoves : Moves 1 false inner 1 false)
    (hs : stripMarkdownFence (strip s) = u ++ (braced inner ++ v)) :
    extractJson readFloat s = .ok (some (.obj payload)) := by
  have hfind : findBalancedJsonObject (u ++ (braced inner ++ v)) = some (braced inner) := by
    rw [findBalancedJsonObject, fromBrace_append hu]
    exact balancedFrom_of_moves hmoves v
  have hloads : loads readFloat (braced inner) = .ok (.obj payload) :=
    loads_eq_ok_iff.mpr
      ⟨[], braced inner, [], (List.append_nil _).symm, isSpaces_nil, isSpaces_nil, h⟩
  simp only [extractJson, hs, hfind, Option.getD_some, hloads]

/-- White space behind a prefix does not open a fence line. -/
theorem mem_of_fence {sp : Text} (hsp : IsSpaces sp) (hp : ¬ OpensFenceLine p)
    (h : fence.isPrefixOf (lstrip (p ++ sp)) = true) : '\n' ∈ lstrip (p ++ sp) := by
  have hlstrip : lstrip (p ++ sp) =
      if (lstrip p).isEmpty then lstrip sp else lstrip p ++ sp := List.dropWhile_append
  have hspaces : lstrip sp = [] :=
    List.dropWhile_eq_nil_iff.mpr fun c hc => isSpace_of_isJsonSpace (hsp c hc)
  rw [hlstrip] at h ⊢
  split at h
  · rw [hspaces] at h
    cases h
  · rename_i hne
    rw [if_neg hne]
    apply List.mem_append_left
    by_contra hline
    refine hp ⟨?_, hline⟩
    cases sp with
    | nil => rwa [List.append_nil] at h
    | cons c sp =>
        have hc : c ∉ fence := by
          intro hmem
          have hspace := hsp c List.mem_cons_self
          rw [List.eq_of_mem_replicate (n := 3) hmem] at hspace
          cases hspace
        rwa [isPrefixOf_append_cons hc] at h

/-- The object behind a prefix is found unless the prefix opens a fence line and a line
break comes later. -/
theorem extractJson_append (hp : '\x7b' ∉ p) (ht : loads readFloat t = .ok (.obj payload))
    (hfence : OpensFenceLine p → '\n' ∉ t ++ s) :
    extractJson readFloat (p ++ t ++ s) = .ok (some (.obj payload)) := by
  obtain ⟨sp, w, sp', rfl, hsp, hsp', h⟩ := loads_eq_ok_iff.mp ht
  obtain ⟨inner, rfl, hmoves⟩ := exists_inner h
  have hstrip : strip (p ++ (sp ++ (braced inner ++ sp')) ++ s) =
      lstrip (p ++ sp) ++ (braced inner ++ ((sp' ++ s).reverse.dropWhile isSpace).reverse) := by
    have happend : p ++ (sp ++ (braced inner ++ sp')) ++ s =
        p ++ sp ++ (braced inner ++ (sp' ++ s)) := by
      simp only [List.append_assoc]
    rw [happend]
    exact trim_append_braced (by decide) (by decide) (p ++ sp) inner (sp' ++ s)
  have hu : '\x7b' ∉ lstrip (p ++ sp) := by
    apply not_mem_dropWhile
    rw [List.mem_append, not_or]
    refine ⟨hp, fun hmem => ?_⟩
    cases hsp _ hmem
  have hline : fence.isPrefixOf (lstrip (p ++ sp)) = true → '\n' ∈ lstrip (p ++ sp) ∨
      '\n' ∉ braced inner ++ ((sp' ++ s).reverse.dropWhile isSpace).reverse := by
    intro hprefix
    by_cases hopens : OpensFenceLine p
    · right
      have hnone := hfence hopens
      simp only [List.mem_append, not_or] at hnone ⊢
      refine ⟨hnone.1.2.1, ?_⟩
      rw [List.mem_reverse]
      apply not_mem_dropWhile
      simp only [List.mem_reverse, List.mem_append, not_or]
      exact ⟨hnone.1.2.2, hnone.2⟩
    · left
      exact mem_of_fence hsp hopens hprefix
  obtain ⟨u', v', hu', hstripped⟩ := stripMarkdownFence_braced hu hline
  exact extractJson_of_stripped hu' h hmoves (by rw [hstrip, hstripped])

/-- A fence line that the prefix opens is cut off together with the object. -/
theorem extractJson_of_opensFenceLine (hp : OpensFenceLine p) :
    extractJson readFloat (p ++ braced [] ++ ['\n', 'x']) = .ok none := by
  have hstrip : strip (p ++ braced [] ++ ['\n', 'x']) =
      lstrip p ++ (braced [] ++ ['\n', 'x']) := by
    have htrim : strip (p ++ (braced [] ++ ['\n', 'x'])) =
        lstrip p ++ (braced [] ++ ['\n', 'x']) :=
      trim_append_braced (by decide) (by decide) p [] ['\n', 'x']
    rw [List.append_assoc]
    exact htrim
  have htrim : trim ['\x60'].contains (lstrip p ++ (braced [] ++ ['\n', 'x'])) =
      (lstrip p).dropWhile ['\x60'].contains ++ (braced [] ++ ['\n', 'x']) :=
    trim_append_braced (by decide) (by decide) (lstrip p) [] ['\n', 'x']
  have hline : afterLine ((lstrip p).dropWhile ['\x60'].contains ++
      (braced [] ++ ['\n', 'x'])) = ['x'] := by
    rw [afterLine, dropWhile_ne_of_not_mem (not_mem_dropWhile hp.2)]
    rfl
  have hstripped : stripMarkdownFence (strip (p ++ braced [] ++ ['\n', 'x'])) = ['x'] := by
    rw [hstrip, stripMarkdownFence_of_fence (by rw [isPrefixOf_fence, hp.1]), htrim, hline]
  have hloads : loads readFloat ['x'] = .error .decode := rfl
  have hfind : (findBalancedJsonObject ['x']).getD ((betweenBraces ['x']).getD ['x']) = ['x'] :=
    rfl
  simp only [extractJson, hstripped, hfind, hloads]

theorem loads_braced_nil : loads readFloat (braced []) = .ok (.obj []) :=
  loads_eq_ok_iff.mpr
    ⟨[], braced [], [], rfl, isSpaces_nil, isSpaces_nil, .emptyObject isSpaces_nil⟩

/-- The object that follows a prefix without braces is found in every reply, exactly when
the prefix opens no fence line; behind one that does, it is found in the replies that have
no line break after the prefix. -/
theorem findsObject_iff (readFloat : ReadFloat) {p : Text} (hp : '\x7b' ∉ p) :
    ((∀ t s payload, loads readFloat t = .ok (.obj payload) →
      extractJson readFloat (p ++ t ++ s) = .ok (some (.obj payload))) ↔ ¬ OpensFenceLine p) ∧
      ∀ t s payload, loads readFloat t = .ok (.obj payload) → '\n' ∉ t ++ s →
        extractJson readFloat (p ++ t ++ s) = .ok (some (.obj payload)) := by
  refine ⟨⟨?_, ?_⟩, ?_⟩
  · intro h hopens
    have hfound := h (braced []) ['\n', 'x'] [] loads_braced_nil
    rw [extractJson_of_opensFenceLine hopens] at hfound
    cases hfound
  · intro hopens t s payload ht
    exact extractJson_append hp ht fun h => absurd h hopens
  · intro t s payload ht hline
    exact extractJson_append hp ht fun _ => hline

theorem findsObject_fenced :
    extractJson (fun _ => .zero) ("```json\n".toList ++ braced [] ++ ['\n', 'x']) =
      .ok (some (.obj [])) :=
  (findsObject_iff (fun _ => .zero) (by decide)).1.mpr (by decide) (braced []) ['\n', 'x'] []
    loads_braced_nil

/-- A fence with the object on its own line. -/
theorem not_findsObject_fence : ¬ ∀ (readFloat : ReadFloat) (p t s : Text) (payload : JsonObject),
    '\x7b' ∉ p → loads readFloat t = .ok (.obj payload) →
      extractJson readFloat (p ++ t ++ s) = .ok (some (.obj payload)) := by
  intro h
  have hfound := h (fun _ => .zero) "```json ".toList (braced []) ['\n', 'x'] [] (by decide)
    loads_braced_nil
  rw [extractJson_of_opensFenceLine (by decide)] at hfound
  cases hfound

end NanoCore.Common.JsonExtraction
