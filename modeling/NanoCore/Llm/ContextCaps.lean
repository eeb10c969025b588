import NanoCore.Llm.ContextSizing

namespace NanoCore.Llm.ContextCaps

open NanoCore.Llm.ContextSizing
open NanoCore.System.Specs

variable {modelBytes : Option Nat} {memory : MemoryInfo} {requested x y size cap : Int}

theorem pairwise_contextSizeLadder : contextSizeLadder.Pairwise (· > ·) := by decide

theorem le_of_mem_contextSizeLadder (h : size ∈ contextSizeLadder) : 512 ≤ size := by
  have hall : contextSizeLadder.all (512 ≤ ·) = true := by decide
  exact of_decide_eq_true (List.all_eq_true.mp hall size h)

theorem mem_contextSizeLadder_512 : (512 : Int) ∈ contextSizeLadder := by decide

/-- The largest size of the ladder up to a bound, and the smallest size where the bound
is below all of them. -/
def ladderTop (bound : Int) : Int := (contextSizeLadder.filter (· ≤ bound)).headD 512

theorem ladderTop_mem (x : Int) : ladderTop x ∈ contextSizeLadder := by
  rw [ladderTop]
  cases hladder : contextSizeLadder.filter (· ≤ x) with
  | nil => exact mem_contextSizeLadder_512
  | cons top rest =>
      have hmem : top ∈ contextSizeLadder.filter (· ≤ x) := by
        rw [hladder]
        exact List.mem_cons_self
      exact (List.mem_filter.mp hmem).1

theorem ladderTop_le (x : Int) : ladderTop x ≤ max 512 x := by
  rw [ladderTop]
  cases hladder : contextSizeLadder.filter (· ≤ x) with
  | nil => exact le_max_left 512 x
  | cons top rest =>
      have hmem : top ∈ contextSizeLadder.filter (· ≤ x) := by
        rw [hladder]
        exact List.mem_cons_self
      exact le_max_of_le_right (of_decide_eq_true (List.mem_filter.mp hmem).2)

theorem le_ladderTop (hsize : size ∈ contextSizeLadder) (h : size ≤ x) : size ≤ ladderTop x := by
  have hmem : size ∈ contextSizeLadder.filter (· ≤ x) :=
    List.mem_filter.mpr ⟨hsize, decide_eq_true h⟩
  have hpairwise := pairwise_contextSizeLadder.filter (· ≤ x)
  rw [ladderTop]
  cases hladder : contextSizeLadder.filter (· ≤ x) with
  | nil =>
      rw [hladder] at hmem
      cases hmem
  | cons top rest =>
      rw [hladder] at hmem hpairwise
      rcases List.mem_cons.mp hmem with rfl | hrest
      · exact le_refl size
      · exact le_of_lt ((List.pairwise_cons.mp hpairwise).1 size hrest)

theorem ladderTop_mono (h : x ≤ y) : ladderTop x ≤ ladderTop y := by
  have hmem := ladderTop_mem x
  rcases le_max_iff.mp (ladderTop_le x) with hle | hle
  · exact hle.trans (le_of_mem_contextSizeLadder (ladderTop_mem y))
  · exact le_ladderTop hmem (hle.trans h)

theorem ladderUpTo_eq (requested : Int) :
    ladderUpTo requested = contextSizeLadder.filter (· ≤ max 512 requested) := by
  have hmem : (512 : Int) ∈ contextSizeLadder.filter (· ≤ max 512 requested) :=
    List.mem_filter.mpr ⟨mem_contextSizeLadder_512, decide_eq_true (le_max_left 512 requested)⟩
  have hne : ¬ (contextSizeLadder.filter (· ≤ max 512 requested)).isEmpty = true := by
    rw [List.isEmpty_iff]
    exact List.ne_nil_of_mem hmem
  exact if_neg hne

theorem contextSizesToTry_of_none (h : ramCap modelBytes memory = none) :
    contextSizesToTry modelBytes memory requested =
      contextSizeLadder.filter (· ≤ max 512 requested) := by
  rw [contextSizesToTry, h, ladderUpTo_eq]

theorem contextSizesToTry_of_some (h : ramCap modelBytes memory = some cap) :
    contextSizesToTry modelBytes memory requested =
      if (contextSizeLadder.filter (· ≤ min (max 512 requested) cap)).isEmpty then [512]
      else contextSizeLadder.filter (· ≤ min (max 512 requested) cap) := by
  have hfilter : (ladderUpTo requested).filter (· ≤ cap) =
      contextSizeLadder.filter (· ≤ min (max 512 requested) cap) := by
    rw [ladderUpTo_eq, List.filter_filter]
    congr 1
    funext size
    rw [← Bool.decide_and]
    congr 1
    rw [le_min_iff, and_comm]
  simp only [contextSizesToTry, h, hfilter]

theorem headD_contextSizesToTry_of_none (h : ramCap modelBytes memory = none) :
    (contextSizesToTry modelBytes memory requested).headD 512 = ladderTop (max 512 requested) := by
  rw [contextSizesToTry_of_none h]
  rfl

theorem headD_contextSizesToTry_of_some (h : ramCap modelBytes memory = some cap) :
    (contextSizesToTry modelBytes memory requested).headD 512 =
      ladderTop (min (max 512 requested) cap) := by
  rw [contextSizesToTry_of_some h, ladderTop]
  cases contextSizeLadder.filter (· ≤ min (max 512 requested) cap) with
  | nil => rfl
  | cons top rest => rfl

theorem contextSizesToTry_ne_nil (modelBytes : Option Nat) (memory : MemoryInfo)
    (requested : Int) : contextSizesToTry modelBytes memory requested ≠ [] := by
  cases hcap : ramCap modelBytes memory with
  | none =>
      rw [contextSizesToTry_of_none hcap]
      exact List.ne_nil_of_mem (List.mem_filter.mpr
        ⟨mem_contextSizeLadder_512, decide_eq_true (le_max_left 512 requested)⟩)
  | some cap =>
      rw [contextSizesToTry_of_some hcap]
      split_ifs with hempty
      · exact List.cons_ne_nil 512 []
      · rwa [List.isEmpty_iff] at hempty

/-- The first size of `context_sizes_to_try`. -/
def firstContextSize (modelBytes : Option Nat) (memory : MemoryInfo) (requested : Int) : Int :=
  (contextSizesToTry modelBytes memory requested).head
    (contextSizesToTry_ne_nil modelBytes memory requested)

theorem firstContextSize_eq_headD :
    firstContextSize modelBytes memory requested =
      (contextSizesToTry modelBytes memory requested).headD 512 := by
  rw [firstContextSize, List.headD_eq_head?_getD, List.head?_eq_some_head, Option.getD_some]

section Amounts

variable {total total' : Option Int} {a b : Int}

/-- What an amount of memory leaves for the context. -/
def budget (modelBytes : Option Nat) (available : Int) : Int :=
  contextBudget modelBytes available memoryReserveBytes

theorem budget_mono (h : a ≤ b) : budget modelBytes a ≤ budget modelBytes b := by
  show a - _ - _ ≤ b - _ - _
  omega

theorem ramCap_of_le (h : budget modelBytes a ≤ 0) :
    ramCap modelBytes ⟨total, some a⟩ = none := if_pos h

theorem ramCap_of_lt (h : 0 < budget modelBytes a) :
    ramCap modelBytes ⟨total, some a⟩ =
      some (budget modelBytes a / kvBytesPerTokenEstimate) := by
  have hdiv : 0 ≤ budget modelBytes a / kvBytesPerTokenEstimate :=
    Int.ediv_nonneg (le_of_lt h) (by decide)
  have hfloor : (budget modelBytes a).fdiv kvBytesPerTokenEstimate =
      budget modelBytes a / kvBytesPerTokenEstimate :=
    Int.fdiv_eq_ediv_of_nonneg _ (by decide)
  refine (if_neg (not_le.mpr h)).trans ?_
  show some (max 0 ((budget modelBytes a).fdiv kvBytesPerTokenEstimate)) = _
  rw [hfloor, max_eq_right hdiv]

theorem firstContextSize_of_le (h : budget modelBytes a ≤ 0) :
    firstContextSize modelBytes ⟨total, some a⟩ requested = ladderTop (max 512 requested) := by
  rw [firstContextSize_eq_headD, headD_contextSizesToTry_of_none (ramCap_of_le h)]

theorem firstContextSize_of_lt (h : 0 < budget modelBytes a) :
    firstContextSize modelBytes ⟨total, some a⟩ requested =
      ladderTop (min (max 512 requested) (budget modelBytes a / kvBytesPerTokenEstimate)) := by
  rw [firstContextSize_eq_headD, headD_contextSizesToTry_of_some (ramCap_of_lt h)]

/-- The whole ladder up to a bound passes a second bound when its largest size does. -/
theorem ladderTop_le_ladderTop_min_iff (hx : 512 ≤ x) :
    ladderTop x ≤ ladderTop (min x cap) ↔
      ∀ size ∈ contextSizeLadder, size ≤ x → size ≤ max 512 cap := by
  constructor
  · intro h size hsize hle
    have htop := (le_ladderTop hsize hle).trans (h.trans (ladderTop_le (min x cap)))
    exact htop.trans (max_le_max_left 512 (min_le_right x cap))
  · intro h
    have hle : ladderTop x ≤ x := (ladderTop_le x).trans (max_le hx (le_refl x))
    rcases le_max_iff.mp (h _ (ladderTop_mem x) hle) with hmin | hcap
    · exact hmin.trans (le_of_mem_contextSizeLadder (ladderTop_mem _))
    · exact le_ladderTop (ladderTop_mem x) (le_min hle hcap)

/-- More memory gives no smaller first size, except where the smaller amount leaves
nothing, which counts as no limit, and the cap of the larger one takes a size away. -/
theorem firstContextSize_le_iff (h : a ≤ b) :
    firstContextSize modelBytes ⟨total, some a⟩ requested ≤
        firstContextSize modelBytes ⟨total', some b⟩ requested ↔
      0 < budget modelBytes a ∨ budget modelBytes b ≤ 0 ∨
        ∀ size ∈ contextSizeLadder, size ≤ max 512 requested →
          size ≤ max 512 (budget modelBytes b / kvBytesPerTokenEstimate) := by
  have hbudget : budget modelBytes a ≤ budget modelBytes b := budget_mono h
  rcases lt_or_ge 0 (budget modelBytes a) with ha | ha
  · have hb : 0 < budget modelBytes b := lt_of_lt_of_le ha hbudget
    refine iff_of_true ?_ (.inl ha)
    rw [firstContextSize_of_lt ha, firstContextSize_of_lt hb]
    apply ladderTop_mono
    apply min_le_min_left
    exact Int.ediv_le_ediv (by decide) hbudget
  · rw [firstContextSize_of_le ha]
    rcases lt_or_ge 0 (budget modelBytes b) with hb | hb
    · rw [firstContextSize_of_lt hb, ladderTop_le_ladderTop_min_iff (le_max_left 512 requested)]
      constructor
      · exact fun hcap => .inr (.inr hcap)
      · rintro (hpos | hnone | hcap)
        · omega
        · omega
        · exact hcap
    · rw [firstContextSize_of_le hb]
      exact iff_of_true (le_refl _) (.inr (.inl hb))

theorem firstContextSize_le_small :
    firstContextSize none ⟨none, some 1567108864⟩ 32768 ≤
      firstContextSize none ⟨none, some 2000000000⟩ 32768 :=
  (firstContextSize_le_iff (by decide)).mpr (.inl (by decide))

/-- Without memory the whole ladder is tried, with a little more only its end. -/
theorem not_firstContextSize_mono :
    ¬ ∀ (modelBytes : Option Nat) (total : Option Int) (requested a b : Int), a ≤ b →
      firstContextSize modelBytes ⟨total, some a⟩ requested ≤
        firstContextSize modelBytes ⟨total, some b⟩ requested := by
  intro h
  have hle := h none none 32768 0 1567108864 (by decide)
  revert hle
  decide

end Amounts

end NanoCore.Llm.ContextCaps
