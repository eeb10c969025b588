import Mathlib.Data.List.TakeWhile

namespace NanoCore.Foundation.NumberedLog

universe u

variable {α : Type u}

/-- `deque.append` of a deque with a bound: the oldest entries are dropped. -/
def appendBounded (maxlen : Nat) (kept : List α) (x : α) : List α :=
  (kept ++ [x]).drop (kept.length + 1 - maxlen)

def newest (maxlen : Nat) (log : List α) : List α := log.drop (log.length - maxlen)

variable {maxlen : Nat} {log : List α} {x : α}

theorem length_newest : (newest maxlen log).length = min maxlen log.length := by
  rw [newest, List.length_drop]
  omega

/-- The deque keeps the newest entries of the whole log. -/
theorem appendBounded_newest :
    appendBounded maxlen (newest maxlen log) x = newest maxlen (log ++ [x]) := by
  have hfewer : log.length - maxlen ≤ log.length := Nat.sub_le ..
  rw [appendBounded, length_newest, newest, newest, List.length_append, List.length_singleton,
    ← List.drop_append_of_le_length hfewer, List.drop_drop]
  congr 1
  omega

theorem mem_of_mem_newest (h : x ∈ newest maxlen log) : x ∈ log := List.mem_of_mem_drop h

theorem mem_appendBounded_self (hpos : 0 < maxlen) (kept : List α) :
    x ∈ appendBounded maxlen kept x := by
  apply List.mem_of_getLast?
  rw [appendBounded, List.getLast?_drop, List.length_append, List.length_singleton,
    if_neg (by omega), List.getLast?_concat]

variable (num : α → Nat)

/-- The entries have consecutive numbers. -/
def NumberedFrom (start : Nat) (log : List α) : Prop :=
  log.map num = List.range' start log.length

abbrev Numbered (log : List α) : Prop := NumberedFrom num 1 log

variable {num} {start n : Nat}

theorem numberedFrom_cons : NumberedFrom num start (x :: log) ↔
    num x = start ∧ NumberedFrom num (start + 1) log := by
  rw [NumberedFrom, List.map_cons, List.length_cons, List.range'_succ, List.cons.injEq]
  rfl

theorem numberedFrom_append (h : NumberedFrom num start log) (hx : num x = start + log.length) :
    NumberedFrom num start (log ++ [x]) := by
  rw [NumberedFrom, List.map_append, h, List.length_append, List.length_singleton,
    List.range'_1_concat, ← hx]
  rfl

theorem NumberedFrom.lt_of_mem (h : NumberedFrom num start log) (hx : x ∈ log) :
    num x < start + log.length := by
  have hmem : num x ∈ List.range' start log.length := h ▸ List.mem_map_of_mem hx
  exact (List.mem_range'_1.mp hmem).2

theorem NumberedFrom.take (h : NumberedFrom num start log) (m : Nat) :
    NumberedFrom num start (log.take m) := by
  rw [NumberedFrom, List.map_take, h, List.length_take]
  rcases Nat.le_total m log.length with hm | hm
  · rw [List.take_range'_of_length_ge hm, Nat.min_eq_left hm]
  · rw [List.take_range'_of_length_le hm, Nat.min_eq_right hm]

theorem NumberedFrom.pairwise (h : NumberedFrom num start log) :
    log.Pairwise fun x y => num x < num y := by
  rw [← List.pairwise_map, h]
  exact List.pairwise_lt_range'

theorem filter_lt_eq_drop (h : NumberedFrom num start log) :
    (log.filter fun x => n < num x) = log.drop (n + 1 - start) := by
  induction log generalizing start with
  | nil => rw [List.filter_nil, List.drop_nil]
  | cons x log ih =>
      obtain ⟨hx, hlog⟩ := numberedFrom_cons.mp h
      rw [List.filter_cons, ih hlog, hx]
      by_cases hn : n < start
      · rw [decide_eq_true hn, if_pos rfl, Nat.sub_eq_zero_of_le hn, List.drop_zero,
          Nat.sub_eq_zero_of_le (by omega), List.drop_zero]
      · rw [decide_eq_false hn, if_neg Bool.false_ne_true, ← List.drop_succ_cons (a := x)]
        congr 1
        omega

/-- All entries after a number are among the newest when they are few enough. -/
theorem filter_lt_newest (h : Numbered num log) (hfew : log.length ≤ n + maxlen) :
    ((newest maxlen log).filter fun x => n < num x) = log.drop n := by
  have hall : (log.filter fun x => n < num x) = log.drop n := filter_lt_eq_drop h
  rw [← List.take_append_drop (log.length - maxlen) log, List.filter_append] at hall
  have hold : ((log.take (log.length - maxlen)).filter fun x => n < num x) = [] := by
    rw [filter_lt_eq_drop (h.take _), List.drop_eq_nil_iff, List.length_take]
    omega
  rw [hold, List.nil_append, List.take_append_drop] at hall
  exact hall

theorem drop_take_append_drop_max (log : List α) (s m : Nat) :
    (log.take m).drop s ++ log.drop (max s m) = log.drop s := by
  rcases Nat.le_total s m with hs | hm
  · have hrest : log.drop m = (log.drop s).drop (m - s) := by
      rw [List.drop_drop, Nat.add_sub_cancel' hs]
    rw [Nat.max_eq_right hs, List.drop_take, hrest, List.take_append_drop]
  · have hnone : (log.take m).drop s = [] := by
      rw [List.drop_eq_nil_iff, List.length_take]
      omega
    rw [Nat.max_eq_left hm, hnone, List.nil_append]

variable (num)

/-- One pass over the kept entries: those with a number after the last one seen,
and the last number then seen. -/
def catchUp (last : Nat) : List α → Nat × List α
  | [] => (last, [])
  | x :: kept =>
      if last < num x then
        let (last, emitted) := catchUp (num x) kept
        (last, x :: emitted)
      else catchUp last kept

variable {num} {last : Nat} {kept : List α}

theorem catchUp_fst :
    (catchUp num last kept).1 = ((catchUp num last kept).2.getLast?.map num).getD last := by
  induction kept generalizing last with
  | nil => rfl
  | cons x kept ih =>
      rw [catchUp]
      split
      · rw [List.getLast?_cons]
        rw [ih]
        cases (catchUp num (num x) kept).2.getLast? <;> rfl
      · exact ih

theorem catchUp_snd (h : kept.Pairwise fun x y => num x < num y) :
    (catchUp num last kept).2 = kept.filter fun x => last < num x := by
  induction kept generalizing last with
  | nil => rfl
  | cons x kept ih =>
      obtain ⟨hx, hkept⟩ := List.pairwise_cons.mp h
      rw [catchUp, List.filter_cons]
      by_cases hlast : last < num x
      · have hrest (y : α) (hy : y ∈ kept) : (last < num y) = (num x < num y) :=
          propext (iff_of_true (hlast.trans (hx y hy)) (hx y hy))
        rw [if_pos hlast, decide_eq_true hlast, if_pos rfl]
        dsimp only
        rw [ih hkept]
        congr 1
        exact List.filter_congr fun y hy => by simp only [hrest y hy]
      · rw [if_neg hlast, decide_eq_false hlast, if_neg Bool.false_ne_true, ih hkept]

/-- A reader who has missed no more entries than are kept sees all of them. -/
theorem catchUp_newest (h : Numbered num log) (hfew : log.length ≤ last + maxlen) :
    catchUp num last (newest maxlen log) = (max last log.length, log.drop last) := by
  have hemitted : (catchUp num last (newest maxlen log)).2 = log.drop last := by
    have hascending : (newest maxlen log).Pairwise fun x y => num x < num y :=
      h.pairwise.sublist (List.drop_sublist ..)
    rw [catchUp_snd hascending, filter_lt_newest h hfew]
  have hlast : (catchUp num last (newest maxlen log)).1 = max last log.length := by
    rw [catchUp_fst, hemitted, List.getLast?_drop]
    split
    · rename_i hnone
      exact (Nat.max_eq_left hnone).symm
    · rename_i hsome
      have hnum : log.getLast?.map num = some log.length := by
        rw [← List.getLast?_map, h, List.getLast?_range', if_neg (by omega),
          Nat.add_sub_cancel_left]
      rw [hnum, Nat.max_eq_right (by omega)]
      rfl
  rw [← hlast, ← hemitted]

end NanoCore.Foundation.NumberedLog
