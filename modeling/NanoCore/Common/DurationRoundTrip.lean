import NanoCore.Common.AdditiveDurations
import Mathlib.Algebra.Group.Nat.Defs

namespace NanoCore.Common.DurationRoundTrip

open NanoCore.Foundation.PythonText
open NanoCore.Common.Duration
open NanoCore.Common.AdditiveDurations

variable {n : Nat}

/-- What the text of a duration keeps of it: its two largest parts. -/
def roundedSeconds (n : Nat) : Nat :=
  if 3600 ≤ n ∧ 60 ≤ n % 3600 then n - n % 60 else n

/-- The units of a formatted duration. -/
def formattedUnits : List (String × DurationUnit) :=
  [("hour", .hours), ("minute", .minutes), ("second", .seconds)]

theorem toList_formatUnit (amount : Nat) (unit : String) :
    (formatUnit amount unit).toList =
      Nat.toDigits 10 amount ++ (" ".toList ++
        (unit ++ if amount = 1 then "" else "s").toList) := by
  have hdigits : (toString amount).toList = Nat.toDigits 10 amount := Nat.toList_repr
  rw [formatUnit, String.toList_append, String.toList_append, String.toList_append, hdigits,
    String.toList_append]
  simp only [List.append_assoc]

theorem mem_unitAliases_of_formatted {entry : String × DurationUnit} (h : entry ∈ formattedUnits)
    (amount : Nat) :
    (entry.1 ++ (if amount = 1 then "" else "s"), entry.2) ∈ unitAliases := by
  have hall : (formattedUnits.all fun entry => decide ((entry.1 ++ "", entry.2) ∈ unitAliases) &&
      decide ((entry.1 ++ "s", entry.2) ∈ unitAliases)) = true := by decide
  have hboth := List.all_eq_true.mp hall entry h
  rw [Bool.and_eq_true, decide_eq_true_eq, decide_eq_true_eq] at hboth
  split
  · exact hboth.1
  · exact hboth.2

/-- A formatted amount is a duration in digits. -/
theorem rendersSegment_formatUnit {amount : Nat} {entry : String × DurationUnit}
    (hentry : entry ∈ formattedUnits)
    (hlength : (Nat.toDigits 10 amount).length ≤ maxIntDigits) :
    RendersSegment amount entry.2 (formatUnit amount entry.1).toList := by
  rw [toList_formatUnit]
  exact rendersSegment_toDigits hlength (forall_mem_of_all (by decide))
    (mem_unitAliases_of_formatted hentry amount)

theorem length_toDigits_of_lt {m : Nat} (h : m < 60) :
    (Nat.toDigits 10 m).length ≤ maxIntDigits := by
  have htwo : (Nat.toDigits 10 m).length ≤ 2 :=
    (Nat.length_toDigits_le_iff (by decide) (by decide)).mpr (by omega)
  exact htwo.trans (by decide)

/-- An amount with a formatted unit. -/
abbrev Part := Nat × String × DurationUnit

def part (amount : Nat) (entry : String × DurationUnit) : List Part :=
  if amount ≠ 0 then [(amount, entry)] else []

/-- The parts that a text shows. -/
def shownParts (hours minutes seconds : Nat) : List Part :=
  let parts := part hours ("hour", .hours) ++ part minutes ("minute", .minutes)
  (if seconds ≠ 0 ∨ parts = [] then parts ++ [(seconds, "second", .seconds)] else parts).take 2

def formatPart (p : Part) : String := formatUnit p.1 p.2.1

theorem map_formatPart (amount : Nat) (entry : String × DurationUnit) :
    (part amount entry).map formatPart =
      if amount ≠ 0 then [formatUnit amount entry.1] else [] := by
  rw [part]
  split <;> rfl

theorem humanizeDurationSeconds_eq {n hours minutes seconds : Nat} (hpos : 0 < n)
    (hhours : n / 3600 = hours) (hminutes : n % 3600 / 60 = minutes)
    (hseconds : n % 3600 % 60 = seconds) :
    humanizeDurationSeconds n =
      " and ".intercalate ((shownParts hours minutes seconds).map formatPart) := by
  rw [humanizeDurationSeconds, if_neg (by omega)]
  simp only [Int.toNat_natCast, hhours, hminutes, hseconds, shownParts]
  have hparts : (part hours ("hour", .hours) ++ part minutes ("minute", .minutes)).map formatPart =
      (if hours ≠ 0 then [formatUnit hours "hour"] else []) ++
        if minutes ≠ 0 then [formatUnit minutes "minute"] else [] := by
    rw [List.map_append, map_formatPart, map_formatPart]
  simp only [List.map_take, ← hparts, List.map_eq_nil_iff]
  split
  · simp only [List.map_append, List.map_cons, List.map_nil, formatPart]
  · rw [List.map_append]

theorem renders_intercalate {first : Part} {rest : List Part}
    (h : ∀ p ∈ first :: rest, p.2 ∈ formattedUnits ∧
      (Nat.toDigits 10 p.1).length ≤ maxIntDigits) :
    Renders ((first :: rest).map fun p => (p.1, p.2.2))
      (List.intercalate " and ".toList ((first :: rest).map fun p => (formatPart p).toList)) := by
  induction rest generalizing first with
  | nil =>
      obtain ⟨hentry, hlength⟩ := h first List.mem_cons_self
      simp only [List.map_cons, List.map_nil, List.intercalate_singleton]
      exact .single _ _ _ (rendersSegment_formatUnit hentry hlength)
  | cons second rest ih =>
      rw [List.forall_mem_cons] at h
      have hrest := ih h.2
      simp only [List.map_cons, List.intercalate_cons_cons] at hrest ⊢
      rw [List.append_assoc]
      exact .cons _ _ _ _ _ _ (rendersSegment_formatUnit h.1.1 h.1.2) (by simp [joiners]) hrest

theorem shownParts_ne_nil (hours minutes seconds : Nat) :
    shownParts hours minutes seconds ≠ [] := by
  simp only [shownParts]
  split
  · simp
  · rename_i h
    rw [not_or] at h
    simpa using h.2

theorem mem_shownParts {hours minutes seconds : Nat} {p : Part}
    (h : p ∈ shownParts hours minutes seconds) :
    p = (hours, "hour", .hours) ∨ p = (minutes, "minute", .minutes) ∨
      p = (seconds, "second", .seconds) := by
  have hpart {amount : Nat} {entry : String × DurationUnit} (hp : p ∈ part amount entry) :
      p = (amount, entry) := by
    rw [part] at hp
    split at hp
    · exact List.mem_singleton.mp hp
    · exact absurd hp List.not_mem_nil
  simp only [shownParts] at h
  have hmem := List.mem_of_mem_take h
  split at hmem
  · rw [List.mem_append, List.mem_append, List.mem_singleton] at hmem
    rcases hmem with (hp | hp) | hp
    · exact .inl (hpart hp)
    · exact .inr (.inl (hpart hp))
    · exact .inr (.inr hp)
  · rcases List.mem_append.mp hmem with hp | hp
    · exact .inl (hpart hp)
    · exact .inr (.inl (hpart hp))

/-- The seconds are left out where there are hours and minutes. -/
theorem sumSeconds_shownParts (hours minutes seconds : Nat) :
    sumSeconds ((shownParts hours minutes seconds).map fun p => (p.1, p.2.2)) =
      3600 * hours + 60 * minutes + if 0 < hours ∧ 0 < minutes then 0 else seconds := by
  rcases Nat.eq_zero_or_pos hours with rfl | hhours <;>
    rcases Nat.eq_zero_or_pos minutes with rfl | hminutes <;>
      rcases Nat.eq_zero_or_pos seconds with rfl | hseconds <;>
        simp [shownParts, part, sumSeconds, unitSeconds, Nat.ne_of_gt, *] <;> omega

theorem extractDurationSeconds_shown (u : PyData) {parts : List Part} (hne : parts ≠ [])
    (h : ∀ p ∈ parts, p.2 ∈ formattedUnits ∧ (Nat.toDigits 10 p.1).length ≤ maxIntDigits) :
    extractDurationSeconds u (" and ".intercalate (parts.map formatPart)).toList =
      .ok (some (sumSeconds (parts.map fun p => (p.1, p.2.2)))) := by
  obtain ⟨first, rest, rfl⟩ := List.exists_cons_of_ne_nil hne
  have hrenders := renders_intercalate h
  have htext : (" and ".intercalate ((first :: rest).map formatPart)).toList =
      List.intercalate " and ".toList ((first :: rest).map fun p => (formatPart p).toList) := by
    rw [String.toList_intercalate, List.map_map]
    rfl
  rw [htext]
  have hlower := lower_eq (u := u) (isPlain_of_renders hrenders) (map_toLower_of_renders hrenders)
  obtain ⟨digits, words, hread⟩ :=
    readSegments_of_renders (u := u) hrenders [] [] (.inl ⟨rfl, rfl⟩)
  rw [List.nil_append, ← hlower] at hread
  exact extractDurationSeconds_of_readSegments hread hrenders.ne_nil

/-- The text of a duration has a number of hours that `int` reads. -/
def IsWritable (n : Nat) : Prop := n < 3600 * 10 ^ maxIntDigits

instance : Decidable (IsWritable n) := inferInstanceAs (Decidable (n < _))

theorem length_hours_le_iff :
    (Nat.toDigits 10 (n / 3600)).length ≤ maxIntDigits ↔ IsWritable n := by
  rw [Nat.length_toDigits_le_iff (by decide) (by decide), Nat.div_lt_iff_lt_mul (by decide),
    Nat.mul_comm, IsWritable]

theorem humanizedDuration_of_isWritable (h : IsWritable n) :
    humanizedDuration n = .ok (humanizeDurationSeconds n).toList :=
  if_neg (Nat.not_lt.mpr (length_hours_le_iff.mpr h))

theorem humanizedDuration_of_not_isWritable (h : ¬ IsWritable n) :
    humanizedDuration n = .error .valueError :=
  if_pos (Nat.lt_of_not_le fun hle => h (length_hours_le_iff.mp hle))

theorem extractDurationSeconds_humanizeDurationSeconds (u : PyData) (hpos : 0 < n)
    (h : IsWritable n) :
    extractDurationSeconds u (humanizeDurationSeconds n).toList =
      .ok (some (roundedSeconds n)) := by
  rw [humanizeDurationSeconds_eq hpos rfl rfl rfl,
    extractDurationSeconds_shown u (shownParts_ne_nil _ _ _) ?_, sumSeconds_shownParts]
  · rw [roundedSeconds]
    congr 2
    have hparts := Nat.div_add_mod n 3600
    have hrest := Nat.div_add_mod (n % 3600) 60
    have hmod : n % 3600 % 60 = n % 60 := Nat.mod_mod_of_dvd n (by decide)
    split_ifs <;> omega
  · intro p hp
    rcases mem_shownParts hp with rfl | rfl | rfl
    · exact ⟨by simp [formattedUnits], length_hours_le_iff.mpr h⟩
    · exact ⟨by simp [formattedUnits], length_toDigits_of_lt (by omega)⟩
    · exact ⟨by simp [formattedUnits], length_toDigits_of_lt (by omega)⟩

/-- The text of a duration is read as the duration without its seconds where it
shows hours and minutes. -/
theorem extractDurationSeconds_humanizedDuration (u : PyData) (n : Nat) (hpos : 1 ≤ n) :
    (do extractDurationSeconds u (← humanizedDuration n)) =
      if IsWritable n then .ok (some (roundedSeconds n)) else .error .valueError := by
  split
  · rename_i h
    rw [humanizedDuration_of_isWritable h]
    exact extractDurationSeconds_humanizeDurationSeconds u hpos h
  · rename_i h
    rw [humanizedDuration_of_not_isWritable h]
    rfl

/-- The seconds of an hour and ten minutes are dropped. -/
theorem extractDurationSeconds_humanizedDuration_hour :
    (do extractDurationSeconds .ascii (← humanizedDuration 4205)) = .ok (some 4200) := by
  have h := extractDurationSeconds_humanizedDuration .ascii 4205 (by decide)
  have hwritable : IsWritable 4205 :=
    Nat.lt_of_lt_of_le (by decide) (Nat.mul_le_mul (Nat.le_refl 3600)
      (Nat.pow_le_pow_right (by decide) (show 1 ≤ maxIntDigits by decide)))
  rwa [if_pos hwritable] at h

/-- An amount of hours in more digits than `str` writes has no text. -/
theorem not_extractDurationSeconds_humanizedDuration :
    ¬ ∀ n : Nat, 1 ≤ n → (do extractDurationSeconds .ascii (← humanizedDuration n)) =
      .ok (some (roundedSeconds n)) := by
  intro h
  have hpos : 1 ≤ 3600 * 10 ^ maxIntDigits :=
    Nat.mul_pos (by decide) (Nat.pow_pos (by decide))
  have hfound := h (3600 * 10 ^ maxIntDigits) hpos
  rw [humanizedDuration_of_not_isWritable (Nat.lt_irrefl _)] at hfound
  cases hfound

end NanoCore.Common.DurationRoundTrip
