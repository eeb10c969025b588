import Mathlib.Tactic.IntervalCases
import NanoCore.Foundation.PythonIsoparse

namespace NanoCore.Foundation.IsoformatRoundTrip

open NanoCore.Foundation.PythonText
open NanoCore.Foundation.PythonDatetime
open NanoCore.Foundation.PythonIsoformat
open NanoCore.Foundation.PythonIsoparse

/-- The year, counted from March, of a day of an era of 400 years. -/
def yearOfEra (dayOfEra : Nat) : Nat :=
  (dayOfEra - dayOfEra / 1460 + dayOfEra / 36524 - dayOfEra / 146096) / 365

def firstDayOfYear (yearOfEra : Nat) : Nat := 365 * yearOfEra + yearOfEra / 4 - yearOfEra / 100

/-- The day lies in the year, and only a leap year has a day 366. -/
structure IsYearOf (dayOfEra year : Nat) : Prop where
  lt : year < 400
  firstDay_le : firstDayOfYear year ≤ dayOfEra
  le_lastDay : dayOfEra ≤ firstDayOfYear year + 365
  leap : dayOfEra = firstDayOfYear year + 365 →
    (year + 1) % 4 = 0 ∧ ((year + 1) % 100 ≠ 0 ∨ year + 1 = 400)

/-- A day in the centuries, in the cycles of four years and in the last cycle. -/
theorem yearOfEra_eq {c q s : Nat} (hc : c ≤ 3) (hq : q ≤ 24) (hs : s ≤ 1460)
    (hlast : q = 24 → s ≤ 1459) :
    yearOfEra (36524 * c + (1461 * q + s)) = 100 * c + (4 * q + min 3 (s / 365)) := by
  have hcentury : (36524 * c + (1461 * q + s)) / 36524 = c := by omega
  have hera : (36524 * c + (1461 * q + s)) / 146096 = 0 := by omega
  have hcycle : (36524 * c + (1461 * q + s)) / 1460 = 25 * c + q + (24 * c + q + s) / 1460 := by
    omega
  have hcarry : (24 * c + q + s) / 1460 = if 1460 ≤ 24 * c + q + s then 1 else 0 := by
    split <;> omega
  rw [yearOfEra, hcentury, hera, hcycle, hcarry]
  split <;> omega

theorem firstDayOfYear_eq {c q t : Nat} (hq : q ≤ 24) (ht : t ≤ 3) :
    firstDayOfYear (100 * c + (4 * q + t)) = 36524 * c + (1461 * q + 365 * t) := by
  have hfour : (100 * c + (4 * q + t)) / 4 = 25 * c + q := by omega
  have hhundred : (100 * c + (4 * q + t)) / 100 = c := by omega
  rw [firstDayOfYear, hfour, hhundred]
  omega

theorem isYearOf_yearOfEra {dayOfEra : Nat} (h : dayOfEra < 146097) :
    IsYearOf dayOfEra (yearOfEra dayOfEra) := by
  by_cases hlast : dayOfEra = 146096
  · subst hlast
    constructor <;> decide
  · have hday : dayOfEra = 36524 * (dayOfEra / 36524) +
        (1461 * (dayOfEra % 36524 / 1461) + dayOfEra % 36524 % 1461) := by omega
    have hs : dayOfEra % 36524 / 1461 = 24 → dayOfEra % 36524 % 1461 ≤ 1459 := by omega
    have hc3 : dayOfEra / 36524 ≤ 3 := by omega
    have hq24 : dayOfEra % 36524 / 1461 ≤ 24 := by omega
    have hs1460 : dayOfEra % 36524 % 1461 ≤ 1460 := by omega
    have hyear := yearOfEra_eq hc3 hq24 hs1460 hs
    rw [← hday] at hyear
    generalize dayOfEra / 36524 = c at hday hyear hc3
    generalize dayOfEra % 36524 / 1461 = q at hday hyear hs hq24
    generalize dayOfEra % 36524 % 1461 = s at hday hyear hs hs1460
    have hfirst := firstDayOfYear_eq (c := c) hq24 (min_le_left 3 (s / 365))
    rw [← hyear] at hfirst
    generalize ht : min 3 (s / 365) = t at hyear hfirst
    have hyear4 : (yearOfEra dayOfEra + 1) % 4 = (t + 1) % 4 := by omega
    have hyear100 : (yearOfEra dayOfEra + 1) % 100 = (4 * q + t + 1) % 100 := by omega
    refine ⟨by omega, by omega, by omega, fun heq => ?_⟩
    rw [hyear4, hyear100]
    omega

/-- The month, counted from March, of a day of the year. -/
def marchMonth (dayOfYear : Nat) : Nat := (5 * dayOfYear + 2) / 153

def dayOfMonth (dayOfYear : Nat) : Nat := dayOfYear - (153 * marchMonth dayOfYear + 2) / 5 + 1

def monthOf (marchMonth : Nat) : Nat :=
  if marchMonth < 10 then marchMonth + 3 else marchMonth - 9

theorem civilOfDays_eq {days era : Int} {dayOfEra : Nat}
    (hdays : days + 719468 = era * 146097 + dayOfEra) (h : dayOfEra < 146097) :
    civilOfDays days =
      (era * 400 + yearOfEra dayOfEra +
          (if monthOf (marchMonth (dayOfEra - firstDayOfYear (yearOfEra dayOfEra))) ≤ 2 then 1
            else 0),
        monthOf (marchMonth (dayOfEra - firstDayOfYear (yearOfEra dayOfEra))),
        dayOfMonth (dayOfEra - firstDayOfYear (yearOfEra dayOfEra))) := by
  have hera : (days + 719468) / 146097 = era := by omega
  have hdayOfEra : ((days + 719468) % 146097).toNat = dayOfEra := by omega
  show (((days + 719468) / 146097) * 400 +
      yearOfEra ((days + 719468) % 146097).toNat + _, _, _) = _
  rw [hera, hdayOfEra]
  rfl

variable {dayOfYear : Nat}

theorem marchMonth_le (h : dayOfYear ≤ 365) : marchMonth dayOfYear ≤ 11 := by
  rw [marchMonth]
  omega

theorem monthOf_le_two_iff (m : Nat) (hm : m ≤ 11) : monthOf m ≤ 2 ↔ 10 ≤ m := by
  rw [monthOf]
  split <;> omega

theorem firstDay_of_marchMonth_le (dayOfYear : Nat) :
    (153 * marchMonth dayOfYear + 2) / 5 ≤ dayOfYear := by
  rw [marchMonth]
  omega

theorem dayOfMonth_le_daysInMonth {year : Nat} (h : dayOfYear ≤ 365)
    (hleap : dayOfYear = 365 → isLeap year = true) :
    dayOfMonth dayOfYear ≤ daysInMonth year (monthOf (marchMonth dayOfYear)) := by
  have hmonth := marchMonth_le h
  have hlow : 153 * marchMonth dayOfYear ≤ 5 * dayOfYear + 2 := by
    rw [marchMonth]
    omega
  have hhigh : 5 * dayOfYear + 2 < 153 * (marchMonth dayOfYear + 1) := by
    rw [marchMonth]
    omega
  rw [dayOfMonth]
  generalize marchMonth dayOfYear = m at *
  by_cases hm : m = 11
  · subst hm
    show _ ≤ if isLeap year = true then 29 else 28
    split
    · omega
    · rename_i hcommon
      have hne : dayOfYear ≠ 365 := fun h => hcommon (hleap h)
      omega
  · interval_cases m <;> simp [daysInMonth, monthOf] <;> omega

theorem daysOfCivil_eq {year : Nat} {era : Int} {yearOfEra : Nat} (hyearOfEra : yearOfEra < 400)
    (h : dayOfYear ≤ 365)
    (hyear : (year : Int) = era * 400 + yearOfEra +
      if monthOf (marchMonth dayOfYear) ≤ 2 then 1 else 0) :
    daysOfCivil year (monthOf (marchMonth dayOfYear)) (dayOfMonth dayOfYear) =
      era * 146097 + (firstDayOfYear yearOfEra + dayOfYear : Nat) - 719468 := by
  have hmonth := marchMonth_le h
  have hfirst := firstDay_of_marchMonth_le dayOfYear
  have hmarchYear : (if monthOf (marchMonth dayOfYear) ≤ 2 then (year : Int) - 1 else year) =
      era * 400 + yearOfEra := by
    split <;> simp_all
  have hmarchMonth : (if monthOf (marchMonth dayOfYear) ≤ 2 then
      monthOf (marchMonth dayOfYear) + 9 else monthOf (marchMonth dayOfYear) - 3) =
      marchMonth dayOfYear := by
    rw [monthOf]
    split <;> split <;> omega
  have hmod : ((era * 400 + yearOfEra) % 400).toNat = yearOfEra := by omega
  have hdiv : (era * 400 + yearOfEra) / 400 = era := by omega
  simp only [daysOfCivil, hmarchYear, hmarchMonth, hmod, hdiv, dayOfMonth, firstDayOfYear]
  omega

/-- The days of `datetime.min` and `datetime.max`. -/
def minDay : Int := -719162

def maxDay : Int := 2932896

theorem isLeap_of_lastDay {year yearOfEra : Nat} {era : Int}
    (hyear : (year : Int) = era * 400 + yearOfEra + 1)
    (hleap : (yearOfEra + 1) % 4 = 0 ∧ ((yearOfEra + 1) % 100 ≠ 0 ∨ yearOfEra + 1 = 400)) :
    isLeap year = true := by
  simp only [isLeap, Bool.and_eq_true, Bool.or_eq_true, decide_eq_true_eq]
  omega

/-- Every day that a datetime may have is the day of its date. -/
theorem dateOfCivil_civilOfDays {days : Int} (h : minDay ≤ days ∧ days ≤ maxDay) :
    dateOfCivil (civilOfDays days).1.toNat (civilOfDays days).2.1 (civilOfDays days).2.2 =
        some days ∧
      1 ≤ (civilOfDays days).1 ∧ (civilOfDays days).1 ≤ 9999 := by
  unfold minDay maxDay at h
  obtain ⟨era, dayOfEra, hdays, hlt, hera⟩ : ∃ (era : Int) (dayOfEra : Nat),
      days + 719468 = era * 146097 + dayOfEra ∧ dayOfEra < 146097 ∧ 0 ≤ era :=
    ⟨(days + 719468) / 146097, ((days + 719468) % 146097).toNat, by omega, by omega, by omega⟩
  rw [civilOfDays_eq hdays hlt]
  have hyearOf := isYearOf_yearOfEra hlt
  generalize yearOfEra dayOfEra = yearOfEra at hyearOf ⊢
  obtain ⟨hyear400, hfirst, hlast, hleap⟩ := hyearOf
  obtain ⟨dayOfYear, hdayOfYear⟩ : ∃ dayOfYear, dayOfEra = firstDayOfYear yearOfEra + dayOfYear :=
    ⟨dayOfEra - firstDayOfYear yearOfEra, by omega⟩
  have hsub : dayOfEra - firstDayOfYear yearOfEra = dayOfYear := by omega
  have h365 : dayOfYear ≤ 365 := by omega
  have hmarch := marchMonth_le h365
  have hjanuary := monthOf_le_two_iff (marchMonth dayOfYear) hmarch
  have hmonth : 10 ≤ marchMonth dayOfYear ↔ 306 ≤ dayOfYear := by
    rw [marchMonth]
    omega
  have hmonthRange : 1 ≤ monthOf (marchMonth dayOfYear) ∧
      monthOf (marchMonth dayOfYear) ≤ 12 := by
    rw [monthOf]
    split <;> omega
  rw [hsub]
  obtain ⟨year, hyear⟩ : ∃ year : Nat, (year : Int) = era * 400 + yearOfEra +
      if monthOf (marchMonth dayOfYear) ≤ 2 then 1 else 0 :=
    ⟨(era * 400 + yearOfEra + if monthOf (marchMonth dayOfYear) ≤ 2 then 1 else 0).toNat, by
      split <;> omega⟩
  have hbounds : 1 ≤ year ∧ year ≤ 9999 := by
    unfold firstDayOfYear at *
    split at hyear <;> omega
  have hleapYear : dayOfYear = 365 → isLeap year = true := by
    intro heq
    rw [if_pos (by omega)] at hyear
    exact isLeap_of_lastDay hyear (hleap (by omega))
  have hday := dayOfMonth_le_daysInMonth h365 hleapYear
  have hcivil := daysOfCivil_eq hyear400 h365 hyear
  rw [← hyear]
  refine ⟨?_, by omega, by omega⟩
  have hpos : 1 ≤ dayOfMonth dayOfYear := Nat.le_add_left 1 _
  rw [Int.toNat_natCast, dateOfCivil,
    if_pos ⟨hbounds.1, hmonthRange.1, hmonthRange.2, hpos, hday⟩, hcivil]
  congr 1
  omega

theorem padded_eq (width n : Nat) :
    padded width n =
      List.replicate (width - (Nat.toDigits 10 n).length) '0' ++ Nat.toDigits 10 n := by
  have hdigits : (toString n).toList = Nat.toDigits 10 n := Nat.toList_repr
  rw [padded, hdigits]

theorem length_padded {width n : Nat} (hwidth : 0 < width) (h : n < 10 ^ width) :
    (padded width n).length = width := by
  have hlength := (Nat.length_toDigits_le_iff (by decide) hwidth).mpr h
  rw [padded_eq, List.length_append, List.length_replicate]
  omega

theorem isDigit_of_mem_padded {width n : Nat} {c : Char} (hc : c ∈ padded width n) :
    c.isDigit = true := by
  rw [padded_eq, List.mem_append] at hc
  rcases hc with hzero | hdigit
  · rw [List.eq_of_mem_replicate hzero]
    rfl
  · exact Nat.isDigit_of_mem_toDigits (by decide) (by decide) hdigit

theorem ofDigitChars_padded (width n : Nat) : Nat.ofDigitChars 10 (padded width n) 0 = n := by
  rw [padded_eq, Nat.ofDigitChars_append, Nat.ofDigitChars_replicate_zero, Nat.mul_zero,
    Nat.ofDigitChars_ten_toDigits]

theorem parseDigits_padded {width n : Nat} (hwidth : 0 < width) (h : n < 10 ^ width)
    (rest : Text) : parseDigits width (padded width n ++ rest) = some (n, rest) := by
  have hlength := length_padded hwidth h
  have htake : (padded width n ++ rest).take width = padded width n :=
    List.take_left' hlength
  have hvalue : (padded width n).foldl (fun n c => 10 * n + (c.toNat - 48)) 0 = n :=
    Nat.ofDigitChars_eq_foldl.symm.trans (ofDigitChars_padded width n)
  rw [parseDigits, htake, if_pos ⟨hlength, List.all_eq_true.mpr fun c => isDigit_of_mem_padded⟩,
    hvalue, List.drop_left' hlength]

theorem parseSeparator_cons (c : Char) (rest : Text) :
    parseSeparator [c] (c :: rest) = some rest := by
  rw [parseSeparator, if_pos (by simp [List.isPrefixOf])]
  rfl

theorem parseDigits_two {n : Nat} (h : n < 100) (rest : Text) :
    parseDigits 2 (padded 2 n ++ rest) = some (n, rest) := parseDigits_padded (by decide) h rest

theorem parseDigits_two_end {n : Nat} (h : n < 100) :
    parseDigits 2 (padded 2 n) = some (n, []) := by
  rw [← parseDigits_two h [], List.append_nil]

variable {hour minute second microsecond : Nat}

theorem parseClock_minute (hhour : hour < 100) (hminute : minute < 100) :
    parseClock (padded 2 hour ++ ':' :: padded 2 minute) = some { hour, minute } := by
  simp [parseClock, parseDigits_two hhour, parseSeparator_cons, parseDigits_two_end hminute]

theorem parseClock_second (hhour : hour < 100) (hminute : minute < 100) (hsecond : second < 100) :
    parseClock (padded 2 hour ++ ':' :: (padded 2 minute ++ ':' :: padded 2 second)) =
      some { hour, minute, second } := by
  simp [parseClock, parseDigits_two hhour, parseSeparator_cons, parseDigits_two hminute,
    parseDigits_two_end hsecond]

theorem parseFraction_padded (h : microsecond < 1000000) :
    parseFraction ('.' :: padded 6 microsecond) = some microsecond := by
  have hlength : (padded 6 microsecond).length = 6 := length_padded (by decide) h
  have hread : parseDigits 6 (padded 6 microsecond ++ []) = some (microsecond, []) :=
    parseDigits_padded (by decide) h []
  obtain ⟨d, digits, hcons⟩ := List.exists_cons_of_ne_nil
    (List.ne_nil_of_length_pos (by rw [hlength]; decide) : padded 6 microsecond ≠ [])
  have hall : (padded 6 microsecond).all Char.isDigit = true :=
    List.all_eq_true.mpr fun c => isDigit_of_mem_padded
  rw [List.append_nil] at hread
  rw [hcons] at hlength hread hall ⊢
  have hsix : (d :: digits).take 6 = d :: digits := List.take_of_length_le hlength.le
  rw [parseFraction, if_pos ⟨.inl rfl, hall⟩]
  simp only [hsix, hlength, Nat.sub_self, List.replicate_zero, List.append_nil, hread,
    Option.map_some]

theorem parseClock_microsecond (hhour : hour < 100) (hminute : minute < 100)
    (hsecond : second < 100) (hmicrosecond : microsecond < 1000000) :
    parseClock (padded 2 hour ++ ':' :: (padded 2 minute ++ ':' :: (padded 2 second ++
      '.' :: padded 6 microsecond))) = some { hour, minute, second, microsecond } := by
  simp [parseClock, parseDigits_two hhour, parseSeparator_cons, parseDigits_two hminute,
    parseDigits_two hsecond, parseFraction_padded hmicrosecond]

/-- The fields of a number of microseconds after midnight. -/
def clockOf (micros : Nat) : ClockFields where
  hour := micros / 1000000 / 3600
  minute := micros / 1000000 / 60 % 60
  second := micros / 1000000 % 60
  microsecond := micros % 1000000

theorem microsOfClock_clockOf (micros : Nat) : microsOfClock (clockOf micros) = micros := by
  simp only [microsOfClock, clockOf, PythonDatetime.second]
  omega

theorem parseClock_formatTimeOfDay {micros : Nat} (h : micros < 86400000000) :
    parseClock (formatTimeOfDay micros) = some (clockOf micros) := by
  have hhour : micros / 1000000 / 3600 < 100 := by omega
  have hminute : micros / 1000000 / 60 % 60 < 100 := by omega
  have hsecond : micros / 1000000 % 60 < 100 := by omega
  unfold formatTimeOfDay
  simp only [List.append_assoc, List.cons_append, List.nil_append]
  split
  · rename_i hwhole
    rw [List.append_nil, parseClock_second hhour hminute hsecond, clockOf, hwhole]
  · rw [parseClock_microsecond hhour hminute hsecond (by omega), clockOf]

/-- What stands behind the sign of an offset. -/
theorem exists_formatOffset {offset : Int} (h : offset.natAbs < 86400000000) :
    ∃ clock, formatOffset offset = (if offset < 0 then '-' else '+') :: clock ∧
      parseClock clock = some (clockOf offset.natAbs) := by
  have hhour : offset.natAbs / 1000000 / 3600 < 100 := by omega
  have hminute : offset.natAbs / 1000000 / 60 % 60 < 100 := by omega
  have hsecond : offset.natAbs / 1000000 % 60 < 100 := by omega
  unfold formatOffset
  simp only [List.append_assoc, List.cons_append, List.nil_append]
  refine ⟨_, rfl, ?_⟩
  split
  · rename_i hwhole
    have hzero : offset.natAbs / 1000000 % 60 = 0 ∧ offset.natAbs % 1000000 = 0 := by omega
    rw [List.append_nil, parseClock_minute hhour hminute, clockOf, hzero.1, hzero.2]
  · split
    · rename_i hwhole
      rw [List.append_nil, parseClock_second hhour hminute hsecond, clockOf, hwhole]
    · rw [parseClock_microsecond hhour hminute hsecond (by omega), clockOf]

theorem microsPerDay_eq : microsPerDay = 86400000000 := by decide

theorem parseZone_cons {sign : Char} {clock : Text} {fields : ClockFields} (hsign : sign ≠ 'Z')
    (hread : parseClock clock = some fields) (hbound : microsOfClock fields < microsPerDay) :
    parseZone (sign :: clock) =
      some (some (if sign = '-' then -microsOfClock fields else microsOfClock fields)) := by
  rw [parseZone, if_neg hsign, hread, Option.bind_eq_bind, Option.bind_some]
  exact if_pos hbound

theorem parseZone_formatOffset {offset : Int} (h : offset.natAbs < 86400000000) :
    parseZone (formatOffset offset) = some (some offset) := by
  obtain ⟨clock, hformat, hread⟩ := exists_formatOffset h
  have hbound : microsOfClock (clockOf offset.natAbs) < microsPerDay := by
    rw [microsOfClock_clockOf, microsPerDay_eq]
    omega
  rw [hformat]
  by_cases hneg : offset < 0
  · have hvalue : -(offset.natAbs : Int) = offset := by omega
    rw [if_pos hneg, parseZone_cons (by decide) hread hbound, microsOfClock_clockOf, if_pos rfl,
      hvalue]
  · have hvalue : (offset.natAbs : Int) = offset := by omega
    rw [if_neg hneg, parseZone_cons (by decide) hread hbound, microsOfClock_clockOf,
      if_neg (by decide), hvalue]

theorem isZoneStart_of_mem_formatTimeOfDay {micros : Nat} {c : Char}
    (hc : c ∈ formatTimeOfDay micros) : isZoneStart c = false := by
  have hdigit {d : Char} (hd : d.isDigit = true) : isZoneStart d = false := by
    simp only [isZoneStart, Bool.or_eq_false_iff, beq_eq_false_iff_ne]
    refine ⟨⟨?_, ?_⟩, ?_⟩ <;> rintro rfl <;> cases hd
  have hpadded {width n : Nat} {d : Char} (hd : d ∈ padded width n) : isZoneStart d = false :=
    hdigit (isDigit_of_mem_padded hd)
  unfold formatTimeOfDay at hc
  simp only [List.append_assoc, List.mem_append, List.mem_singleton] at hc
  rcases hc with h | rfl | h | rfl | h | h
  · exact hpadded h
  · rfl
  · exact hpadded h
  · rfl
  · exact hpadded h
  · split at h
    · cases h
    · rcases List.mem_cons.mp h with rfl | h
      · rfl
      · exact hpadded h

/-- The offset of a time behind its clock. -/
def zoneText (utcoffset : Option Int) : Text := (utcoffset.map formatOffset).getD []

theorem parseZone_zoneText {utcoffset : Option Int}
    (h : ∀ offset ∈ utcoffset, offset.natAbs < 86400000000) :
    parseZone (zoneText utcoffset) = some utcoffset := by
  cases utcoffset with
  | none => rfl
  | some offset => exact parseZone_formatOffset (h offset rfl)

theorem zoneText_head (utcoffset : Option Int) :
    ∀ c ∈ (zoneText utcoffset).head?, isZoneStart c = true := by
  cases utcoffset with
  | none => nofun
  | some offset =>
      show ∀ c ∈ some (if offset < 0 then '-' else '+'), isZoneStart c = true
      intro c hc
      cases hc
      split <;> rfl

theorem span_append {p : Char → Bool} {front back : Text} (hfront : ∀ c ∈ front, p c = true)
    (hback : ∀ c ∈ back.head?, p c = false) : (front ++ back).span p = (front, back) := by
  rw [List.span_eq_takeWhile_dropWhile, List.takeWhile_append_of_pos hfront,
    List.dropWhile_append_of_pos hfront]
  cases back with
  | nil => rw [List.takeWhile_nil, List.dropWhile_nil, List.append_nil]
  | cons c back =>
      rw [List.takeWhile_cons, List.dropWhile_cons, hback c rfl, if_neg Bool.false_ne_true,
        if_neg Bool.false_ne_true, List.append_nil]

theorem parseTime_formatTimeOfDay {micros : Nat} {utcoffset : Option Int}
    (h : micros < 86400000000) (hoffset : ∀ offset ∈ utcoffset, offset.natAbs < 86400000000) :
    parseTime (formatTimeOfDay micros ++ zoneText utcoffset) =
      some ((micros : Int), utcoffset) := by
  have hspan : (formatTimeOfDay micros ++ zoneText utcoffset).span (fun c => !isZoneStart c) =
      (formatTimeOfDay micros, zoneText utcoffset) := by
    apply span_append
    · intro c hc
      rw [isZoneStart_of_mem_formatTimeOfDay hc]
      rfl
    · intro c hc
      rw [zoneText_head utcoffset c hc]
      rfl
  have hclock := parseClock_formatTimeOfDay h
  have hzone := parseZone_zoneText hoffset
  have hfields : (clockOf micros).hour < 24 ∧ (clockOf micros).minute < 60 ∧
      (clockOf micros).second < 60 := by
    simp only [clockOf]
    omega
  unfold parseTime
  rw [hspan]
  simp only [hclock, Option.bind_eq_bind, Option.bind_some]
  rw [if_pos hfields, hzone, microsOfClock_clockOf]
  rfl

variable {year month day : Nat}

def dateText (year month day : Nat) : Text :=
  padded 4 year ++ ['-'] ++ padded 2 month ++ ['-'] ++ padded 2 day

theorem length_dateText (hyear : year < 10000) (hmonth : month < 100) (hday : day < 100) :
    (dateText year month day).length = 10 := by
  have h4 : (padded 4 year).length = 4 := length_padded (by decide) hyear
  have hmonth2 : (padded 2 month).length = 2 := length_padded (by decide) hmonth
  have hday2 : (padded 2 day).length = 2 := length_padded (by decide) hday
  simp only [dateText, List.length_append, h4, hmonth2, hday2, List.length_singleton]

/-- The month begins with a digit. -/
theorem exists_padded_two (n : Nat) (hn : n < 100) : ∃ c d, padded 2 n = [c, d] ∧ c ≠ 'W' := by
  have hlength : (padded 2 n).length = 2 := length_padded (by decide) hn
  obtain ⟨c, d, hcd⟩ := List.length_eq_two.mp hlength
  refine ⟨c, d, hcd, ?_⟩
  rintro rfl
  have hdigit : Char.isDigit 'W' = true := isDigit_of_mem_padded (by
    rw [hcd]
    exact List.mem_cons_self)
  cases hdigit

theorem parseDate_dateText (hyear : year < 10000) (hmonth : month < 100) (hday : day < 100) :
    parseDate (dateText year month day) = dateOfCivil year month day := by
  have hyear4 (rest : Text) : parseDigits 4 (padded 4 year ++ rest) = some (year, rest) :=
    parseDigits_padded (by decide) hyear rest
  obtain ⟨c, d, hcd, hW⟩ := exists_padded_two month hmonth
  have hmonth2 (rest : Text) : parseDigits 2 (c :: d :: rest) = some (month, rest) := by
    have hread := parseDigits_two hmonth rest
    rwa [hcd] at hread
  rw [dateText, hcd]
  simp only [List.append_assoc, List.cons_append, List.nil_append, parseDate, hyear4,
    Option.bind_eq_bind, Option.bind_some, List.head?_cons, if_true, List.length_singleton,
    List.drop_succ_cons, List.drop_zero]
  split
  · rename_i rest heq
    exact absurd (List.cons.inj heq).1 hW
  · rw [hmonth2, Option.bind_some, parseSeparator_cons, Option.bind_some, parseDigits_two_end hday,
      Option.bind_some]
    rfl

theorem separatorLocation_dateText (hyear : year < 10000) (hmonth : month < 100)
    (hday : day < 100) (c : Char) (rest : Text) :
    separatorLocation (dateText year month day ++ c :: rest) = 10 := by
  have hlength : (dateText year month day ++ c :: rest).length ≠ 7 := by
    rw [List.length_append, length_dateText hyear hmonth hday]
    omega
  have h4 : (padded 4 year).length = 4 := length_padded (by decide) hyear
  obtain ⟨e, d, hed, hW⟩ := exists_padded_two month hmonth
  have hhyphen : (dateText year month day ++ c :: rest)[4]? = some '-' := by
    simp only [dateText, List.append_assoc]
    rw [List.getElem?_append_right h4.le, h4]
    rfl
  have hdigit : (dateText year month day ++ c :: rest)[5]? = some e := by
    simp only [dateText, hed, List.append_assoc]
    rw [List.getElem?_append_right (by omega), h4]
    rfl
  have hweek : ¬ some e = some 'W' := fun h => hW (Option.some.inj h)
  rw [separatorLocation, if_neg hlength, hhyphen, if_pos rfl, hdigit, if_neg hweek]

theorem isoformat_eq (d : Datetime) :
    isoformat d = dateText (civilOfDays (d.wall / microsPerDay)).1.toNat
        (civilOfDays (d.wall / microsPerDay)).2.1 (civilOfDays (d.wall / microsPerDay)).2.2 ++
      'T' :: (formatTimeOfDay (d.wall % microsPerDay).toNat ++ zoneText d.utcoffset) := by
  rw [isoformat, dateText, zoneText]
  simp only [List.append_assoc, List.cons_append, List.nil_append]

/-- A datetime that Python can hold: its offset is shorter than a day. -/
structure IsRepresentable (d : Datetime) : Prop where
  minWall_le : minWall ≤ d.wall
  le_maxWall : d.wall ≤ maxWall
  offset_lt : ∀ offset ∈ d.utcoffset, offset.natAbs < 86400000000

/-- What `isoformat` writes, `fromisoformat` reads back. -/
theorem fromisoformat_isoformat {d : Datetime} (h : IsRepresentable d) :
    fromisoformat (isoformat d) = .ok d := by
  obtain ⟨hmin, hmax, hoffset⟩ := h
  have hdays : minDay ≤ d.wall / microsPerDay ∧ d.wall / microsPerDay ≤ maxDay := by
    rw [microsPerDay_eq, minDay, maxDay]
    unfold minWall maxWall PythonDatetime.second at *
    omega
  obtain ⟨hdate, hyear, hyear'⟩ := dateOfCivil_civilOfDays hdays
  have hmonthDay : (civilOfDays (d.wall / microsPerDay)).2.1 < 100 ∧
      (civilOfDays (d.wall / microsPerDay)).2.2 < 100 := by
    unfold dateOfCivil at hdate
    split at hdate
    · rename_i hvalid
      have hlength : daysInMonth (civilOfDays (d.wall / microsPerDay)).1.toNat
          (civilOfDays (d.wall / microsPerDay)).2.1 ≤ 31 := by
        unfold daysInMonth
        split_ifs <;> decide
      omega
    · cases hdate
  have htime : (d.wall % microsPerDay).toNat < 86400000000 := by
    rw [microsPerDay_eq]
    omega
  have hwall : d.wall / microsPerDay * microsPerDay + (d.wall % microsPerDay).toNat = d.wall := by
    rw [microsPerDay_eq]
    omega
  have hlength := length_dateText (by omega : (civilOfDays (d.wall / microsPerDay)).1.toNat < 10000)
    hmonthDay.1 hmonthDay.2
  have hread := parseTime_formatTimeOfDay htime hoffset
  rw [isoformat_eq, fromisoformat, parseDatetime, separatorLocation_dateText (by omega)
    hmonthDay.1 hmonthDay.2, List.take_left' hlength, List.drop_left' hlength,
    parseDate_dateText (by omega) hmonthDay.1 hmonthDay.2, hdate]
  simp only [Option.bind_eq_bind, Option.bind_some, hread, hwall]
  rw [if_pos ⟨hmin, hmax⟩]
  rfl

theorem natAbs_lt_of_parseZone {zone : Text} {offset : Int}
    (h : parseZone zone = some (some offset)) : offset.natAbs < 86400000000 := by
  match zone with
  | [] => cases h
  | sign :: clock =>
      rw [parseZone] at h
      split at h
      · split at h
        · cases h
          decide
        · cases h
      · rw [Option.bind_eq_bind, Option.bind_eq_some_iff] at h
        obtain ⟨fields, -, h⟩ := h
        have hnonneg : 0 ≤ microsOfClock fields := by
          unfold microsOfClock PythonDatetime.second
          omega
        have hsigned : microsOfClock fields < 86400000000 ∧
            offset = if sign = '-' then -microsOfClock fields else microsOfClock fields := by
          rw [← microsPerDay_eq]
          dsimp only at h
          split at h
          · rename_i hlt
            exact ⟨hlt, (Option.some.inj (Option.some.inj h)).symm⟩
          · cases h
        obtain ⟨hlt, rfl⟩ := hsigned
        split <;> omega

theorem exists_parseZone_of_parseTime {s : Text} {time : Int} {utcoffset : Option Int}
    (h : parseTime s = some (time, utcoffset)) : ∃ zone, parseZone zone = some utcoffset := by
  unfold parseTime at h
  simp only [Option.bind_eq_bind, Option.bind_eq_some_iff] at h
  obtain ⟨fields, -, h⟩ := h
  split at h
  · obtain ⟨zone, hzone, h⟩ := Option.bind_eq_some_iff.mp h
    cases h
    exact ⟨_, hzone⟩
  · cases h

theorem isRepresentable_of_wall {wall : Int} {utcoffset : Option Int} {d : Datetime}
    (h : (if minWall ≤ wall ∧ wall ≤ maxWall then pure ⟨wall, utcoffset⟩ else none) = some d)
    (hoffset : ∀ offset ∈ utcoffset, offset.natAbs < 86400000000) : IsRepresentable d := by
  split at h
  · rename_i hrange
    cases h
    exact ⟨hrange.1, hrange.2, hoffset⟩
  · cases h

/-- What `fromisoformat` reads, `isoformat` can write. -/
theorem isRepresentable_of_fromisoformat {text : Text} {d : Datetime}
    (h : fromisoformat text = .ok d) : IsRepresentable d := by
  unfold fromisoformat at h
  split at h
  · rename_i parsed hparsed
    cases h
    unfold parseDatetime at hparsed
    obtain ⟨days, -, hparsed⟩ := Option.bind_eq_some_iff.mp hparsed
    split at hparsed
    · exact isRepresentable_of_wall hparsed nofun
    · obtain ⟨⟨time, utcoffset⟩, htime, hwall⟩ := Option.bind_eq_some_iff.mp hparsed
      refine isRepresentable_of_wall hwall fun offset hoffset => ?_
      obtain ⟨zone, hzone⟩ := exists_parseZone_of_parseTime htime
      cases hoffset
      exact natAbs_lt_of_parseZone hzone
  · cases h

end NanoCore.Foundation.IsoformatRoundTrip
