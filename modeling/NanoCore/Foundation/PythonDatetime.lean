import NanoCore.Foundation.PythonText

/-!
Python's `datetime`, in microseconds since 1970-01-01T00:00:00.  A datetime is a
reading of a wall clock with the UTC offset of that clock, when it is known; an
SQLite `DateTime` column keeps the reading alone.
-/

namespace NanoCore.Foundation.PythonDatetime

open NanoCore.Foundation.PythonText

def second : Int := 1000000

def minute : Int := 60 * second

/-- `datetime.min` and `datetime.max`. -/
def minWall : Int := -62135596800 * second

def maxWall : Int := 253402300800 * second - 1

structure Datetime where
  wall : Int
  /-- Absent on a naive datetime. -/
  utcoffset : Option Int
  deriving DecidableEq, Repr

namespace Datetime

def utc (t : Int) : Datetime := ⟨t, some 0⟩

/-- A datetime as SQLite gives it back. -/
def stored (w : Int) : Datetime := ⟨w, none⟩

/-- The instant a datetime denotes, a naive one being read as UTC. -/
def instant (d : Datetime) : Int := d.wall - d.utcoffset.getD 0

/-- `value.replace(tzinfo=UTC)` if `value.tzinfo is None`, else `value`. -/
def normalizeTimestamp (d : Datetime) : Datetime :=
  match d.utcoffset with
  | none => ⟨d.wall, some 0⟩
  | some _ => d

/-- `value + timedelta(microseconds=n)`. -/
def add (d : Datetime) (n : Int) : Except PyError Datetime :=
  if minWall ≤ d.wall + n ∧ d.wall + n ≤ maxWall then .ok ⟨d.wall + n, d.utcoffset⟩
  else .error .overflowError

/-- `value.astimezone(UTC)` of an aware datetime. -/
def astimezoneUtc (d : Datetime) : Except PyError Datetime :=
  if minWall ≤ d.instant ∧ d.instant ≤ maxWall then .ok (utc d.instant)
  else .error .overflowError

/-- The wall clock read as UTC is the instant itself. -/
def IsUtc (d : Datetime) : Prop := d.utcoffset.getD 0 = 0

instance (d : Datetime) : Decidable d.IsUtc := inferInstanceAs (Decidable (_ = _))

/-- A datetime that a column without offsets keeps as it is. -/
abbrev Utc := { d : Datetime // d.IsUtc }

@[simp] theorem instant_utc (t : Int) : (utc t).instant = t := Int.sub_zero t

@[simp] theorem instant_stored (w : Int) : (stored w).instant = w := Int.sub_zero w

@[simp] theorem wall_utc (t : Int) : (utc t).wall = t := rfl

@[simp] theorem isUtc_utc (t : Int) : (utc t).IsUtc := rfl

@[simp] theorem normalizeTimestamp_stored (w : Int) :
    (stored w).normalizeTimestamp = utc w := rfl

@[simp] theorem wall_normalizeTimestamp (d : Datetime) :
    d.normalizeTimestamp.wall = d.wall := by
  unfold normalizeTimestamp
  split <;> rfl

@[simp] theorem instant_normalizeTimestamp (d : Datetime) :
    d.normalizeTimestamp.instant = d.instant := by
  unfold normalizeTimestamp instant
  split <;> simp [*]

theorem isUtc_iff {d : Datetime} : d.IsUtc ↔ d.instant = d.wall := by
  unfold IsUtc instant
  omega

theorem isUtc_normalizeTimestamp {d : Datetime} : d.normalizeTimestamp.IsUtc ↔ d.IsUtc := by
  rw [isUtc_iff, isUtc_iff, instant_normalizeTimestamp, wall_normalizeTimestamp]

theorem add_eq_ok {d e : Datetime} {n : Int} (h : d.add n = .ok e) :
    e.wall = d.wall + n ∧ e.utcoffset = d.utcoffset := by
  unfold add at h
  split at h
  · cases h
    exact ⟨rfl, rfl⟩
  · cases h

theorem instant_of_add {d e : Datetime} {n : Int} (h : d.add n = .ok e) :
    e.instant = d.instant + n := by
  obtain ⟨hwall, hoffset⟩ := add_eq_ok h
  unfold instant
  rw [hwall, hoffset]
  omega

theorem astimezoneUtc_eq_ok {d e : Datetime} (h : d.astimezoneUtc = .ok e) :
    e = utc d.instant := by
  unfold astimezoneUtc at h
  split at h
  · cases h
    rfl
  · cases h

end Datetime

/-- The system clock.  Each `datetime.now(UTC)` takes its next reading, which is
never behind the reading before. -/
structure Clock where
  latest : Int
  /-- How far the clock moves before each of its next readings. -/
  advances : Nat → Nat

namespace Clock

def now (clock : Clock) : Int := clock.latest + clock.advances 0

def tick (clock : Clock) : Clock where
  latest := clock.now
  advances n := clock.advances (n + 1)

@[simp] theorem latest_tick (clock : Clock) : clock.tick.latest = clock.now := rfl

theorem latest_le_now (clock : Clock) : clock.latest ≤ clock.now :=
  Int.le_add_of_nonneg_right (Int.natCast_nonneg _)

def stopped (t : Int) : Clock := ⟨t, fun _ => 0⟩

end Clock

end NanoCore.Foundation.PythonDatetime
