import PiaOs.Model.Values

/-!
# Dates and times with a fixed offset

Python keeps an aware `datetime` as the reading of a wall clock together with the
offset of that clock from UTC. The readings run from year 1 to year 9999, and what
would leave that range is an `OverflowError`.
-/

namespace PiaOs.Memory

open Support

/-- Microseconds in a day. -/
def microsecondsPerDay : Int := 86400000000

/-- `datetime.min`, in microseconds from 1970 on the same clock. -/
def datetimeMin : Int := -62135596800000000

/-- `datetime.max`. -/
def datetimeMax : Int := 253402300799999999

/-- An aware `datetime`: what the wall clock shows and how far east of UTC it is. -/
structure Datetime where
  wall : Int
  offset : Int := 0
  wall_inRange : datetimeMin ≤ wall ∧ wall ≤ datetimeMax := by decide
  offset_bound : -microsecondsPerDay < offset ∧ offset < microsecondsPerDay := by decide

namespace Datetime

/-- 1970-01-01 at midnight, in UTC. -/
def epoch : Datetime := { wall := 0 }

/-- The point in time. Comparisons of aware values compare it. -/
def instant (t : Datetime) : Instant := t.wall - t.offset

/-- The clock that shows `wall`, when `datetime` can represent it. -/
def atWall (wall offset : Int)
    (hoffset : -microsecondsPerDay < offset ∧ offset < microsecondsPerDay) :
    Except String Datetime :=
  if h : datetimeMin ≤ wall ∧ wall ≤ datetimeMax then .ok ⟨wall, offset, h, hoffset⟩
  else .error "date value out of range"

/-- The clock of UTC can show the instant. -/
def Representable (t : Datetime) : Prop := datetimeMin ≤ t.instant ∧ t.instant ≤ datetimeMax

instance (t : Datetime) : Decidable t.Representable := by
  unfold Representable
  infer_instance

/-- `t + timedelta(days=days)`: a `timedelta` counts at most 999999999 days. -/
def plusDays (t : Datetime) (days : Nat) : Except String Datetime :=
  if 999999999 < days then
    .error ("days=" ++ toString days ++ "; must have magnitude <= 999999999")
  else atWall (t.wall + days * microsecondsPerDay) t.offset t.offset_bound

/-- The date of a day counted from 1970-01-01: year, month and day. -/
def civil (days : Int) : Nat × Nat × Nat :=
  let fromMarch := days + 719468
  let dayOfEra := fromMarch % 146097
  let yearOfEra := (dayOfEra - dayOfEra / 1460 + dayOfEra / 36524 - dayOfEra / 146096) / 365
  let dayOfYear := dayOfEra - (365 * yearOfEra + yearOfEra / 4 - yearOfEra / 100)
  let monthFromMarch := (5 * dayOfYear + 2) / 153
  let month := if monthFromMarch < 10 then monthFromMarch + 3 else monthFromMarch - 9
  let year := yearOfEra + fromMarch / 146097 * 400 + if month ≤ 2 then 1 else 0
  (year.toNat, month.toNat, (dayOfYear - (153 * monthFromMarch + 2) / 5 + 1).toNat)

/-- `isoformat()`. -/
def isoformat (t : Datetime) : String :=
  let (year, month, day) := civil (t.wall / microsecondsPerDay)
  let clock (micros : Nat) (seconds : Bool) : String :=
    padded 2 (micros / 3600000000) ++ ":" ++ padded 2 (micros / 60000000 % 60) ++
      (if seconds || micros % 60000000 ≠ 0 then ":" ++ padded 2 (micros / 1000000 % 60) else "") ++
      (if micros % 1000000 ≠ 0 then "." ++ padded 6 (micros % 1000000) else "")
  padded 4 year ++ "-" ++ padded 2 month ++ "-" ++ padded 2 day ++ "T" ++
    clock (t.wall % microsecondsPerDay).toNat true ++
    (if t.offset < 0 then "-" else "+") ++ clock t.offset.natAbs false

example : (Datetime.mk 1772366700000000 (-10800000000)).isoformat =
    "2026-03-01T12:05:00-03:00" := by decide +kernel

example : ({ wall := datetimeMin } : Datetime).isoformat = "0001-01-01T00:00:00+00:00" := by
  decide +kernel

/-- `max`: the latest of the times, and of those as late as each other the first. -/
def latest : List Datetime → Option Datetime
  | [] => none
  | t :: times => match latest times with
    | none => some t
    | some u => if t.instant < u.instant then some u else some t

theorem latest_eq_none {times : List Datetime} : latest times = none ↔ times = [] := by
  cases times with
  | nil => simp [latest]
  | cons t times =>
    unfold latest
    cases latest times with
    | none => simp
    | some u => by_cases hlater : t.instant < u.instant <;> simp [hlater]

theorem le_latest {times : List Datetime} {u t : Datetime} (h : latest times = some u)
    (ht : t ∈ times) : t.instant ≤ u.instant := by
  induction times generalizing u with
  | nil => cases ht
  | cons first times ih =>
    rw [latest] at h
    cases hrest : latest times with
    | none =>
      rw [hrest] at h
      obtain rfl := Option.some.inj h
      rw [latest_eq_none.mp hrest, List.mem_singleton] at ht
      rw [ht]
    | some u' =>
      simp only [hrest] at h
      have hlate : first.instant ≤ u.instant ∧ u'.instant ≤ u.instant := by
        split at h
        case isTrue hlater =>
          obtain rfl := Option.some.inj h
          exact ⟨hlater.le, le_refl _⟩
        case isFalse hearlier =>
          obtain rfl := Option.some.inj h
          exact ⟨le_refl _, not_lt.mp hearlier⟩
      rcases List.mem_cons.mp ht with rfl | hlast
      · exact hlate.1
      · exact (ih hrest hlast).trans hlate.2

end Datetime

/-- An instant as the clock of UTC reads it. -/
structure UtcInstant extends Datetime where
  utc : offset = 0

/-- `astimezone(UTC)`. -/
def Datetime.astimezoneUtc (t : Datetime) : Except String UtcInstant :=
  if h : t.Representable then .ok { wall := t.instant, wall_inRange := h, utc := rfl }
  else .error "date value out of range"

theorem Datetime.astimezoneUtc_eq_ok {t : Datetime} (h : t.Representable) :
    ∃ instante, t.astimezoneUtc = .ok instante ∧ instante.toDatetime.instant = t.instant := by
  refine ⟨_, dif_pos h, ?_⟩
  change t.instant - 0 = t.instant
  exact Int.sub_zero _

end PiaOs.Memory
