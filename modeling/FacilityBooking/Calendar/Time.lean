import FacilityBooking.Calendar.Day
import FacilityBooking.Text.Numeral

/-!
# Times of the week

A day with an hour and a minute, and its place among the minutes of the week.
The fields hold any byte, so that a time read from elsewhere can be judged.
-/

namespace FacilityBooking

/-- Why a value is no time of the week. -/
inductive InvalidTime where
  | day (value : UInt8)
  | hour (value : UInt8)
  | minute (value : UInt8)
  | outsideWeek (minute : Int)
  deriving DecidableEq, Repr

def InvalidTime.message : InvalidTime → String
  | day value => s!"invalid day: {value}"
  | hour value => s!"invalid hour: {value}"
  | minute value => s!"invalid minute: {value}"
  | outsideWeek value => s!"minute-of-week {value} outside [0, {minutesPerWeek})"

/-- A point in the weekly schedule. -/
structure WeekTime where
  day : Day
  hour : UInt8
  minute : UInt8
  deriving DecidableEq, Repr

/-- The day with the given number, as a byte of a message carries it. -/
def Day.ofByte (value : UInt8) : Except InvalidTime Day :=
  match Day.ofNumber? value.toNat with
  | some day => .ok day
  | none => .error (.day value)

namespace WeekTime

/-- The hour is one of a day and the minute one of an hour. -/
def Valid (time : WeekTime) : Prop :=
  time.hour.toNat ≤ 23 ∧ time.minute.toNat ≤ 59

instance (time : WeekTime) : Decidable time.Valid :=
  inferInstanceAs (Decidable (_ ∧ _))

/-- A time from its parts; the hour is judged before the minute. -/
def ofParts (day : Day) (hour minute : UInt8) : Except InvalidTime WeekTime :=
  if 23 < hour.toNat then .error (.hour hour)
  else if 59 < minute.toNat then .error (.minute minute)
  else .ok ⟨day, hour, minute⟩

def toMinute (time : WeekTime) : Int :=
  time.day.number * minutesPerDay + time.hour.toNat * minutesPerHour + time.minute.toNat

def ofMinute (minute : Int) : Except InvalidTime WeekTime :=
  match Day.ofMinute? minute with
  | none => .error (.outsideWeek minute)
  | some day =>
      let inDay := minute % minutesPerDay
      .ok ⟨day, .ofNat (inDay / minutesPerHour).toNat, .ofNat (inDay % minutesPerHour).toNat⟩

/-- The day's name, the hour and the minute, as in `Monday 09:30`. -/
def text (time : WeekTime) : String :=
  time.day.name ++ " " ++ Text.twoDigits time.hour.toNat ++ ":" ++ Text.twoDigits time.minute.toNat

theorem ofParts_eq_ok_iff {day : Day} {hour minute : UInt8} {time : WeekTime} :
    ofParts day hour minute = .ok time ↔ time = ⟨day, hour, minute⟩ ∧ time.Valid := by
  unfold ofParts Valid
  constructor
  · intro hparts
    split at hparts
    · cases hparts
    · split at hparts
      · cases hparts
      · cases hparts
        exact ⟨rfl, by dsimp only; omega⟩
  · rintro ⟨rfl, hvalid⟩
    rw [if_neg (by dsimp only at hvalid; omega), if_neg (by dsimp only at hvalid; omega)]

end WeekTime

end FacilityBooking
