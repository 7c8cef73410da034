import FacilityBooking.Calendar.Span

/-!
# Days

The seven days of the schedule week, numbered from Monday, and the minutes of
the week that belong to each of them.
-/

namespace FacilityBooking

inductive Day where
  | monday
  | tuesday
  | wednesday
  | thursday
  | friday
  | saturday
  | sunday
  deriving DecidableEq, Repr

namespace Day

/-- The days of the week, Monday first. -/
def all : List Day :=
  [monday, tuesday, wednesday, thursday, friday, saturday, sunday]

/-- The place of a day in the week: Monday is 0 and Sunday is 6. -/
def number : Day → Nat
  | monday => 0
  | tuesday => 1
  | wednesday => 2
  | thursday => 3
  | friday => 4
  | saturday => 5
  | sunday => 6

def ofNumber? (number : Nat) : Option Day :=
  all[number]?

def name : Day → String
  | monday => "Monday"
  | tuesday => "Tuesday"
  | wednesday => "Wednesday"
  | thursday => "Thursday"
  | friday => "Friday"
  | saturday => "Saturday"
  | sunday => "Sunday"

/-- The bookable part of a day: from 00:00 up to 23:59, which belongs to no booking. -/
def window (day : Day) : Span where
  start := day.number * minutesPerDay
  stop := day.number * minutesPerDay + minutesPerDay - 1

/-- The day that contains a minute of the week. -/
def ofMinute? (minute : Int) : Option Day :=
  if 0 ≤ minute ∧ minute < minutesPerWeek then ofNumber? (minute / minutesPerDay).toNat else none

@[simp]
theorem ofNumber?_number (day : Day) : ofNumber? day.number = some day := by
  cases day <;> rfl

theorem number_lt (day : Day) : day.number < 7 := by
  cases day <;> decide

theorem ofNumber?_eq_some_iff {number : Nat} {day : Day} :
    ofNumber? number = some day ↔ number = day.number := by
  constructor
  · intro hday
    match number with
    | 0 | 1 | 2 | 3 | 4 | 5 | 6 => simp [ofNumber?, all] at hday; subst hday; rfl
    | _ + 7 => simp [ofNumber?, all] at hday
  · rintro rfl
    exact ofNumber?_number day

theorem mem_all (day : Day) : day ∈ all := by
  cases day <;> decide

end Day

/-- The days that a span overlaps: those from the day of its start to the day of
its last minute. A span that leaves the week overlaps none. -/
def Span.days (span : Span) : List Day :=
  match Day.ofMinute? span.start, Day.ofMinute? (span.stop - 1) with
  | some first, some last =>
      Day.all.filter fun day => first.number ≤ day.number && day.number ≤ last.number
  | _, _ => []

end FacilityBooking
