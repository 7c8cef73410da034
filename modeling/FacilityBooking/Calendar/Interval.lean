import FacilityBooking.Calendar.Time

/-!
# Intervals

Spans of the week in terms of days, hours and minutes, as they are shown and sent.
-/

namespace FacilityBooking

/-- The time from `start` up to, but not including, `stop`. -/
structure Interval where
  start : WeekTime
  stop : WeekTime
  deriving DecidableEq, Repr

namespace Interval

/-- The interval of a span; both of its ends must lie inside the week. -/
def ofSpan (span : Span) : Except InvalidTime Interval := do
  let start ← WeekTime.ofMinute span.start
  let stop ← WeekTime.ofMinute span.stop
  return ⟨start, stop⟩

def toSpan (interval : Interval) : Span :=
  ⟨interval.start.toMinute, interval.stop.toMinute⟩

/-- Both ends are times of the week. -/
def Valid (interval : Interval) : Prop :=
  interval.start.Valid ∧ interval.stop.Valid

instance (interval : Interval) : Decidable interval.Valid :=
  inferInstanceAs (Decidable (_ ∧ _))

def text (interval : Interval) : String :=
  "[" ++ interval.start.text ++ ", " ++ interval.stop.text ++ ")"

end Interval

end FacilityBooking
