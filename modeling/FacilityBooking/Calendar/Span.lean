/-!
# Spans

Half-open intervals of minutes, counted from Monday 00:00.
-/

namespace FacilityBooking

def minutesPerHour : Int := 60

def minutesPerDay : Int := 24 * minutesPerHour

def minutesPerWeek : Int := 7 * minutesPerDay

/-- The minutes from `start` up to, but not including, `stop`. -/
structure Span where
  start : Int
  stop : Int
  deriving DecidableEq, Repr

namespace Span

/-- A minute lies in the span. -/
def Contains (span : Span) (minute : Int) : Prop :=
  span.start ≤ minute ∧ minute < span.stop

instance (span : Span) (minute : Int) : Decidable (span.Contains minute) :=
  inferInstanceAs (Decidable (_ ∧ _))

/-- Whether the later of the two starts comes before the earlier of the two ends. -/
def overlaps (first second : Span) : Bool :=
  max first.start second.start < min first.stop second.stop

/-- Two spans overlap exactly when some minute lies in both. -/
theorem overlaps_iff_exists {first second : Span} :
    first.overlaps second ↔ ∃ minute, first.Contains minute ∧ second.Contains minute := by
  simp only [overlaps, Contains, decide_eq_true_eq]
  constructor
  · intro hlt
    exact ⟨max first.start second.start, by omega⟩
  · rintro ⟨minute, hfirst, hsecond⟩
    omega

end Span

end FacilityBooking
