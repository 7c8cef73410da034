import FacilityBooking.Calendar.Interval

/-!
# Spans inside the week

Two spans overlap if each starts before the other ends and neither is empty. Every
minute of the week is the minute of a valid time, so every span that stays inside
the week has a valid interval, which stands for the span.
-/

namespace FacilityBooking

namespace Span

/-- The span covers at least one minute and stays inside the week. -/
def InWeek (span : Span) : Prop :=
  0 ≤ span.start ∧ span.start < span.stop ∧ span.stop < minutesPerWeek

theorem overlaps_iff {first second : Span} :
    first.overlaps second ↔
      first.start < first.stop ∧ first.start < second.stop ∧
        second.start < first.stop ∧ second.start < second.stop := by
  simp only [overlaps, decide_eq_true_eq]
  omega

theorem overlaps_comm (first second : Span) : first.overlaps second = second.overlaps first := by
  rw [Bool.eq_iff_iff, overlaps_iff, overlaps_iff]
  constructor
  · rintro ⟨hfirst, hbefore, hafter, hsecond⟩
    exact ⟨hsecond, hafter, hbefore, hfirst⟩
  · rintro ⟨hsecond, hafter, hbefore, hfirst⟩
    exact ⟨hfirst, hbefore, hafter, hsecond⟩

end Span

/-- Every minute of the week belongs to a day, whose number counts the days before it. -/
theorem Day.ofMinute?_of_inside {minute : Int} (hfirst : 0 ≤ minute)
    (hlast : minute < minutesPerWeek) :
    ∃ day, Day.ofMinute? minute = some day ∧ minute / minutesPerDay = day.number := by
  have hday : minutesPerDay = 1440 := rfl
  have hweek : minutesPerWeek = 10080 := rfl
  have hlt : (minute / minutesPerDay).toNat < Day.all.length := by
    rw [hday]
    change (minute / 1440).toNat < 7
    omega
  refine ⟨Day.all[(minute / minutesPerDay).toNat], ?_, ?_⟩
  · rw [Day.ofMinute?, if_pos ⟨hfirst, hlast⟩, Day.ofNumber?]
    exact List.getElem?_eq_getElem hlt
  · have hnumber := Day.ofNumber?_eq_some_iff.mp (List.getElem?_eq_getElem hlt)
    rw [← hnumber, hday]
    omega

/-- Every minute of the week is the minute of a valid time. -/
theorem WeekTime.ofMinute_of_inside {minute : Int} (hfirst : 0 ≤ minute)
    (hlast : minute < minutesPerWeek) :
    ∃ time, WeekTime.ofMinute minute = .ok time ∧ time.Valid ∧ time.toMinute = minute := by
  obtain ⟨day, hday, hnumber⟩ := Day.ofMinute?_of_inside hfirst hlast
  have hminutes : minutesPerDay = 1440 := rfl
  have hhour : minutesPerHour = 60 := rfl
  rw [hminutes] at hnumber
  rw [WeekTime.ofMinute, hday]
  refine ⟨_, rfl, ?_, ?_⟩
  · simp only [WeekTime.Valid, UInt8.toNat_ofNat', hminutes, hhour]
    omega
  · simp only [WeekTime.toMinute, UInt8.toNat_ofNat', hminutes, hhour]
    omega

/-- A span with both ends in the week has a valid interval, which stands for it. -/
theorem Interval.ofSpan_of_inside {span : Span} (hfirst : 0 ≤ span.start)
    (hle : span.start ≤ span.stop) (hlast : span.stop < minutesPerWeek) :
    ∃ interval, Interval.ofSpan span = .ok interval ∧ interval.Valid ∧
      interval.toSpan = span := by
  obtain ⟨start, hstart, hstartValid, hstartMinute⟩ :=
    WeekTime.ofMinute_of_inside hfirst (Int.lt_of_le_of_lt hle hlast)
  obtain ⟨stop, hstop, hstopValid, hstopMinute⟩ :=
    WeekTime.ofMinute_of_inside (Int.le_trans hfirst hle) hlast
  refine ⟨⟨start, stop⟩, ?_, ⟨hstartValid, hstopValid⟩, ?_⟩
  · rw [Interval.ofSpan, hstart, hstop]
    rfl
  · rw [Interval.toSpan, hstartMinute, hstopMinute]

theorem Day.window_inside (day : Day) :
    0 ≤ day.window.start ∧ day.window.start < day.window.stop ∧
      day.window.stop < minutesPerWeek := by
  cases day <;> decide

end FacilityBooking
