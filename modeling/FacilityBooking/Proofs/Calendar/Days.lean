import FacilityBooking.Proofs.Calendar.Week

/-!
# Days that a span touches

A span touches a day if one of its minutes belongs to it. The days of a span inside the
week are the days that it touches, and what reaches into the window of a day touches it.
-/

namespace FacilityBooking

namespace Day

theorem eq_of_number_eq {first second : Day} (hsame : first.number = second.number) :
    first = second := by
  have hfirst := ofNumber?_number first
  rw [hsame, ofNumber?_number] at hfirst
  exact (Option.some.inj hfirst).symm

/-- The days of the week are listed from Monday to Sunday. -/
theorem pairwise_all : all.Pairwise fun earlier later => earlier.number < later.number := by
  decide

/-- The minutes of a day are as many as a day has, from that of its midnight on. -/
theorem ofMinute?_eq_some_iff {minute : Int} {day : Day} :
    ofMinute? minute = some day ↔
      day.number * minutesPerDay ≤ minute ∧
        minute < day.number * minutesPerDay + minutesPerDay := by
  have hminutes : minutesPerDay = 1440 := rfl
  have hweek : minutesPerWeek = 10080 := rfl
  have hlt := day.number_lt
  rw [hminutes]
  constructor
  · intro hday
    by_cases hinside : 0 ≤ minute ∧ minute < minutesPerWeek
    · obtain ⟨found, hfound, hnumber⟩ := ofMinute?_of_inside hinside.1 hinside.2
      rw [hday] at hfound
      obtain rfl := Option.some.inj hfound
      rw [hminutes] at hnumber
      omega
    · rw [ofMinute?, if_neg hinside] at hday
      cases hday
  · rintro ⟨hfirst, hlast⟩
    have hstart : 0 ≤ minute := by omega
    have hstop : minute < minutesPerWeek := by omega
    obtain ⟨found, hfound, hnumber⟩ := ofMinute?_of_inside hstart hstop
    rw [hminutes] at hnumber
    have hsame : found = day := eq_of_number_eq (by omega)
    rw [hfound, hsame]

/-- A minute belongs to the day whose number counts the whole days before it. -/
theorem ofMinute?_eq_some_iff_div {minute : Int} {day : Day} :
    ofMinute? minute = some day ↔ minute / 1440 = day.number := by
  have hminutes : minutesPerDay = 1440 := rfl
  rw [ofMinute?_eq_some_iff, hminutes]
  omega

end Day

/-- The minute of a valid time belongs to the day of that time. -/
theorem WeekTime.Valid.ofMinute?_toMinute {time : WeekTime} (hvalid : time.Valid) :
    Day.ofMinute? time.toMinute = some time.day := by
  obtain ⟨hhour, hminute⟩ := hvalid
  have hminutes : minutesPerDay = 1440 := rfl
  have hhours : minutesPerHour = 60 := rfl
  rw [Day.ofMinute?_eq_some_iff, toMinute, hminutes, hhours]
  omega

namespace Span

variable {span : Span} {day : Day}

/-- Some minute of the span belongs to the day. -/
def Touches (span : Span) (day : Day) : Prop :=
  ∃ minute, span.Contains minute ∧ Day.ofMinute? minute = some day

theorem touches_iff :
    span.Touches day ↔
      span.start < span.stop ∧ span.start < day.number * minutesPerDay + minutesPerDay ∧
        day.number * minutesPerDay < span.stop := by
  have hminutes : minutesPerDay = 1440 := rfl
  simp only [Touches, Contains, Day.ofMinute?_eq_some_iff]
  constructor
  · rintro ⟨minute, hspan, hday⟩
    omega
  · rintro ⟨hlt, hstart, hstop⟩
    exact ⟨max span.start (day.number * minutesPerDay), by omega⟩

theorem mem_days_iff (hinside : span.InWeek) : day ∈ span.days ↔ span.Touches day := by
  obtain ⟨hstart, hlt, hstop⟩ := hinside
  have hminutes : minutesPerDay = 1440 := rfl
  have hlastStart : 0 ≤ span.stop - 1 := by omega
  have hlastStop : span.stop - 1 < minutesPerWeek := by omega
  obtain ⟨first, hfirst, hfirstNumber⟩ :=
    Day.ofMinute?_of_inside hstart (Int.lt_trans hlt hstop)
  obtain ⟨last, hlast, hlastNumber⟩ := Day.ofMinute?_of_inside hlastStart hlastStop
  rw [hminutes] at hfirstNumber hlastNumber
  rw [touches_iff, hminutes, days, hfirst, hlast]
  simp only [List.mem_filter, Day.mem_all, true_and, Bool.and_eq_true, decide_eq_true_eq]
  omega

/-- The window of a day ends a minute before the day, but belongs to the day. -/
theorem touches_of_overlaps_window (hoverlaps : span.overlaps day.window) :
    span.Touches day := by
  have hminutes : minutesPerDay = 1440 := rfl
  simp only [overlaps_iff, Day.window] at hoverlaps
  rw [touches_iff]
  omega

end Span

end FacilityBooking
