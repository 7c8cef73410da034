import FacilityBooking.Ledger.Timetable

/-!
# Availability

The free time of a facility on one day. The slots that reach into the day's
window are clipped to it, joined where they touch, and taken away from it.
-/

namespace FacilityBooking

namespace Availability

/-- The part of a span that lies in a window. -/
def clip (window span : Span) : Span :=
  ⟨max span.start window.start, min span.stop window.stop⟩

/-- Joins spans to `last` for as long as they reach it. -/
def mergeFrom (last : Span) : List Span → List Span
  | [] => [last]
  | span :: rest =>
      if span.start ≤ last.stop then mergeFrom ⟨last.start, max last.stop span.stop⟩ rest
      else last :: mergeFrom span rest

/-- Spans in the order of their starts, with those joined that overlap or touch. -/
def merge : List Span → List Span
  | [] => []
  | span :: rest => mergeFrom span rest

/-- What the removed spans leave of the minutes from `start` to `stop`. -/
def carve (start stop : Int) : List Span → List Span
  | [] => if start < stop then [⟨start, stop⟩] else []
  | removed :: rest =>
      if removed.start < stop then
        if start < removed.start then
          ⟨start, removed.start⟩ :: carve (max start removed.stop) stop rest
        else carve (max start removed.stop) stop rest
      else if start < stop then [⟨start, stop⟩] else []

/-- What is left of the base spans without the removed ones. Both lists are in
order, so removed spans that end before a base span starts are passed for good. -/
def subtract : List Span → List Span → List Span
  | [], _ => []
  | base :: rest, removed =>
      let ahead := removed.dropWhile fun span => span.stop ≤ base.start
      carve base.start base.stop ahead ++ subtract rest ahead

/-- The free spans of a day on a timetable; without a timetable the day is free. -/
def freeSpans (timetable : Option Timetable) (day : Day) : List Span :=
  match timetable with
  | none => [day.window]
  | some timetable =>
      match timetable.overlapping day.window with
      | [] => [day.window]
      | slots => subtract [day.window] (merge (slots.map fun slot => clip day.window slot.span))

end Availability

end FacilityBooking
