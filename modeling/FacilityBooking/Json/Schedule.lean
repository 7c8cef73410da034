import FacilityBooking.Client.Update
import FacilityBooking.Json.Reader
import FacilityBooking.Json.Writer
import FacilityBooking.Ledger.Basic
import FacilityBooking.Client.CallError

/-!
# The JSON forms of the schedule

How days, times, spans, bookings and responses are written as JSON, and how those
that are also read are read. A time in JSON is not judged: its fields hold any byte.
-/

namespace FacilityBooking

/-! ## Writing -/

def Day.json (day : Day) : String :=
  Json.textOf day.name

def WeekTime.json (time : WeekTime) : String :=
  Json.objectOf [("day", time.day.json), ("hour", toString time.hour.toNat),
    ("minute", toString time.minute.toNat)]

def Interval.json (interval : Interval) : String :=
  Json.objectOf [("start", interval.start.json), ("end", interval.stop.json)]

def Span.json (span : Span) : String :=
  Json.objectOf [("start", toString span.start), ("end", toString span.stop)]

def Booking.json (booking : Booking) : String :=
  Json.objectOf [("id", toString booking.id), ("facility", Json.textOf booking.facility),
    ("user", Json.textOf booking.user), ("span", booking.span.json)]

def ErrorCategory.json (category : ErrorCategory) : String :=
  Json.textOf category.name

def Response.json : Response → String
  | availability intervals =>
      Json.objectOf [("Availability", Json.listOf (intervals.map Interval.json))]
  | booked booking => Json.objectOf [("Booked", toString booking.toInt)]
  | changed interval => Json.objectOf [("Changed", interval.json)]
  | monitoring => Json.textOf "Monitoring"
  | reset removed => Json.objectOf [("Reset", toString removed.toNat)]
  | usage count => Json.objectOf [("Usage", toString count.toInt)]

def Update.json (update : Update) : String :=
  Json.objectOf [("intervals", Json.listOf (update.intervals.map Interval.json))]

/-! ## Reading -/

/-- The day with the given name, in exactly these letters. -/
def Day.ofName? (name : String) : Option Day :=
  all.find? fun day => day.name == name

/-- A day is its name, or an object that gives the name nothing as its value. -/
def Day.ofJson? : Json → Option Day
  | .text name => ofName? name
  | .object [(name, .null)] => ofName? name
  | _ => none

def WeekTime.ofJson? (json : Json) : Option WeekTime := do
  let [day, hour, minute] ← json.fields? ["day", "hour", "minute"] | none
  let day ← Day.ofJson? day
  let hour ← hour.integer? 0 255
  let minute ← minute.integer? 0 255
  return ⟨day, .ofInt hour, .ofInt minute⟩

def Interval.ofJson? (json : Json) : Option Interval := do
  let [start, stop] ← json.fields? ["start", "end"] | none
  let start ← WeekTime.ofJson? start
  let stop ← WeekTime.ofJson? stop
  return ⟨start, stop⟩

def Span.ofJson? (json : Json) : Option Span := do
  let [start, stop] ← json.fields? ["start", "end"] | none
  let start ← start.integer? (-0x80000000) 0x7fffffff
  let stop ← stop.integer? (-0x80000000) 0x7fffffff
  return ⟨start, stop⟩

def Booking.ofJson? (json : Json) : Option Booking := do
  let [id, facility, user, span] ← json.fields? ["id", "facility", "user", "span"] | none
  let id ← id.integer? (-0x8000000000000000) 0x7fffffffffffffff
  let facility ← facility.text?
  let user ← user.text?
  let span ← Span.ofJson? span
  return ⟨id, facility, user, span⟩

end FacilityBooking
