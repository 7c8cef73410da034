import FacilityBooking.Json.Schedule

/-!
# What a caller prints

Responses and updates as lines for people, or as one line of JSON.
-/

namespace FacilityBooking

/-- The lines that show a response. -/
def Response.lines (json : Bool) (response : Response) : List String :=
  if json then [response.json]
  else
    match response with
    | availability [] => ["no free time"]
    | availability intervals => intervals.map fun interval => "free " ++ interval.text
    | booked booking => [s!"booked, id {booking.toInt}"]
    | changed interval => ["moved to " ++ interval.text]
    | monitoring => ["monitoring"]
    | reset removed => [s!"removed {removed} bookings"]
    | usage count => [s!"usage count {count.toInt}"]

/-- The lines that show an update of a facility. -/
def Update.lines (json : Bool) (facility : String) (update : Update) : List String :=
  if json then [update.json]
  else
    let day := (update.day?.map Day.name).getD "(fully booked day)"
    s!"update for {facility} {day}:" ::
      update.intervals.map fun interval => "  free " ++ interval.text

end FacilityBooking
