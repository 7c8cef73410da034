import FacilityBooking.Calendar.Time
import FacilityBooking.Text.Blank
import FacilityBooking.Text.Quoted

/-!
# Days and times typed by a person

A day is its number or at least three letters of its English name, in any case.
A time is a day, a slash or a space, and an hour and a minute with a colon
between them. White space around the whole and around the clock is ignored.
-/

namespace FacilityBooking

/-- Text that names no day or time; the text is kept as it was typed. -/
structure UnreadableTime where
  text : String
  deriving DecidableEq, Repr

def UnreadableTime.message (failure : UnreadableTime) : String :=
  "cannot parse " ++ Text.quoted failure.text ++
    ": expected e.g. \"mon\" or \"mon/09:30\""

/-- The day whose name begins with a word of at least three letters. -/
def Day.ofWord? (word : List Char) : Option Day :=
  if word.length < 3 then none
  else Day.all.find? fun day => word.isPrefixOf (day.name.toList.map Char.toLower)

/-- The day named by its number or by its name, surrounded by white space or not. -/
def Day.read? (text : List Char) : Option Day :=
  let word := (Text.trim text).map Char.toLower
  match Text.readNatural? word with
  | some number => Day.ofNumber? number
  | none => Day.ofWord? word

/-- The time named by a day and a clock. -/
def WeekTime.read? (text : List Char) : Option WeekTime := do
  let (dayText, clock) ← Text.cutAtFirst (fun letter => letter == '/' || letter == ' ')
    (Text.trim text)
  let (hourText, minuteText) ← Text.cutAtFirst (· == ':') (Text.trim clock)
  let day ← Day.read? dayText
  let hour ← Text.readBelow? 24 hourText
  let minute ← Text.readBelow? 60 minuteText
  return ⟨day, .ofNat hour, .ofNat minute⟩

def Day.ofText (text : String) : Except UnreadableTime Day :=
  match Day.read? text.toList with
  | some day => .ok day
  | none => .error ⟨text⟩

def WeekTime.ofText (text : String) : Except UnreadableTime WeekTime :=
  match WeekTime.read? text.toList with
  | some time => .ok time
  | none => .error ⟨text⟩

end FacilityBooking
