import FacilityBooking.Limits
import FacilityBooking.Text.Numeral

/-!
# Durations

A duration in the largest unit of which it has at least one, without zeros at the
end of the fraction.
-/

namespace FacilityBooking.Text

/-- A decimal numeral of which the last `places` digits stand behind the point. -/
def withPoint (places value : Nat) : String :=
  let whole := toString (value / Nat.pow 10 places)
  let fraction := (padZeros places (toString (value % Nat.pow 10 places))).toList
  match (fraction.reverse.dropWhile (· == '0')).reverse with
  | [] => whole
  | digits => whole ++ "." ++ String.ofList digits

/-- A duration given in nanoseconds. -/
def durationText (nanoseconds : Nat) : String :=
  if Limits.second ≤ nanoseconds then withPoint 9 nanoseconds ++ "s"
  else if Limits.millisecond ≤ nanoseconds then withPoint 6 nanoseconds ++ "ms"
  else if 1000 ≤ nanoseconds then withPoint 3 nanoseconds ++ "µs"
  else toString nanoseconds ++ "ns"

end FacilityBooking.Text
