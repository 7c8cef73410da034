/-!
# Limits

Fixed bounds on what the service holds, so that no sequence of requests grows
its memory without end. Times are in nanoseconds.
-/

namespace FacilityBooking.Limits

/-- Nanoseconds in one second. -/
def second : Nat := 1000000000

/-- Nanoseconds in one millisecond. -/
def millisecond : Nat := 1000000

/-- Longest name of a facility, in bytes of UTF-8. -/
def facilityNameBytes : Nat := 256

/-- Longest name of a user, in bytes of UTF-8. -/
def userNameBytes : Nat := 256

def facilities : Nat := 10000

/-- Bookings on one facility; no more one-minute bookings fit into a week. -/
def bookingsPerFacility : Nat := 10080

def watches : Nat := 10000

/-- Longest time, in seconds, for which a watcher may ask to be notified: a week. -/
def watchSeconds : Nat := 7 * 24 * 3600

/-- Longest time for which a reply is kept: a week. -/
def replyLifetime : Nat := 7 * 24 * 3600 * second

/-- Longest time that a caller waits for one reply before it sends again. -/
def attemptTimeout : Nat := 3600 * second

end FacilityBooking.Limits
