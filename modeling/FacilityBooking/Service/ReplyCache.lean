import FacilityBooking.Address
import FacilityBooking.Datagram.Field
import FacilityBooking.Limits

/-!
# The reply cache

The replies to requests that must not be carried out twice. A reply is kept with
the very bytes that were sent, under the caller's address and the id that the
caller chose, until its time is over. Times are in nanoseconds.
-/

namespace FacilityBooking

/-- A request is known by who sent it and the id that it carries. -/
structure RequestKey where
  peer : Address
  id : UInt32
  deriving DecidableEq, Repr

namespace RequestKey

/-- By caller, and by id for one caller. -/
instance : Ord RequestKey where
  compare first second := (compare first.peer second.peer).then (compare first.id second.id)

instance : Std.TransOrd RequestKey :=
  inferInstanceAs (Std.TransCmp (compareLex (compareOn peer) (compareOn id)))

instance : Std.LawfulEqOrd RequestKey where
  eq_of_compare {first second} hcompare := by
    obtain ⟨hpeer, hid⟩ := Ordering.then_eq_eq.mp hcompare
    cases first
    cases second
    exact (RequestKey.mk.injEq ..).mpr
      ⟨Std.LawfulEqOrd.eq_of_compare hpeer, Std.LawfulEqOrd.eq_of_compare hid⟩

end RequestKey

/-- A reply and the time at which it is no longer given out. -/
structure KeptReply where
  reply : Bytes
  expiry : Nat
  deriving DecidableEq, Repr

structure ReplyCache where
  /-- How long a reply is kept. -/
  lifetime : Nat
  entries : Std.ExtTreeMap RequestKey KeptReply

namespace ReplyCache

/-- A cache without replies; its lifetime is at most a week. -/
def new (lifetime : Nat) : ReplyCache where
  lifetime := min lifetime Limits.replyLifetime
  entries := ∅

/-- The reply to a request, if it is kept and its time is not over. -/
def get? (cache : ReplyCache) (key : RequestKey) (now : Nat) : Option Bytes :=
  match cache.entries[key]? with
  | some kept => if now < kept.expiry then some kept.reply else none
  | none => none

def insert (cache : ReplyCache) (key : RequestKey) (reply : Bytes) (now : Nat) : ReplyCache :=
  { cache with entries := cache.entries.insert key ⟨reply, now + cache.lifetime⟩ }

/-- The cache without the replies whose time is over, and how many these were. -/
def sweep (cache : ReplyCache) (now : Nat) : Nat × ReplyCache :=
  let entries := cache.entries.filter fun _ kept => now < kept.expiry
  (cache.entries.size - entries.size, { cache with entries })

def size (cache : ReplyCache) : Nat :=
  cache.entries.size

end ReplyCache

end FacilityBooking
