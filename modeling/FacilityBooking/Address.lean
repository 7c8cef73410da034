import FacilityBooking.Text.Blank
import FacilityBooking.Text.Numeral
import Std.Data.ExtTreeMap

/-!
# Addresses

The host and port that a datagram comes from or goes to, and their order.
-/

namespace FacilityBooking

/-- A host, written as in a socket address, and a port on it. -/
structure Address where
  host : String
  port : UInt16
  deriving DecidableEq, Repr

namespace Address

/-- The host and the port with a colon between them. -/
def text (address : Address) : String :=
  address.host ++ ":" ++ toString address.port.toNat

/-- The host alone, without the brackets that a socket address puts around it. -/
def bareHost (address : Address) : String :=
  String.ofList (address.host.toList.filter fun letter => letter != '[' && letter != ']')

/-- The host without a scope id, which stands behind a percent sign in the brackets. -/
def unscopedHost (address : Address) : String :=
  match Text.cutAtFirst (· == '%') address.host.toList with
  | none => address.host
  | some (host, _) => String.ofList (host ++ [']'])

/-- A port of the host of an address. A scope id belongs to the address, not to its host. -/
def atPort (address : Address) (port : UInt16) : Address :=
  ⟨address.unscopedHost, port⟩

/-- The address with the given text; the port stands behind the last colon. -/
def ofText? (text : String) : Option Address := do
  let letters := text.toList.reverse
  let portText := (letters.takeWhile (· != ':')).reverse
  let host := ((letters.dropWhile (· != ':')).drop 1).reverse
  let port ← Text.readBelow? 65536 portText
  return ⟨String.ofList host, .ofNat port⟩

/-- By host, and by port on one host. -/
instance : Ord Address where
  compare first second :=
    (compare first.host second.host).then (compare first.port second.port)

instance : Std.TransOrd Address :=
  inferInstanceAs (Std.TransCmp (compareLex (compareOn host) (compareOn port)))

instance : Std.LawfulEqOrd Address where
  eq_of_compare {first second} hcompare := by
    obtain ⟨hhost, hport⟩ := Ordering.then_eq_eq.mp hcompare
    cases first
    cases second
    exact (Address.mk.injEq ..).mpr
      ⟨Std.LawfulEqOrd.eq_of_compare hhost, Std.LawfulEqOrd.eq_of_compare hport⟩

end Address

end FacilityBooking
