import FacilityBooking.Service.Settings

/-!
# Loss

Datagrams that are lost on purpose with a given probability, to try out how
callers cope. The losses of one start are always the same.
-/

namespace FacilityBooking

structure Loss where
  /-- The probability of a loss. -/
  rate : Float
  source : StdGen

namespace Loss

/-- Losses with the given probability; a rate that is no finite number means none. -/
def new (rate : Float) (seed : UInt64) : Loss where
  rate := if rate.isFinite then Settings.clampRate rate else 0.0
  source := mkStdGen seed.toNat

/-- The number of words, of all `2 ^ 64`, that stand for a loss. -/
def threshold (rate : Float) : UInt64 :=
  (rate * 18446744073709551616.0).toUInt64

/-- Whether a word drawn at random stands for a loss. A threshold that does not fit
into a word means that every word does. -/
def strikes (rate : Float) (word : UInt64) : Bool :=
  0.0 < rate && (threshold rate == UInt64.ofNat (UInt64.size - 1) || word < threshold rate)

/-- Whether the next datagram is lost. -/
def next (loss : Loss) : Bool × Loss :=
  let (word, source) := randNat loss.source 0 (UInt64.size - 1)
  (strikes loss.rate (.ofNat word), { loss with source })

/-- The fates of the next `count` datagrams. -/
def sample : Nat → Loss → List Bool
  | 0, _ => []
  | count + 1, loss =>
      let (lost, loss) := loss.next
      lost :: sample count loss

end Loss

end FacilityBooking
