import FacilityBooking.Limits
import FacilityBooking.Text.Blank
import FacilityBooking.Text.Duration
import FacilityBooking.Text.Fraction

/-!
# Settings

How the service is set up. The environment names each setting with a variable of
its own; a variable that is missing or does not read as a value leaves its setting
at the default. Durations are in nanoseconds.
-/

namespace FacilityBooking

structure Settings where
  /-- The host to listen on. -/
  bind : String := "0.0.0.0"
  port : UInt16 := 9999
  /-- Whether callers may ask for at most one execution. -/
  atMostOnce : Bool := true
  /-- The probability with which a datagram is lost on its way out. -/
  lossRate : Float := 0.0
  /-- Where the losses start from; by chance if absent. -/
  lossSeed : Option UInt64 := none
  replyLifetime : Nat := 60 * Limits.second
  receiveTimeout : Nat := 500 * Limits.millisecond
  sweepInterval : Nat := Limits.second
  metricsPort : Option UInt16 := none

namespace Settings

instance : Inhabited Settings := ⟨{}⟩

/-- The settings of a service for callers on the same host, on any free port. -/
def loopback : Settings :=
  { bind := "127.0.0.1", port := 0 }

def address (settings : Settings) : String :=
  settings.bind ++ ":" ++ toString settings.port.toNat

/-! ## Reading -/

/-- The variables that settings are read from. -/
def variableNames : List String :=
  ["SLOTWIRE_BIND", "SLOTWIRE_PORT", "SLOTWIRE_AT_MOST_ONCE", "SLOTWIRE_LOSS_RATE",
    "SLOTWIRE_LOSS_SEED", "SLOTWIRE_CACHE_TTL_SECS", "SLOTWIRE_RECV_TIMEOUT_MS",
    "SLOTWIRE_METRICS_PORT"]

/-- The values of the variables that are set. -/
abbrev Environment := String → Option String

/-- The trimmed value of a variable, as `read?` reads it. -/
def valueOf? {α : Type} (environment : Environment) (name : String)
    (read? : List Char → Option α) : Option α :=
  (environment name).bind fun text => read? (Text.trim text.toList)

/-- A word that turns something on or off, in any case of its letters. -/
def readSwitch? (text : List Char) : Option Bool :=
  let word := String.ofList (text.map Char.toLower)
  if word ∈ ["1", "true", "yes", "on"] then some true
  else if word ∈ ["0", "false", "no", "off"] then some false
  else none

def readPort? (text : List Char) : Option UInt16 :=
  (Text.readBelow? UInt16.size text).map .ofNat

/-- The nearest number from 0 to 1. -/
def clampRate (rate : Float) : Float :=
  if rate < 0.0 then 0.0 else if 1.0 < rate then 1.0 else rate

/-- The settings that an environment makes. -/
def ofEnvironment (environment : Environment) : Settings :=
  let standard : Settings := {}
  { bind := (environment "SLOTWIRE_BIND").getD standard.bind
    port := (valueOf? environment "SLOTWIRE_PORT" readPort?).getD standard.port
    atMostOnce :=
      (valueOf? environment "SLOTWIRE_AT_MOST_ONCE" readSwitch?).getD standard.atMostOnce
    lossRate :=
      ((valueOf? environment "SLOTWIRE_LOSS_RATE" Text.readFloat?).map clampRate).getD
        standard.lossRate
    lossSeed :=
      (valueOf? environment "SLOTWIRE_LOSS_SEED" (Text.readBelow? UInt64.size)).map .ofNat
    replyLifetime :=
      ((valueOf? environment "SLOTWIRE_CACHE_TTL_SECS" (Text.readBelow? UInt64.size)).map
        fun seconds => min (seconds * Limits.second) Limits.replyLifetime).getD
          standard.replyLifetime
    receiveTimeout :=
      ((valueOf? environment "SLOTWIRE_RECV_TIMEOUT_MS" (Text.readBelow? UInt64.size)).map
        (· * Limits.millisecond)).getD standard.receiveTimeout
    sweepInterval := standard.sweepInterval
    metricsPort := valueOf? environment "SLOTWIRE_METRICS_PORT" readPort? }

/-! ## Reporting -/

/-- Where the counters can be read. -/
def metricsUrl (port : UInt16) : String :=
  s!"http://0.0.0.0:{port}/metrics"

/-- What is reported before the service listens. -/
def metricsNotice (settings : Settings) : List String :=
  match settings.metricsPort with
  | some port => ["metrics endpoint: " ++ metricsUrl port]
  | none => []

/-- What is reported when the service listens at `address`. -/
def listeningNotice (settings : Settings) (address : String) : List String :=
  ["  recv_timeout: " ++ Text.durationText settings.receiveTimeout,
    "  metrics: " ++ (settings.metricsPort.map metricsUrl).getD "disabled",
    "slotwire listening on udp://" ++ address,
    s!"  at_most_once: {settings.atMostOnce}",
    "  loss_rate: " ++ Text.floatText settings.lossRate,
    "  cache_ttl: " ++ Text.durationText settings.replyLifetime]

/-- What is reported when the service ends. -/
def closingNotice : List String :=
  ["shutdown signal received, stopping receive loop", "slotwire stopped"]

end Settings

/-- How long a caller waits for a reply, and how often it sends again. -/
structure RetryPolicy where
  /-- How long one attempt waits, in nanoseconds. -/
  timeout : Nat := 1000 * Limits.millisecond
  /-- How often the request is sent again after the first time. -/
  retries : UInt32 := 3
  deriving DecidableEq, Repr

end FacilityBooking
