import FacilityBooking.Service.Handling

/-!
# Counters

What the service counts while it runs: requests by operation and status, replies
given again, datagrams that were no messages, and what became of the datagrams
that it sent.
-/

namespace FacilityBooking

/-- How a request ended. -/
inductive Status where
  | ok
  | replayed
  | failed (category : ErrorCategory)
  deriving DecidableEq, Repr

def Status.label : Status → String
  | ok => "ok"
  | replayed => "replayed"
  | failed category => category.label

/-- Why a datagram was not sent. -/
inductive DropReason where
  | simulated
  | sendError
  deriving DecidableEq, Repr

def DropReason.label : DropReason → String
  | simulated => "simulated"
  | sendError => "send_error"

inductive Counter where
  /-- Requests by operation, if it is known, and by how they ended. -/
  | requests (operation : Option Operation) (status : Status)
  | replays
  | malformed
  | noticesSent
  | dropped (reason : DropReason)
  deriving DecidableEq, Repr

namespace Counter

/-- The name of a counter with its labels. -/
def text : Counter → String
  | requests operation status =>
      let label := (operation.map Operation.label).getD "unknown"
      s!"slotwire_requests_total\x7bop=\"{label}\",status=\"{status.label}\"\x7d"
  | replays => "slotwire_dedup_hits_total"
  | malformed => "slotwire_malformed_datagrams_total"
  | noticesSent => "slotwire_callbacks_sent_total"
  | dropped reason => s!"slotwire_datagrams_dropped_total\x7breason=\"{reason.label}\"\x7d"

end Counter

/-- What a verdict adds to the counters. -/
def Verdict.counters : Verdict → List Counter
  | malformed _ => [.malformed]
  | replayed operation _ => [.replays, .requests operation .replayed]
  | executed operation none _ _ => [.requests operation .ok]
  | executed operation (some category) _ _ => [.requests operation (.failed category)]

/-- The counters that were ever raised, in the order in which they first were. -/
structure Tally where
  entries : List (Counter × Nat) := []
  deriving DecidableEq, Repr

namespace Tally

def empty : Tally := {}

instance : Inhabited Tally := ⟨empty⟩

/-- How often a counter was raised. -/
def count (tally : Tally) (counter : Counter) : Nat :=
  (tally.entries.lookup counter).getD 0

/-- The entries with one counter raised by one. -/
def raise (counter : Counter) : List (Counter × Nat) → List (Counter × Nat)
  | [] => [(counter, 1)]
  | (other, count) :: rest =>
      if counter = other then (other, count + 1) :: rest
      else (other, count) :: raise counter rest

def add (tally : Tally) (counter : Counter) : Tally :=
  ⟨raise counter tally.entries⟩

def addAll (tally : Tally) (counters : List Counter) : Tally :=
  counters.foldl add tally

theorem lookup_raise (counter other : Counter) (entries : List (Counter × Nat)) :
    ((raise counter entries).lookup other).getD 0 =
      (entries.lookup other).getD 0 + if other = counter then 1 else 0 := by
  induction entries with
  | nil =>
      by_cases hsame : other = counter
      · simp [raise, List.lookup_nil, hsame]
      · simp [raise, List.lookup_cons, List.lookup_nil, hsame, beq_eq_false_iff_ne.mpr hsame]
  | cons entry rest ih =>
      obtain ⟨first, count⟩ := entry
      unfold raise
      by_cases hfirst : counter = first
      · subst hfirst
        by_cases hsame : other = counter
        · simp [hsame]
        · simp [List.lookup_cons, hsame, beq_eq_false_iff_ne.mpr hsame]
      · rw [if_neg hfirst]
        by_cases hother : other = first
        · subst hother
          have hne : other ≠ counter := fun heq => hfirst heq.symm
          simp [hne]
        · simp only [List.lookup_cons, beq_eq_false_iff_ne.mpr hother]
          exact ih

end Tally

end FacilityBooking
