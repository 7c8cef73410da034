import FacilityBooking.Message.Response
import FacilityBooking.Proofs.Datagram.Framing
import FacilityBooking.Proofs.Message.LongMessages

/-!
# Reading replies

Responses and error replies that fit into their fields are read back as they were, and
fit into one datagram.
-/

namespace FacilityBooking

namespace Response

/-- All parts of the response fit into their fields. -/
def Sendable : Response → Prop
  | availability intervals =>
      intervals.length < 65536 ∧ ∀ interval ∈ intervals, interval.Valid
  | changed interval => interval.Valid
  | _ => True

variable {response : Response} {bytes rest : Bytes}

theorem reader_monitor_eq_ok_iff :
    reader .monitor bytes = (.ok response, rest) ↔
      response = .monitoring ∧ ∃ word, bytes = Field.word16Bytes word ++ rest := by
  simp only [reader, FieldReader.bind_eq_ok_iff, FieldReader.word16_eq_ok_iff,
    FieldReader.pure_eq_ok_iff]
  constructor
  · rintro ⟨word, _, rfl, rfl, rfl⟩
    exact ⟨rfl, word, rfl⟩
  · rintro ⟨rfl, word, rfl⟩
    exact ⟨word, rest, rfl, rfl, rfl⟩

/-- A response is read from some bytes exactly if its parts fit into their fields and the
bytes begin with its encoding; only what confirms a monitor has other encodings. -/
theorem reader_eq_ok_iff {operation : Operation} (hoperation : operation ≠ .monitor) :
    reader operation bytes = (.ok response, rest) ↔
      response.operation = operation ∧ response.Sendable ∧ bytes = response.payload ++ rest := by
  cases operation with
  | monitor => exact absurd rfl hoperation
  | queryAvailability =>
      simp only [reader, FieldReader.bind_eq_ok_iff, FieldReader.intervals_eq_ok_iff,
        FieldReader.pure_eq_ok_iff]
      constructor
      · rintro ⟨intervals, _, ⟨hlength, hvalid, rfl⟩, rfl, rfl⟩
        exact ⟨rfl, ⟨hlength, hvalid⟩, rfl⟩
      · rintro ⟨hkind, hsendable, rfl⟩
        cases response <;> cases hkind
        exact ⟨_, _, ⟨hsendable.1, hsendable.2, rfl⟩, rfl, rfl⟩
  | book | incrementUsage =>
      simp only [reader, FieldReader.bind_eq_ok_iff, FieldReader.int64_eq_ok_iff,
        FieldReader.pure_eq_ok_iff]
      constructor
      · rintro ⟨value, _, rfl, rfl, rfl⟩
        exact ⟨rfl, trivial, rfl⟩
      · rintro ⟨hkind, -, rfl⟩
        cases response <;> cases hkind
        exact ⟨_, _, rfl, rfl, rfl⟩
  | changeBooking =>
      simp only [reader, FieldReader.bind_eq_ok_iff, FieldReader.interval_eq_ok_iff,
        FieldReader.pure_eq_ok_iff]
      constructor
      · rintro ⟨interval, _, ⟨hvalid, rfl⟩, rfl, rfl⟩
        exact ⟨rfl, hvalid, rfl⟩
      · rintro ⟨hkind, hsendable, rfl⟩
        cases response <;> cases hkind
        exact ⟨_, _, ⟨hsendable, rfl⟩, rfl, rfl⟩
  | resetDay =>
      simp only [reader, FieldReader.bind_eq_ok_iff, FieldReader.word32_eq_ok_iff,
        FieldReader.pure_eq_ok_iff]
      constructor
      · rintro ⟨removed, _, rfl, rfl, rfl⟩
        exact ⟨rfl, trivial, rfl⟩
      · rintro ⟨hkind, -, rfl⟩
        cases response <;> cases hkind
        exact ⟨_, _, rfl, rfl, rfl⟩

/-- A response whose parts fit into their fields is read back, whatever follows it. -/
theorem reader_append (hsendable : response.Sendable) (rest : Bytes) :
    reader response.operation (response.payload ++ rest) = (.ok response, rest) := by
  by_cases hoperation : response.operation = .monitor
  · cases response <;> cases hoperation
    exact reader_monitor_eq_ok_iff.mpr ⟨rfl, 1, rfl⟩
  · exact (reader_eq_ok_iff hoperation).mpr ⟨rfl, hsendable, rfl⟩

theorem reader_payload (hsendable : response.Sendable) :
    reader response.operation response.payload = (.ok response, []) := by
  have hread := reader_append hsendable []
  rwa [List.append_nil] at hread

theorem decode_payload (hsendable : response.Sendable) :
    decode response.operation response.payload = .ok response :=
  FieldReader.value?_eq_ok_iff.mpr ⟨[], reader_payload hsendable⟩

/-- The intervals that a response lists. -/
def intervals : Response → List Interval
  | availability intervals => intervals
  | _ => []

theorem length_payload_le (response : Response) :
    response.payload.length ≤ max 8 (2 + 6 * response.intervals.length) := by
  cases response with
  | availability listed =>
      have hlisted : (listed.flatMap Field.intervalBytes).length = listed.length * 6 := by
        simp only [List.length_flatMap, Field.intervalBytes, Field.timeBytes, List.length_append,
          List.length_cons, List.length_nil]
        rw [List.map_const', List.sum_replicate_nat]
      simp only [payload, Field.intervalsBytes, Field.word16Bytes, List.length_append,
        List.length_cons, List.length_nil, hlisted, intervals]
      omega
  | booked booking | usage count => exact Nat.le_max_left _ _
  | changed interval => exact Nat.le_trans (by decide : 6 ≤ 8) (Nat.le_max_left _ _)
  | monitoring => exact Nat.le_trans (by decide : 2 ≤ 8) (Nat.le_max_left _ _)
  | reset removed => exact Nat.le_trans (by decide : 4 ≤ 8) (Nat.le_max_left _ _)

/-- The response can be sent, and lists no more intervals than a day has free ones. -/
structure Fits (response : Response) : Prop where
  sendable : response.Sendable
  few : response.intervals.length ≤ 720

/-- No response takes more bytes than the free time of a day that is as scattered as it
can be. -/
theorem Fits.length_payload_le (hfits : response.Fits) : response.payload.length ≤ 4322 := by
  have hlength := response.length_payload_le
  have hfew := hfits.few
  omega

end Response

/-- A short message is read back whole, and nothing stands behind it. -/
theorem ErrorReply.reader_bytes {reply : ErrorReply}
    (hshort : reply.message.utf8ByteSize ≤ Field.maxTextBytes) :
    reader reply.bytes = (.ok reply, []) := by
  have hread := reply.reader_append []
  rwa [List.append_nil, sentMessage_of_short hshort] at hread

end FacilityBooking
