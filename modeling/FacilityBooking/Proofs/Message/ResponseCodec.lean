import FacilityBooking.Proofs.Datagram.Cutting
import FacilityBooking.Proofs.Message.Replies

/-!
# The encoding of responses

A response whose parts fit into their fields is read from its encoding and from nothing
shorter, and apart from the word that confirms a monitor nothing is accepted but encodings
of such responses.
-/

namespace FacilityBooking

namespace Response

theorem cuttable_reader (operation : Operation) : (reader operation).Cuttable := by
  cases operation with
  | queryAvailability => exact .bind .intervals fun _ => .pure _
  | book | incrementUsage => exact .bind FieldReader.Sized.int64.cuttable fun _ => .pure _
  | changeBooking => exact .bind .interval fun _ => .pure _
  | monitor => exact .bind FieldReader.Sized.word16.cuttable fun _ => .pure _
  | resetDay => exact .bind FieldReader.Sized.word32.cuttable fun _ => .pure _

/-- The encoding of responses is exact. What encodes a response whose times are valid and
whose intervals are at most 65535 is read as this response, whatever follows it, and it
misses bytes if any are cut off. Whatever is accepted is read as such a response to the
operation, and it begins with the encoding of this response unless it confirms a monitor,
which any word does. -/
theorem response_codec_exact :
    (∀ response : Response, response.Sendable →
      (∀ rest, decode response.operation (response.payload ++ rest) = .ok response) ∧
      ∀ cut, cut <+: response.payload → cut ≠ response.payload →
        ∃ needed remaining,
          decode response.operation cut = .error (.truncated needed remaining)) ∧
    ∀ (operation : Operation) (bytes : Bytes) (response : Response),
      decode operation bytes = .ok response →
        response.operation = operation ∧ response.Sendable ∧
        (operation ≠ .monitor → response.payload <+: bytes) := by
  constructor
  · intro response hsendable
    constructor
    · exact fun rest => FieldReader.value?_eq_ok_iff.mpr ⟨rest, reader_append hsendable rest⟩
    · intro cut hfront hne
      have hread := reader_payload hsendable
      exact (cuttable_reader response.operation).runsShort_of_cut hread hfront hne
  · intro operation bytes response hdecode
    obtain ⟨rest, hread⟩ := FieldReader.value?_eq_ok_iff.mp hdecode
    by_cases hoperation : operation = .monitor
    · subst hoperation
      obtain ⟨rfl, -⟩ := reader_monitor_eq_ok_iff.mp hread
      exact ⟨rfl, trivial, fun hne => absurd rfl hne⟩
    · obtain ⟨hkind, hsendable, rfl⟩ := (reader_eq_ok_iff hoperation).mp hread
      exact ⟨hkind, hsendable, fun _ => List.prefix_append _ _⟩

end Response

end FacilityBooking
