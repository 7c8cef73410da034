import FacilityBooking.Datagram.Header
import FacilityBooking.Proofs.Datagram.Cutting

/-!
# Framing

What is framed is read back whole, and a datagram has a header and a payload exactly
if it is long enough for both. It then begins with the two as they are framed, and a
complete datagram is nothing more.
-/

namespace FacilityBooking

namespace Header

variable {header : Header} {datagram rest : Bytes}

/-- A header is read from the bytes that begin with its encoding, and from no others. -/
theorem reader_eq_ok_iff :
    reader datagram = (.ok header, rest) ↔ datagram = header.bytes ++ rest := by
  constructor
  · intro hread
    simp only [reader, FieldReader.bind_eq_ok_iff, FieldReader.word16_eq_ok_iff,
      FieldReader.word32_eq_ok_iff, FieldReader.pure_eq_ok_iff] at hread
    obtain ⟨version, _, rfl, operation, _, rfl, requestId, _, rfl, flags, _, rfl, length, _, rfl,
      rfl, rfl⟩ := hread
    simp only [bytes, List.append_assoc]
  · rintro rfl
    exact reader_append header rest

theorem decode_eq_ok_iff :
    decode datagram = .ok header ↔ ∃ rest, datagram = header.bytes ++ rest := by
  constructor
  · intro hdecode
    unfold decode at hdecode
    split at hdecode
    · cases hdecode
    · obtain ⟨rest, hread⟩ := FieldReader.value?_eq_ok_iff.mp hdecode
      exact ⟨rest, reader_eq_ok_iff.mp hread⟩
  · rintro ⟨rest, rfl⟩
    exact decode_append header rest

end Header

namespace Datagram

/-- The payload length that stands in the last four of the sixteen bytes of a header. -/
def announced (datagram : Bytes) : Nat :=
  FieldReader.joinWord32 (datagram.getD 12 0) (datagram.getD 13 0) (datagram.getD 14 0)
    (datagram.getD 15 0)

/-- Sixteen bytes are always a header. -/
theorem decode_of_length {datagram : Bytes} (hlength : Header.size ≤ datagram.length) :
    ∃ header, Header.decode datagram = .ok header ∧
      header.payloadLength.toNat = announced datagram := by
  unfold Header.size at hlength
  obtain ⟨version, hversion⟩ := FieldReader.Sized.word16.reads_of_length datagram (by omega)
  obtain ⟨operation, hoperation⟩ := FieldReader.Sized.word16.reads_of_length (datagram.drop 2)
    (by rw [List.length_drop]; omega)
  obtain ⟨requestId, hrequestId, -⟩ := FieldReader.word32_of_length (datagram.drop 4)
    (by rw [List.length_drop]; omega)
  obtain ⟨flags, hflags, -⟩ := FieldReader.word32_of_length (datagram.drop 8)
    (by rw [List.length_drop]; omega)
  obtain ⟨payloadLength, hpayloadLength, hvalue⟩ :=
    FieldReader.word32_of_length (datagram.drop 12) (by rw [List.length_drop]; omega)
  rw [List.drop_drop] at hoperation hrequestId hflags hpayloadLength
  refine ⟨⟨version, operation, requestId, flags, payloadLength⟩, ?_, ?_⟩
  · rw [Header.decode, Header.size, if_neg (Nat.not_lt_of_le hlength)]
    simp only [FieldReader.value?, Header.reader, bind, pure, hversion, hoperation, hrequestId,
      hflags, hpayloadLength]
  · simp only [hvalue, announced, List.getD_eq_getElem?_getD, List.getElem?_drop]

theorem split_eq_error_iff {datagram : Bytes} :
    (∃ cause, split datagram = .error cause) ↔
      datagram.length < 16 ∨ datagram.length - 16 < announced datagram := by
  unfold split
  by_cases hshort : datagram.length < 16
  · rw [Header.decode, Header.size, if_pos hshort]
    exact iff_of_true ⟨_, rfl⟩ (.inl hshort)
  · obtain ⟨header, hheader, hannounced⟩ := decode_of_length (Nat.le_of_not_lt hshort)
    rw [hheader]
    dsimp only
    rw [hannounced, List.length_drop, Header.size]
    constructor
    · rintro ⟨cause, hcause⟩
      split at hcause
      · next hmissing => exact .inr hmissing
      · cases hcause
    · rintro (hlength | hmissing)
      · exact absurd hlength hshort
      · exact ⟨_, if_pos hmissing⟩

/-- The header of a datagram is that at its front, and its payload is no longer than a
length field can announce. -/
theorem decode_of_split {datagram : Bytes} {header : Header} {payload : Bytes}
    (hsplit : split datagram = .ok (header, payload)) :
    Header.decode datagram = .ok header ∧ payload.length < 0x100000000 := by
  unfold split at hsplit
  cases hheader : Header.decode datagram with
  | error cause =>
      rw [hheader] at hsplit
      cases hsplit
  | ok found =>
      rw [hheader] at hsplit
      dsimp only at hsplit
      split at hsplit
      · cases hsplit
      · cases hsplit
        refine ⟨rfl, ?_⟩
        exact Nat.lt_of_le_of_lt (List.length_take_le _ _) header.payloadLength.toNat_lt

/-! ## Reading what was framed -/

@[simp]
theorem decode_frame (header : Header) (payload : Bytes) :
    Header.decode (frame header payload) =
      .ok { header with payloadLength := .ofNat payload.length } :=
  Header.decode_append _ payload

/-- A header and the payload that it announces are split from whatever follows them. -/
theorem split_append {header : Header} {payload : Bytes}
    (hannounced : header.payloadLength.toNat = payload.length) (trailing : Bytes) :
    split (header.bytes ++ payload ++ trailing) = .ok (header, payload) := by
  have hdrop : (header.bytes ++ (payload ++ trailing)).drop Header.size = payload ++ trailing :=
    List.drop_left' header.length_bytes
  rw [split, List.append_assoc, Header.decode_append]
  dsimp only
  rw [hdrop, hannounced, if_neg (by rw [List.length_append]; omega), List.take_left]

/-- A payload that is not too long for the length field is read back whole, whatever follows
the datagram. -/
theorem split_frame_append (header : Header) {payload : Bytes}
    (hlength : payload.length < 0x100000000) (trailing : Bytes) :
    split (frame header payload ++ trailing) =
      .ok ({ header with payloadLength := .ofNat payload.length }, payload) :=
  split_append (UInt32.toNat_ofNat_of_lt' hlength) trailing

theorem split_frame (header : Header) {payload : Bytes} (hlength : payload.length < 0x100000000) :
    split (frame header payload) =
      .ok ({ header with payloadLength := .ofNat payload.length }, payload) := by
  have hsplit := split_frame_append header hlength []
  rwa [List.append_nil] at hsplit

/-- The datagram is a header of version 1 and the payload that this header announces, with
nothing behind it, and takes at most 4338 bytes. -/
structure Complete (datagram : Bytes) (header : Header) (payload : Bytes) : Prop where
  split_eq : split datagram = .ok (header, payload)
  length_eq : datagram.length = 16 + header.payloadLength.toNat
  length_le : datagram.length ≤ 4338
  version_eq : header.version = 1

/-- What is framed with a payload of moderate length is complete. -/
theorem complete_frame {header : Header} {payload : Bytes} (hversion : header.version = 1)
    (hlength : payload.length ≤ 4322) :
    Complete (frame header payload) { header with payloadLength := .ofNat payload.length }
      payload := by
  have hframe : (frame header payload).length = 16 + payload.length := List.length_append
  have hannounced : (UInt32.ofNat payload.length).toNat = payload.length :=
    UInt32.toNat_ofNat_of_lt' (Nat.lt_of_le_of_lt hlength (by decide))
  exact ⟨split_frame header (Nat.lt_of_le_of_lt hlength (by decide)),
    by rw [hframe, hannounced], by omega, hversion⟩

/-! ## Framing what was read -/

theorem split_of_short {datagram : Bytes} (hshort : datagram.length < 16) :
    split datagram = .error (.truncated 16 datagram.length) := by
  rw [split, Header.decode, Header.size, if_pos hshort]

theorem split_of_missing {datagram : Bytes} (hlength : 16 ≤ datagram.length)
    (hmissing : datagram.length - 16 < announced datagram) :
    ∃ advertised, advertised.toNat = announced datagram ∧
      split datagram = .error (.payloadLength advertised (datagram.length - 16)) := by
  obtain ⟨header, hheader, hannounced⟩ := decode_of_length hlength
  refine ⟨header.payloadLength, hannounced, ?_⟩
  rw [split, hheader]
  dsimp only
  rw [List.length_drop, Header.size, hannounced, if_pos hmissing]

/-- A datagram that is long enough begins with its header and its payload as they are framed. -/
theorem split_of_whole {datagram : Bytes} (hlength : 16 ≤ datagram.length)
    (hwhole : announced datagram ≤ datagram.length - 16) :
    ∃ header payload, split datagram = .ok (header, payload) ∧
      header.payloadLength.toNat = announced datagram ∧ frame header payload <+: datagram ∧
      (frame header payload).length = 16 + header.payloadLength.toNat := by
  obtain ⟨header, hheader, hannounced⟩ := decode_of_length hlength
  obtain ⟨body, rfl⟩ := Header.decode_eq_ok_iff.mp hheader
  rw [← hannounced, List.length_append, Header.length_bytes] at hwhole
  have hpayload : (body.take header.payloadLength.toNat).length = header.payloadLength.toNat :=
    List.length_take_of_le (by unfold Header.size at hwhole; omega)
  have hsplit := split_append hpayload.symm (body.drop header.payloadLength.toNat)
  have hframe : frame header (body.take header.payloadLength.toNat) =
      header.bytes ++ body.take header.payloadLength.toNat := by
    rw [frame, hpayload, UInt32.ofNat_toNat]
  rw [List.append_assoc, List.take_append_drop] at hsplit
  refine ⟨header, _, hsplit, hannounced, ?_, ?_⟩
  · rw [hframe]
    exact (List.prefix_append_right_inj _).mpr (List.take_prefix _ _)
  · rw [hframe, List.length_append, hpayload, Header.length_bytes]
    rfl

/-- A payload that the length field can announce is framed and read back whole, with its
header, whatever follows. And every datagram is judged by lengths alone: it is too short
for a header, or for the payload that its header announces, or else it begins with the frame
of the header and the payload that are read from it. -/
theorem framing_exact :
    (∀ (header : Header) (payload trailing : Bytes), payload.length < 0x100000000 →
      split (frame header payload ++ trailing) =
          .ok ({ header with payloadLength := .ofNat payload.length }, payload) ∧
        (UInt32.ofNat payload.length).toNat = payload.length) ∧
    ∀ datagram : Bytes,
      (datagram.length < 16 → split datagram = .error (.truncated 16 datagram.length)) ∧
      (16 ≤ datagram.length → datagram.length - 16 < announced datagram →
        ∃ advertised, advertised.toNat = announced datagram ∧
          split datagram = .error (.payloadLength advertised (datagram.length - 16))) ∧
      (16 ≤ datagram.length → announced datagram ≤ datagram.length - 16 →
        ∃ header payload, split datagram = .ok (header, payload) ∧
          header.payloadLength.toNat = announced datagram ∧ frame header payload <+: datagram ∧
          (frame header payload).length = 16 + header.payloadLength.toNat) := by
  constructor
  · intro header payload trailing hlength
    exact ⟨split_frame_append header hlength trailing, UInt32.toNat_ofNat_of_lt' hlength⟩
  · intro datagram
    exact ⟨split_of_short, split_of_missing, split_of_whole⟩

end Datagram

end FacilityBooking
