import FacilityBooking.Proofs.Message.Requests

/-!
# The encoding of requests

A request has one encoding unless one of its texts is too long, the encoding holds that
request and nothing shorter does, and nothing is accepted but encodings of requests with
valid times.
-/

namespace FacilityBooking

namespace Field

variable {rest otherRest : Bytes}

/-! ## What is written determines what was written -/

theorem textBytes_append_inj {text other : String} {written otherWritten : Bytes}
    (hwritten : textBytes text = .ok written) (hother : textBytes other = .ok otherWritten)
    (happend : written ++ rest = otherWritten ++ otherRest) : text = other ∧ rest = otherRest := by
  have hread : FieldReader.text (written ++ rest) = (.ok text, rest) :=
    FieldReader.text_eq_ok_iff.mpr ⟨written, hwritten, rfl⟩
  rw [FieldReader.text_eq_ok_iff.mpr ⟨otherWritten, hother, happend⟩] at hread
  cases hread
  exact ⟨rfl, rfl⟩

theorem dayByte_inj {day other : Day} (hbyte : dayByte day = dayByte other) : day = other := by
  have hread : FieldReader.day [dayByte day] = (.ok day, []) := FieldReader.day_eq_ok_iff.mpr rfl
  rw [hbyte, FieldReader.day_eq_ok_iff.mpr rfl] at hread
  cases hread
  rfl

/-- The bytes of a time are those of no other, whether its hour and minute are valid or not. -/
theorem timeBytes_append_inj {time other : WeekTime}
    (happend : timeBytes time ++ rest = timeBytes other ++ otherRest) :
    time = other ∧ rest = otherRest := by
  obtain ⟨day, hour, minute⟩ := time
  obtain ⟨otherDay, otherHour, otherMinute⟩ := other
  simp only [timeBytes, List.cons_append, List.nil_append, List.cons.injEq] at happend
  obtain ⟨hday, rfl, rfl, rfl⟩ := happend
  rw [dayByte_inj hday]
  exact ⟨rfl, rfl⟩

theorem word32Bytes_append_inj {value other : UInt32}
    (happend : word32Bytes value ++ rest = word32Bytes other ++ otherRest) :
    value = other ∧ rest = otherRest := by
  have hread := FieldReader.word32_append value rest
  rw [happend, FieldReader.word32_append] at hread
  cases hread
  exact ⟨rfl, rfl⟩

theorem int64Bytes_append_inj {value other : Int64}
    (happend : int64Bytes value ++ rest = int64Bytes other ++ otherRest) :
    value = other ∧ rest = otherRest := by
  have hread := FieldReader.int64_append value rest
  rw [happend, FieldReader.int64_append] at hread
  cases hread
  exact ⟨rfl, rfl⟩

end Field

namespace Request

variable {request other : Request} {payload otherPayload rest otherRest : Bytes}

/-- No bytes begin with the encodings of two requests of one operation. -/
theorem eq_of_payload_append (hkind : other.operation = request.operation)
    (hpayload : request.payload = .ok payload) (hother : other.payload = .ok otherPayload)
    (happend : payload ++ rest = otherPayload ++ otherRest) : other = request := by
  cases request with
  | queryAvailability facility day | resetDay facility day =>
      cases other <;> cases hkind
      obtain ⟨written, hwritten, hpayload⟩ := Field.textBytes_bind_eq_ok_iff.mp hpayload
      obtain ⟨otherWritten, hotherWritten, hother⟩ := Field.textBytes_bind_eq_ok_iff.mp hother
      cases hpayload
      cases hother
      simp only [List.append_assoc] at happend
      obtain ⟨rfl, hdays⟩ := Field.textBytes_append_inj hwritten hotherWritten happend
      rw [Field.dayByte_inj (List.cons.inj hdays).1]
  | book facility user start stop =>
      cases other <;> cases hkind
      obtain ⟨written, hwritten, hpayload⟩ := Field.textBytes_bind_eq_ok_iff.mp hpayload
      obtain ⟨writtenUser, huser, hpayload⟩ := Field.textBytes_bind_eq_ok_iff.mp hpayload
      obtain ⟨otherWritten, hotherWritten, hother⟩ := Field.textBytes_bind_eq_ok_iff.mp hother
      obtain ⟨otherUser, hotherUser, hother⟩ := Field.textBytes_bind_eq_ok_iff.mp hother
      cases hpayload
      cases hother
      simp only [List.append_assoc] at happend
      obtain ⟨rfl, hbehind⟩ := Field.textBytes_append_inj hwritten hotherWritten happend
      obtain ⟨rfl, htimes⟩ := Field.textBytes_append_inj huser hotherUser hbehind
      obtain ⟨rfl, hstop⟩ := Field.timeBytes_append_inj htimes
      obtain ⟨rfl, -⟩ := Field.timeBytes_append_inj hstop
      rfl
  | changeBooking booking offset =>
      cases other <;> cases hkind
      cases hpayload
      cases hother
      simp only [List.append_assoc] at happend
      obtain ⟨rfl, hwords⟩ := Field.int64Bytes_append_inj happend
      obtain ⟨hoffset, -⟩ := Field.word32Bytes_append_inj hwords
      exact congrArg (changeBooking booking) (congrArg UInt32.toInt32 hoffset).symm
  | monitor facility seconds port =>
      cases other <;> cases hkind
      obtain ⟨written, hwritten, hpayload⟩ := Field.textBytes_bind_eq_ok_iff.mp hpayload
      obtain ⟨otherWritten, hotherWritten, hother⟩ := Field.textBytes_bind_eq_ok_iff.mp hother
      cases hpayload
      cases hother
      simp only [List.append_assoc] at happend
      obtain ⟨rfl, hwords⟩ := Field.textBytes_append_inj hwritten hotherWritten happend
      obtain ⟨rfl, hport⟩ := Field.word32Bytes_append_inj hwords
      obtain ⟨rfl, -⟩ := Field.word32Bytes_append_inj hport
      rfl
  | incrementUsage facility =>
      cases other <;> cases hkind
      obtain ⟨rfl, -⟩ := Field.textBytes_append_inj hpayload hother happend
      rfl

/-! ## Cutting encodings -/

theorem cuttable_reader (operation : Operation) : (reader operation).Cuttable := by
  cases operation with
  | queryAvailability | resetDay => exact .bind .text fun _ => .bind .day fun _ => .pure _
  | book =>
      exact .bind .text fun _ => .bind .text fun _ => .bind .time fun _ => .bind .time fun _ =>
        .pure _
  | changeBooking =>
      exact .bind FieldReader.Sized.int64.cuttable fun _ =>
        .bind FieldReader.Sized.word32.cuttable fun _ => .pure _
  | monitor =>
      exact .bind .text fun _ => .bind FieldReader.Sized.word32.cuttable fun _ =>
        .bind FieldReader.Sized.word32.cuttable fun _ => .pure _
  | incrementUsage => exact .bind .text fun _ => .pure _

/-- What was cut off an encoding is missed. -/
theorem decode_cut (hvalid : request.Valid) (hpayload : request.payload = .ok payload)
    {cut : Bytes} (hfront : cut <+: payload) (hne : cut ≠ payload) :
    ∃ needed remaining, decode request.operation cut = .error (.truncated needed remaining) := by
  have hread := reader_eq_ok_iff.mpr ⟨rfl, hvalid, payload, hpayload, (List.append_nil _).symm⟩
  exact (cuttable_reader request.operation).runsShort_of_cut hread hfront hne

/-- A text that was written has a length that its field can announce. -/
theorem short_of_payload (hpayload : request.payload = .ok payload) {text : String}
    (htext : text ∈ request.texts) : text.utf8ByteSize ≤ Field.maxTextBytes := by
  apply Nat.le_of_not_lt
  intro hlong
  have hsome : (request.texts.find?
      fun text => Field.maxTextBytes < text.utf8ByteSize).isSome :=
    List.find?_isSome.mpr ⟨text, htext, by simpa using hlong⟩
  obtain ⟨long, hfound⟩ := Option.isSome_iff_exists.mp hsome
  cases hpayload.symm.trans (payload_eq_error_iff.mpr ⟨long, hfound, rfl⟩)

/-- The encoding of requests is exact. A request lacks one exactly if a text is too long,
and the error names the length of the first such text. What encodes a request with valid
times is read as this request, whatever follows it, and it misses bytes if any are cut off.
Two requests of an operation never share an encoding. Whatever is accepted begins with the
encoding of the request that is read, which has valid times and short texts, and with that
of no other request. -/
theorem request_codec_exact :
    (∀ (request : Request) (cause : FormatError), request.payload = .error cause ↔
      ∃ text, request.texts.find? (fun text => 65535 < text.utf8ByteSize) = some text ∧
        cause = .textTooLong text.utf8ByteSize) ∧
    (∀ (request : Request) (payload : Bytes), request.Valid → request.payload = .ok payload →
      (∀ rest, decode request.operation (payload ++ rest) = .ok request) ∧
      ∀ cut, cut <+: payload → cut ≠ payload →
        ∃ needed remaining,
          decode request.operation cut = .error (.truncated needed remaining)) ∧
    (∀ (request other : Request) (payload : Bytes), other.operation = request.operation →
      request.payload = .ok payload → other.payload = .ok payload → other = request) ∧
    ∀ (operation : Operation) (bytes : Bytes) (request : Request),
      decode operation bytes = .ok request →
        request.operation = operation ∧ request.Valid ∧
        (∀ text ∈ request.texts, text.utf8ByteSize ≤ 65535) ∧
        (∃ payload, request.payload = .ok payload ∧ payload <+: bytes) ∧
        ∀ (other : Request) (payload : Bytes), other.operation = operation →
          other.payload = .ok payload → payload <+: bytes → other = request := by
  refine ⟨fun _ _ => payload_eq_error_iff, ?_, ?_, ?_⟩
  · intro request payload hvalid hpayload
    exact ⟨decode_append hvalid hpayload, fun cut => decode_cut hvalid hpayload⟩
  · intro request other payload hkind hpayload hother
    have happend : payload ++ [] = payload ++ [] := rfl
    exact eq_of_payload_append hkind hpayload hother happend
  · intro operation bytes request hdecode
    obtain ⟨rest, hread⟩ := FieldReader.value?_eq_ok_iff.mp hdecode
    obtain ⟨rfl, hvalid, payload, hpayload, rfl⟩ := reader_eq_ok_iff.mp hread
    refine ⟨rfl, hvalid, fun text => short_of_payload hpayload, ?_, ?_⟩
    · exact ⟨payload, hpayload, List.prefix_append payload rest⟩
    · rintro other otherPayload hkind hother ⟨otherRest, happend⟩
      exact eq_of_payload_append hkind hpayload hother happend.symm

end Request

end FacilityBooking
