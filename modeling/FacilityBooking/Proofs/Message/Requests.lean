import FacilityBooking.Message.Request
import FacilityBooking.Proofs.Datagram.Cutting
import FacilityBooking.Proofs.Message.Wording

/-!
# Reading requests

A payload is read as a request of an operation exactly if it begins with the encoding of
one whose times are valid, and if it is not read there is a brief cause. A request lacks an
encoding exactly if one of its texts is too long.
-/

namespace FacilityBooking

namespace FieldReader

/-- The reader never gives bytes back, and it names no large numbers when it fails on
bytes that are not many. -/
structure Tame {α : Type} (reader : FieldReader α) : Prop where
  shrinks : ∀ bytes, (reader bytes).2.length ≤ bytes.length
  brief : ∀ bytes cause, FacilityBooking.Brief bytes.length →
    (reader bytes).1 = .error cause → cause.Brief

namespace Tame

variable {α β : Type} {reader : FieldReader α} {next : α → FieldReader β}

theorem pure (value : α) : Tame (Pure.pure value : FieldReader α) where
  shrinks _ := Nat.le_refl _
  brief _ _ _ hfail := nomatch hfail

theorem bind (hfirst : Tame reader) (hnext : ∀ value, Tame (next value)) :
    Tame (reader >>= next) where
  shrinks bytes := by
    have hshrinks := hfirst.shrinks bytes
    simp only [Bind.bind]
    split
    · next value rest hread =>
        rw [hread] at hshrinks
        exact Nat.le_trans ((hnext value).shrinks rest) hshrinks
    · next cause rest hread =>
        rw [hread] at hshrinks
        exact hshrinks
  brief bytes cause hbytes hfail := by
    have hshrinks := hfirst.shrinks bytes
    simp only [Bind.bind] at hfail
    split at hfail
    · next value rest hread =>
        rw [hread] at hshrinks
        exact (hnext value).brief rest cause (Nat.lt_of_le_of_lt hshrinks hbytes) hfail
    · next found rest hread =>
        cases hfail
        exact hfirst.brief bytes _ hbytes (congrArg Prod.fst hread)

theorem ofExcept {outcome : Except FormatError α}
    (hbrief : ∀ cause, outcome = .error cause → cause.Brief) :
    Tame (FieldReader.ofExcept outcome) where
  shrinks _ := Nat.le_refl _
  brief _ cause _ hfail := hbrief cause hfail

/-- A reader that takes a brief number of bytes is tame. -/
theorem of_sized {count : Nat} (hsized : reader.Sized count)
    (hcount : FacilityBooking.Brief count) : Tame reader where
  shrinks bytes := by
    rcases hsized.reads_or_misses bytes with ⟨value, hread⟩ | hread
    · rw [hread, List.length_drop]
      exact Nat.sub_le _ _
    · exact Nat.le_of_eq (congrArg (fun read => read.2.length) hread)
  brief bytes cause hbytes hfail := by
    rcases hsized.reads_or_misses bytes with ⟨value, hread⟩ | hread
    · rw [hread] at hfail
      cases hfail
    · rw [hread] at hfail
      cases hfail
      exact ⟨hcount, hbytes⟩

theorem byte : Tame FieldReader.byte :=
  of_sized .byte (by decide)

theorem word16 : Tame FieldReader.word16 :=
  of_sized .word16 (by decide)

theorem word32 : Tame FieldReader.word32 :=
  of_sized .word32 (by decide)

theorem int64 : Tame FieldReader.int64 :=
  of_sized .int64 (by decide)

theorem text : Tame FieldReader.text := by
  apply word16.bind
  intro length
  apply (of_sized (.take _) (Nat.lt_trans length.toNat_lt (by decide))).bind
  intro bytes
  apply ofExcept
  intro cause hcause
  unfold decodeText at hcause
  split at hcause
  · cases hcause
  · cases hcause
    trivial

theorem day : Tame FieldReader.day := by
  refine byte.bind fun value => ofExcept fun cause hcause => ?_
  unfold Day.ofByte at hcause
  split at hcause
  · cases hcause
  · cases hcause
    trivial

theorem time : Tame FieldReader.time := by
  refine day.bind fun day => byte.bind fun hour => byte.bind fun minute => ?_
  apply ofExcept
  intro cause hcause
  unfold WeekTime.ofParts at hcause
  split at hcause
  · cases hcause
    trivial
  · split at hcause
    · cases hcause
      trivial
    · cases hcause

end Tame

end FieldReader

namespace Request

theorem tame_reader (operation : Operation) : (reader operation).Tame := by
  cases operation with
  | queryAvailability => exact .bind .text fun _ => .bind .day fun _ => .pure _
  | book =>
      exact .bind .text fun _ => .bind .text fun _ => .bind .time fun _ => .bind .time fun _ =>
        .pure _
  | changeBooking => exact .bind .int64 fun _ => .bind .word32 fun _ => .pure _
  | monitor => exact .bind .text fun _ => .bind .word32 fun _ => .bind .word32 fun _ => .pure _
  | resetDay => exact .bind .text fun _ => .bind .day fun _ => .pure _
  | incrementUsage => exact .bind .text fun _ => .pure _

theorem brief_of_decode {operation : Operation} {payload : Bytes} {cause : FormatError}
    (hpayload : FacilityBooking.Brief payload.length)
    (hdecode : decode operation payload = .error cause) : cause.Brief :=
  (tame_reader operation).brief payload cause hpayload hdecode

end Request

/-! ## Encodings -/

theorem Field.length_textBytes_le {text : String} {written : Bytes}
    (hwritten : textBytes text = .ok written) : written.length ≤ 65537 := by
  unfold textBytes maxTextBytes at hwritten
  split at hwritten
  · next hsize =>
      cases hwritten
      simp only [word16Bytes, List.length_append, List.length_cons, List.length_nil, length_utf8]
      omega
  · cases hwritten

theorem Field.textBytes_eq_error_iff {text : String} {cause : FormatError} :
    textBytes text = .error cause ↔
      maxTextBytes < text.utf8ByteSize ∧ cause = .textTooLong text.utf8ByteSize := by
  unfold textBytes
  split
  · next hsize => exact iff_of_false nofun fun hlong => Nat.not_lt_of_le hsize hlong.1
  · next hsize =>
      rw [Except.error.injEq, eq_comm, and_iff_right (Nat.lt_of_not_le hsize)]

theorem Field.textBytes_bind_eq_ok_iff {α : Type} {text : String}
    {next : Bytes → Except FormatError α} {value : α} :
    (textBytes text >>= next) = .ok value ↔
      ∃ written, textBytes text = .ok written ∧ next written = .ok value := by
  cases hwritten : textBytes text with
  | error cause => exact iff_of_false nofun fun ⟨_, hwritten, _⟩ => nomatch hwritten
  | ok written => exact ⟨fun hnext => ⟨_, rfl, hnext⟩, fun ⟨_, rfl, hnext⟩ => hnext⟩

theorem Field.textBytes_bind_eq_error_iff {α : Type} {text : String}
    {next : Bytes → Except FormatError α} {cause : FormatError} :
    (textBytes text >>= next) = .error cause ↔
      textBytes text = .error cause ∨
        ∃ written, textBytes text = .ok written ∧ next written = .error cause := by
  cases hwritten : textBytes text with
  | error found =>
      constructor
      · intro hfail
        cases hfail
        exact .inl rfl
      · rintro (hfail | ⟨_, hwritten, -⟩)
        · cases hfail
          rfl
        · cases hwritten
  | ok written =>
      constructor
      · exact fun hnext => .inr ⟨written, rfl, hnext⟩
      · rintro (hfail | ⟨_, hwritten, hnext⟩)
        · cases hfail
        · cases hwritten
          exact hnext

/-- Every request with an encoding fits into a datagram. -/
theorem Request.length_payload_lt {request : Request} {payload : Bytes}
    (hpayload : request.payload = .ok payload) : payload.length < 0x100000000 := by
  cases request with
  | queryAvailability facility day | resetDay facility day =>
      obtain ⟨written, hwritten, hpayload⟩ := Field.textBytes_bind_eq_ok_iff.mp hpayload
      cases hpayload
      have hlength := Field.length_textBytes_le hwritten
      simp only [List.length_append, List.length_cons, List.length_nil]
      omega
  | book facility user start stop =>
      obtain ⟨written, hwritten, hpayload⟩ := Field.textBytes_bind_eq_ok_iff.mp hpayload
      obtain ⟨writtenUser, huser, hpayload⟩ := Field.textBytes_bind_eq_ok_iff.mp hpayload
      cases hpayload
      have hlength := Field.length_textBytes_le hwritten
      have huserLength := Field.length_textBytes_le huser
      simp only [Field.timeBytes, List.length_append, List.length_cons, List.length_nil]
      omega
  | changeBooking booking offset =>
      cases hpayload
      simp [Field.int64Bytes, Field.word32Bytes]
  | monitor facility seconds port =>
      obtain ⟨written, hwritten, hpayload⟩ := Field.textBytes_bind_eq_ok_iff.mp hpayload
      cases hpayload
      have hlength := Field.length_textBytes_le hwritten
      simp only [Field.word32Bytes, List.length_append, List.length_cons, List.length_nil]
      omega
  | incrementUsage facility =>
      have hlength := Field.length_textBytes_le hpayload
      omega

namespace Request

/-! ## Reading what was written -/

/-- All times of the request are times of the day. -/
def Valid : Request → Prop
  | book _ _ start stop => start.Valid ∧ stop.Valid
  | _ => True

def texts : Request → List String
  | queryAvailability facility _ | resetDay facility _ => [facility]
  | book facility user _ _ => [facility, user]
  | changeBooking .. => []
  | monitor facility _ _ => [facility]
  | incrementUsage facility => [facility]

variable {request : Request} {payload : Bytes}

/-- A request is refused an encoding for the first of its texts that is too long. -/
theorem payload_eq_error_iff {cause : FormatError} :
    request.payload = .error cause ↔
      ∃ text, request.texts.find? (fun text => Field.maxTextBytes < text.utf8ByteSize) =
        some text ∧ cause = .textTooLong text.utf8ByteSize := by
  have hnever (bytes : Bytes) : ¬ (pure bytes : Except FormatError Bytes) = .error cause := by
    intro hfail
    cases hfail
  have hsingle (text : String) : Field.textBytes text = .error cause ↔
      ∃ long, [text].find? (fun text => Field.maxTextBytes < text.utf8ByteSize) = some long ∧
        cause = .textTooLong long.utf8ByteSize := by
    rw [Field.textBytes_eq_error_iff]
    by_cases hlong : Field.maxTextBytes < text.utf8ByteSize <;> simp [hlong]
  cases request with
  | queryAvailability facility day | resetDay facility day | monitor facility seconds port =>
      simp only [Request.payload, Field.textBytes_bind_eq_error_iff, hnever, and_false,
        exists_false, or_false, texts]
      exact hsingle facility
  | book facility user start stop =>
      simp only [Request.payload, Field.textBytes_bind_eq_error_iff, hnever, and_false,
        exists_false, or_false, texts]
      by_cases hsize : facility.utf8ByteSize ≤ Field.maxTextBytes
      · -- The first text is written, so that the second one decides.
        rw [List.find?_cons_of_neg (by simpa using hsize), Field.textBytes, if_pos hsize]
        simp only [reduceCtorEq, Except.ok.injEq, false_or, exists_eq_left']
        exact hsingle user
      · rw [List.find?_cons_of_pos (by simpa using hsize), Field.textBytes, if_neg hsize]
        simp [eq_comm]
  | changeBooking booking offset =>
      constructor
      · intro hfail
        cases hfail
      · rintro ⟨text, hfound, -⟩
        cases hfound
  | incrementUsage facility => exact hsingle facility

/-- A request whose texts fit into their length fields has an encoding. -/
theorem exists_payload
    (hshort : ∀ text ∈ request.texts, text.utf8ByteSize ≤ Field.maxTextBytes) :
    ∃ payload, request.payload = .ok payload := by
  cases hpayload : request.payload with
  | ok payload => exact ⟨payload, rfl⟩
  | error cause =>
      obtain ⟨text, hfound, -⟩ := payload_eq_error_iff.mp hpayload
      have hlong := List.find?_some hfound
      have hfits := hshort text (List.mem_of_find?_eq_some hfound)
      exact absurd (of_decide_eq_true hlong) (Nat.not_lt_of_le hfits)

/-- A request is read from some bytes exactly if its times are valid and the bytes begin
with its encoding. -/
theorem reader_eq_ok_iff {operation : Operation} {bytes rest : Bytes} :
    reader operation bytes = (.ok request, rest) ↔
      request.operation = operation ∧ request.Valid ∧
        ∃ payload, request.payload = .ok payload ∧ bytes = payload ++ rest := by
  cases operation with
  | queryAvailability | resetDay =>
      simp only [reader, FieldReader.bind_eq_ok_iff, FieldReader.text_eq_ok_iff,
        FieldReader.day_eq_ok_iff, FieldReader.pure_eq_ok_iff]
      constructor
      · rintro ⟨facility, _, ⟨written, hwritten, rfl⟩, day, _, rfl, rfl, rfl⟩
        refine ⟨rfl, trivial, _, Field.textBytes_bind_eq_ok_iff.mpr ⟨_, hwritten, rfl⟩, ?_⟩
        simp
      · rintro ⟨hkind, -, payload, hpayload, rfl⟩
        cases request <;> cases hkind
        obtain ⟨written, hwritten, hrest⟩ := Field.textBytes_bind_eq_ok_iff.mp hpayload
        cases hrest
        exact ⟨_, _, ⟨_, hwritten, List.append_assoc ..⟩, _, _, rfl, rfl, rfl⟩
  | book =>
      simp only [reader, FieldReader.bind_eq_ok_iff, FieldReader.text_eq_ok_iff,
        FieldReader.time_eq_ok_iff, FieldReader.pure_eq_ok_iff]
      constructor
      · rintro ⟨facility, _, ⟨written, hwritten, rfl⟩, user, _, ⟨writtenUser, huser, rfl⟩, start, _,
          ⟨hstart, rfl⟩, stop, _, ⟨hstop, rfl⟩, rfl, rfl⟩
        refine ⟨rfl, ⟨hstart, hstop⟩, _, Field.textBytes_bind_eq_ok_iff.mpr ⟨_, hwritten,
          Field.textBytes_bind_eq_ok_iff.mpr ⟨_, huser, rfl⟩⟩, ?_⟩
        simp only [List.append_assoc]
      · rintro ⟨hkind, hvalid, payload, hpayload, rfl⟩
        cases request <;> cases hkind
        obtain ⟨written, hwritten, hrest⟩ := Field.textBytes_bind_eq_ok_iff.mp hpayload
        obtain ⟨writtenUser, huser, hrest⟩ := Field.textBytes_bind_eq_ok_iff.mp hrest
        cases hrest
        simp only [List.append_assoc]
        exact ⟨_, _, ⟨_, hwritten, rfl⟩, _, _, ⟨_, huser, rfl⟩, _, _, ⟨hvalid.1, rfl⟩, _, _,
          ⟨hvalid.2, rfl⟩, rfl, rfl⟩
  | changeBooking =>
      simp only [reader, FieldReader.bind_eq_ok_iff, FieldReader.int64_eq_ok_iff,
        FieldReader.word32_eq_ok_iff, FieldReader.pure_eq_ok_iff]
      constructor
      · rintro ⟨booking, _, rfl, offset, _, rfl, rfl, rfl⟩
        exact ⟨rfl, trivial, _, rfl, (List.append_assoc ..).symm⟩
      · rintro ⟨hkind, -, payload, hpayload, rfl⟩
        cases request <;> cases hkind
        cases hpayload
        exact ⟨_, _, List.append_assoc .., _, _, rfl, rfl, rfl⟩
  | monitor =>
      simp only [reader, FieldReader.bind_eq_ok_iff, FieldReader.text_eq_ok_iff,
        FieldReader.word32_eq_ok_iff, FieldReader.pure_eq_ok_iff]
      constructor
      · rintro ⟨facility, _, ⟨written, hwritten, rfl⟩, seconds, _, rfl, port, _, rfl, rfl, rfl⟩
        refine ⟨rfl, trivial, _, Field.textBytes_bind_eq_ok_iff.mpr ⟨_, hwritten, rfl⟩, ?_⟩
        simp only [List.append_assoc]
      · rintro ⟨hkind, -, payload, hpayload, rfl⟩
        cases request <;> cases hkind
        obtain ⟨written, hwritten, hrest⟩ := Field.textBytes_bind_eq_ok_iff.mp hpayload
        cases hrest
        simp only [List.append_assoc]
        exact ⟨_, _, ⟨_, hwritten, rfl⟩, _, _, rfl, _, _, rfl, rfl, rfl⟩
  | incrementUsage =>
      simp only [reader, FieldReader.bind_eq_ok_iff, FieldReader.text_eq_ok_iff,
        FieldReader.pure_eq_ok_iff]
      constructor
      · rintro ⟨facility, _, ⟨written, hwritten, rfl⟩, rfl, rfl⟩
        exact ⟨rfl, trivial, written, hwritten, rfl⟩
      · rintro ⟨hkind, -, payload, hpayload, rfl⟩
        cases request <;> cases hkind
        exact ⟨_, _, ⟨payload, hpayload, rfl⟩, rfl, rfl⟩

/-- A request with valid times is read back from its encoding, whatever follows it. -/
theorem decode_append (hvalid : request.Valid) (hpayload : request.payload = .ok payload)
    (rest : Bytes) : decode request.operation (payload ++ rest) = .ok request :=
  have hread := reader_eq_ok_iff.mpr ⟨rfl, hvalid, payload, hpayload, rfl⟩
  FieldReader.value?_eq_ok_iff.mpr ⟨rest, hread⟩

theorem decode_payload (hvalid : request.Valid) (hpayload : request.payload = .ok payload) :
    decode request.operation payload = .ok request := by
  have hdecode := decode_append hvalid hpayload []
  rwa [List.append_nil] at hdecode

theorem operation_of_decode {operation : Operation}
    (hdecode : decode operation payload = .ok request) : request.operation = operation := by
  obtain ⟨rest, hread⟩ := FieldReader.value?_eq_ok_iff.mp hdecode
  exact (reader_eq_ok_iff.mp hread).1

end Request

end FacilityBooking
