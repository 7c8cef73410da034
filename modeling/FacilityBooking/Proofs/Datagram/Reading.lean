import FacilityBooking.Datagram.Field

/-!
# Reading fields

A reader of a field finds a value at the front of some bytes exactly if they begin with
the encoding of that value. What was written is therefore read back, whatever follows
it, and what is read has been written in no other way.
-/

namespace FacilityBooking

theorem Field.length_utf8 (text : String) : (utf8 text).length = text.utf8ByteSize :=
  Array.length_toList

namespace FieldReader

variable {α β : Type} {reader : FieldReader α} {next : α → FieldReader β} {bytes rest : Bytes}

theorem bind_eq {first : α} (hread : reader bytes = (.ok first, rest)) :
    (reader >>= next) bytes = next first rest := by
  simp only [bind, hread]

/-- A value that is read in two steps is read by the second one from what the first
one left. -/
theorem bind_eq_ok_iff {value : β} :
    (reader >>= next) bytes = (.ok value, rest) ↔
      ∃ first middle, reader bytes = (.ok first, middle) ∧
        next first middle = (.ok value, rest) := by
  constructor
  · intro hread
    simp only [bind] at hread
    cases hfirst : reader bytes with
    | mk outcome middle =>
        rw [hfirst] at hread
        cases outcome with
        | ok first => exact ⟨first, middle, rfl, hread⟩
        | error cause => cases hread
  · rintro ⟨first, middle, hfirst, hnext⟩
    rw [bind_eq hfirst, hnext]

theorem pure_eq_ok_iff {first value : α} :
    (pure first : FieldReader α) bytes = (.ok value, rest) ↔ first = value ∧ bytes = rest := by
  simp only [pure, Prod.mk.injEq, Except.ok.injEq]

theorem ofExcept_eq_ok_iff {outcome : Except FormatError α} {value : α} :
    ofExcept outcome bytes = (.ok value, rest) ↔ outcome = .ok value ∧ bytes = rest := by
  simp only [ofExcept, Prod.mk.injEq]

theorem value?_eq_ok_iff {value : α} :
    reader.value? bytes = .ok value ↔ ∃ rest, reader bytes = (.ok value, rest) :=
  ⟨fun hvalue => ⟨_, Prod.ext hvalue rfl⟩, fun ⟨_, hread⟩ => congrArg Prod.fst hread⟩

/-- Four bytes are always a word, whose value they spell out. -/
theorem word32_of_length (bytes : Bytes) (hlength : 4 ≤ bytes.length) :
    ∃ value, word32 bytes = (.ok value, bytes.drop 4) ∧
      value.toNat = joinWord32 (bytes.getD 0 0) (bytes.getD 1 0) (bytes.getD 2 0)
        (bytes.getD 3 0) := by
  match bytes with
  | first :: second :: third :: fourth :: rest =>
      refine ⟨_, rfl, ?_⟩
      have hfirst := first.toNat_lt
      have hsecond := second.toNat_lt
      have hthird := third.toNat_lt
      have hfourth := fourth.toNat_lt
      simp only [UInt32.toNat_ofNat', List.getD_cons_zero, List.getD_cons_succ, joinWord32]
      omega
  | [_, _, _] | [_, _] | [_] | [] => simp at hlength

/-! ## Numbers -/

theorem byte_eq_ok_iff {value : UInt8} :
    byte bytes = (.ok value, rest) ↔ bytes = value :: rest := by
  cases bytes with
  | nil => simp [byte]
  | cons first others => simp [byte]

theorem word16_eq_ok_iff {value : UInt16} :
    word16 bytes = (.ok value, rest) ↔ bytes = Field.word16Bytes value ++ rest := by
  constructor
  · intro hread
    unfold word16 at hread
    split at hread
    · next high low others =>
        cases hread
        have hhigh := high.toNat_lt
        have hlow := low.toNat_lt
        have hvalue : (UInt16.ofNat (high.toNat * 0x100 + low.toNat)).toNat =
            high.toNat * 0x100 + low.toNat :=
          UInt16.toNat_ofNat_of_lt' (by change _ < 65536; omega)
        rw [Field.word16Bytes, hvalue]
        simp only [List.cons_append, List.nil_append, List.cons.injEq, and_true]
        constructor
        · apply UInt8.toNat_inj.mp
          simp
          omega
        · apply UInt8.toNat_inj.mp
          simp
    · cases hread
  · rintro rfl
    exact word16_append value rest

theorem joinWord32_lt (first second third fourth : UInt8) :
    joinWord32 first second third fourth < 0x100000000 := by
  have hfirst := first.toNat_lt
  have hsecond := second.toNat_lt
  have hthird := third.toNat_lt
  have hfourth := fourth.toNat_lt
  unfold joinWord32
  omega

/-- The number that four bytes spell out is written with the same four bytes. -/
theorem word32Bytes_join (first second third fourth : UInt8) :
    Field.word32Bytes (.ofNat (joinWord32 first second third fourth)) =
      [first, second, third, fourth] := by
  have hfirst := first.toNat_lt
  have hsecond := second.toNat_lt
  have hthird := third.toNat_lt
  have hfourth := fourth.toNat_lt
  rw [Field.word32Bytes, UInt32.toNat_ofNat_of_lt' (joinWord32_lt first second third fourth)]
  simp only [List.cons.injEq, and_true]
  refine ⟨?_, ?_, ?_, ?_⟩ <;> apply UInt8.toNat_inj.mp <;> simp [joinWord32] <;> omega

theorem word32_eq_ok_iff {value : UInt32} :
    word32 bytes = (.ok value, rest) ↔ bytes = Field.word32Bytes value ++ rest := by
  constructor
  · intro hread
    unfold word32 at hread
    split at hread
    · cases hread
      rw [word32Bytes_join]
      rfl
    · cases hread
  · rintro rfl
    exact word32_append value rest

theorem int64_eq_ok_iff {value : Int64} :
    int64 bytes = (.ok value, rest) ↔ bytes = Field.int64Bytes value ++ rest := by
  constructor
  · intro hread
    unfold int64 at hread
    split at hread
    · next a b c d e f g h others =>
        cases hread
        have hhigh := joinWord32_lt a b c d
        have hlow := joinWord32_lt e f g h
        -- The halves stay opaque: only their bounds matter for the joined number.
        generalize hhighEq : joinWord32 a b c d = high at *
        generalize hlowEq : joinWord32 e f g h = low at *
        have hvalue : (UInt64.ofNat (high * 0x100000000 + low)).toInt64.toUInt64.toNat =
            high * 0x100000000 + low :=
          UInt64.toNat_ofNat_of_lt' (by change _ < 18446744073709551616; omega)
        have hupper : (high * 0x100000000 + low) / 0x100000000 = high := by omega
        have hlower : UInt32.ofNat (high * 0x100000000 + low) = .ofNat low := by
          apply UInt32.toNat_inj.mp
          simp
        rw [Field.int64Bytes, hvalue, hupper, hlower, ← hhighEq, ← hlowEq, word32Bytes_join,
          word32Bytes_join]
        rfl
    · cases hread
  · rintro rfl
    exact int64_append value rest

/-! ## Texts -/

theorem take_eq_ok_iff {count : Nat} {taken : Bytes} :
    take count bytes = (.ok taken, rest) ↔ taken.length = count ∧ bytes = taken ++ rest := by
  unfold take
  constructor
  · intro hread
    split at hread
    · cases hread
    · next hlength =>
        cases hread
        exact ⟨List.length_take_of_le (Nat.le_of_not_lt hlength), (List.take_append_drop _ _).symm⟩
  · rintro ⟨rfl, rfl⟩
    have hnot : ¬ (taken ++ rest).length < taken.length := by
      rw [List.length_append]
      omega
    rw [if_neg hnot, List.take_left', List.drop_left']
    · rfl
    · rfl

theorem decodeText_eq_ok_iff {text : String} :
    decodeText bytes = .ok text ↔ bytes = Field.utf8 text := by
  constructor
  · intro htext
    unfold decodeText at htext
    split at htext
    · next found hfound =>
        cases htext
        unfold String.fromUTF8? at hfound
        split at hfound
        · cases hfound
          rfl
        · cases hfound
    · cases htext
  · rintro rfl
    have hvalid : String.fromUTF8? text.toByteArray = some text := by
      rw [String.fromUTF8?, dif_pos text.isValidUTF8]
      rfl
    have hbytes : (⟨(Field.utf8 text).toArray⟩ : ByteArray) = text.toByteArray := rfl
    rw [decodeText, hbytes, hvalid]

theorem text_eq_ok_iff {text : String} :
    FieldReader.text bytes = (.ok text, rest) ↔
      ∃ written, Field.textBytes text = .ok written ∧ bytes = written ++ rest := by
  simp only [FieldReader.text, bind_eq_ok_iff, word16_eq_ok_iff, take_eq_ok_iff,
    ofExcept_eq_ok_iff, decodeText_eq_ok_iff]
  constructor
  · rintro ⟨length, _, rfl, _, _, ⟨hlength, rfl⟩, rfl, rfl⟩
    rw [Field.length_utf8] at hlength
    have hsize : text.utf8ByteSize ≤ Field.maxTextBytes := by
      have hfits := length.toNat_lt
      unfold Field.maxTextBytes
      omega
    refine ⟨_, if_pos hsize, ?_⟩
    rw [hlength, UInt16.ofNat_toNat, List.append_assoc]
  · rintro ⟨written, hwritten, rfl⟩
    unfold Field.textBytes at hwritten
    split at hwritten
    · next hsize =>
        cases hwritten
        refine ⟨_, _, List.append_assoc .., _, _, ⟨?_, rfl⟩, rfl, rfl⟩
        rw [Field.length_utf8, UInt16.toNat_ofNat_of_lt' (Nat.lt_succ_of_le hsize)]
    · cases hwritten

/-! ## Times -/

theorem day_eq_ok_iff {day : Day} :
    FieldReader.day bytes = (.ok day, rest) ↔ bytes = Field.dayByte day :: rest := by
  simp only [FieldReader.day, bind_eq_ok_iff, byte_eq_ok_iff, ofExcept_eq_ok_iff]
  constructor
  · rintro ⟨value, _, rfl, hday, rfl⟩
    unfold Day.ofByte at hday
    split at hday
    · next found hfound =>
        cases hday
        rw [Field.dayByte, ← Day.ofNumber?_eq_some_iff.mp hfound, UInt8.ofNat_toNat]
    · cases hday
  · rintro rfl
    exact ⟨_, _, rfl, by cases day <;> rfl, rfl⟩

theorem time_eq_ok_iff {time : WeekTime} :
    FieldReader.time bytes = (.ok time, rest) ↔
      time.Valid ∧ bytes = Field.timeBytes time ++ rest := by
  simp only [FieldReader.time, bind_eq_ok_iff, day_eq_ok_iff, byte_eq_ok_iff, ofExcept_eq_ok_iff]
  constructor
  · rintro ⟨day, _, rfl, hour, _, rfl, minute, _, rfl, htime, rfl⟩
    cases hparts : WeekTime.ofParts day hour minute with
    | error cause =>
        rw [hparts] at htime
        cases htime
    | ok found =>
        rw [hparts] at htime
        cases htime
        obtain ⟨rfl, hvalid⟩ := WeekTime.ofParts_eq_ok_iff.mp hparts
        exact ⟨hvalid, rfl⟩
  · rintro ⟨hvalid, rfl⟩
    refine ⟨time.day, _, rfl, time.hour, _, rfl, time.minute, rest, rfl, ?_, rfl⟩
    rw [WeekTime.ofParts_eq_ok_iff.mpr ⟨rfl, hvalid⟩]
    rfl

theorem interval_eq_ok_iff {interval : Interval} :
    FieldReader.interval bytes = (.ok interval, rest) ↔
      interval.Valid ∧ bytes = Field.intervalBytes interval ++ rest := by
  simp only [FieldReader.interval, bind_eq_ok_iff, time_eq_ok_iff, pure_eq_ok_iff]
  constructor
  · rintro ⟨start, _, ⟨hstart, rfl⟩, stop, _, ⟨hstop, rfl⟩, rfl, rfl⟩
    exact ⟨⟨hstart, hstop⟩, (List.append_assoc ..).symm⟩
  · rintro ⟨⟨hstart, hstop⟩, rfl⟩
    exact ⟨_, _, ⟨hstart, List.append_assoc ..⟩, _, _, ⟨hstop, rfl⟩, rfl, rfl⟩

theorem replicate_interval_eq_ok_iff {count : Nat} {intervals : List Interval} :
    replicate FieldReader.interval count bytes = (.ok intervals, rest) ↔
      intervals.length = count ∧ (∀ interval ∈ intervals, interval.Valid) ∧
        bytes = intervals.flatMap Field.intervalBytes ++ rest := by
  induction count generalizing bytes intervals rest with
  | zero =>
      rw [replicate, pure_eq_ok_iff]
      constructor
      · rintro ⟨rfl, rfl⟩
        exact ⟨rfl, by simp, rfl⟩
      · rintro ⟨hlength, -, rfl⟩
        rw [List.eq_nil_of_length_eq_zero hlength]
        exact ⟨rfl, rfl⟩
  | succ count ih =>
      simp only [replicate, bind_eq_ok_iff, interval_eq_ok_iff, ih, pure_eq_ok_iff]
      constructor
      · rintro ⟨first, _, ⟨hfirst, rfl⟩, others, _, ⟨hlength, hothers, rfl⟩, rfl, rfl⟩
        refine ⟨congrArg (· + 1) hlength, List.forall_mem_cons.mpr ⟨hfirst, hothers⟩, ?_⟩
        rw [List.flatMap_cons, List.append_assoc]
      · rintro ⟨hlength, hvalid, rfl⟩
        cases intervals with
        | nil => cases hlength
        | cons first others =>
            obtain ⟨hfirst, hothers⟩ := List.forall_mem_cons.mp hvalid
            refine ⟨first, _, ⟨hfirst, ?_⟩, others, _, ⟨Nat.succ.inj hlength, hothers, rfl⟩, rfl,
              rfl⟩
            rw [List.flatMap_cons, List.append_assoc]

/-- Intervals are read exactly if they are valid and their number fits into its field. -/
theorem intervals_eq_ok_iff {intervals : List Interval} :
    FieldReader.intervals bytes = (.ok intervals, rest) ↔
      intervals.length < 65536 ∧ (∀ interval ∈ intervals, interval.Valid) ∧
        bytes = Field.intervalsBytes intervals ++ rest := by
  simp only [FieldReader.intervals, bind_eq_ok_iff, word16_eq_ok_iff,
    replicate_interval_eq_ok_iff]
  constructor
  · rintro ⟨count, _, rfl, hcount, hvalid, rfl⟩
    refine ⟨hcount ▸ count.toNat_lt, hvalid, ?_⟩
    rw [Field.intervalsBytes, hcount, UInt16.ofNat_toNat, List.append_assoc]
  · rintro ⟨hlength, hvalid, rfl⟩
    refine ⟨_, _, List.append_assoc .., ?_, hvalid, rfl⟩
    rw [UInt16.toNat_ofNat_of_lt' hlength]

end FieldReader

end FacilityBooking
