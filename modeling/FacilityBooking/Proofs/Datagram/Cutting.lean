import FacilityBooking.Proofs.Datagram.Reading

/-!
# Cutting bytes off

A reader judges the bytes in the order in which it takes them. If bytes are cut off the
end of what it can read, it therefore still reads the same value, or it finds that bytes
are missing; it never complains about anything else and never reads another value.
-/

namespace FacilityBooking

namespace FieldReader

variable {α β : Type}

/-- The reader finds fewer bytes than it needs. -/
def RunsShort (reader : FieldReader α) (bytes : Bytes) : Prop :=
  ∃ needed remaining, reader.value? bytes = .error (.truncated needed remaining)

/-- Bytes that the reader does not need to be there do not change what it reads, and no
others can be cut off unnoticed. -/
def Cuttable (reader : FieldReader α) : Prop :=
  ∀ bytes more value rest, reader (bytes ++ more) = (.ok value, rest) →
    (∃ left, reader bytes = (.ok value, left) ∧ rest = left ++ more) ∨ reader.RunsShort bytes

/-- The reader takes a certain number of bytes, any bytes, or misses some of them. -/
structure Sized (reader : FieldReader α) (count : Nat) : Prop where
  takes : ∀ taken : Bytes, taken.length = count →
    ∃ value, ∀ rest, reader (taken ++ rest) = (.ok value, rest)
  misses : ∀ bytes : Bytes, bytes.length < count →
    reader bytes = (.error (.truncated count bytes.length), bytes)

namespace Sized

variable {reader : FieldReader α} {count : Nat}

theorem takes_of_length (hsized : reader.Sized count) {bytes : Bytes}
    (hlength : count ≤ bytes.length) :
    ∃ value, ∀ more, reader (bytes ++ more) = (.ok value, bytes.drop count ++ more) := by
  obtain ⟨value, htakes⟩ := hsized.takes (bytes.take count) (List.length_take_of_le hlength)
  refine ⟨value, fun more => ?_⟩
  have hread := htakes (bytes.drop count ++ more)
  rwa [← List.append_assoc, List.take_append_drop] at hread

theorem reads_of_length (hsized : reader.Sized count) (bytes : Bytes)
    (hlength : count ≤ bytes.length) :
    ∃ value, reader bytes = (.ok value, bytes.drop count) := by
  obtain ⟨value, htakes⟩ := hsized.takes_of_length hlength
  have hread := htakes []
  rw [List.append_nil, List.append_nil] at hread
  exact ⟨value, hread⟩

theorem reads_or_misses (hsized : reader.Sized count) (bytes : Bytes) :
    (∃ value, reader bytes = (.ok value, bytes.drop count)) ∨
      reader bytes = (.error (.truncated count bytes.length), bytes) := by
  by_cases hlength : count ≤ bytes.length
  · exact .inl (hsized.reads_of_length bytes hlength)
  · exact .inr (hsized.misses bytes (Nat.lt_of_not_le hlength))

theorem cuttable (hsized : reader.Sized count) : reader.Cuttable := by
  intro bytes more value rest hread
  by_cases hlength : count ≤ bytes.length
  · obtain ⟨found, htakes⟩ := hsized.takes_of_length hlength
    rw [htakes more] at hread
    cases hread
    refine .inl ⟨bytes.drop count, ?_, rfl⟩
    have hcut := htakes []
    rwa [List.append_nil, List.append_nil] at hcut
  · have hmisses := hsized.misses bytes (Nat.lt_of_not_le hlength)
    exact .inr ⟨_, _, congrArg Prod.fst hmisses⟩

theorem byte : FieldReader.byte.Sized 1 where
  takes
    | [_], _ => ⟨_, fun _ => rfl⟩
  misses
    | [], _ => rfl

theorem word16 : FieldReader.word16.Sized 2 where
  takes
    | [_, _], _ => ⟨_, fun _ => rfl⟩
  misses
    | [], _ | [_], _ => rfl

theorem word32 : FieldReader.word32.Sized 4 where
  takes
    | [_, _, _, _], _ => ⟨_, fun _ => rfl⟩
  misses
    | [], _ | [_], _ | [_, _], _ | [_, _, _], _ => rfl

theorem int64 : FieldReader.int64.Sized 8 where
  takes
    | [_, _, _, _, _, _, _, _], _ => ⟨_, fun _ => rfl⟩
  misses bytes hshort := by
    unfold FieldReader.int64
    split
    · simp only [List.length_cons] at hshort
      omega
    · rfl

theorem take (count : Nat) : (FieldReader.take count).Sized count where
  takes taken hlength := ⟨taken, fun _ => take_eq_ok_iff.mpr ⟨hlength, rfl⟩⟩
  misses _ hshort := if_pos hshort

end Sized

namespace Cuttable

variable {reader : FieldReader α} {next : α → FieldReader β}

/-- What is read whole lacks bytes as soon as some are cut off. -/
theorem runsShort_of_cut (hreader : reader.Cuttable) {bytes cut : Bytes} {value : α}
    (hread : reader bytes = (.ok value, [])) (hfront : cut <+: bytes) (hne : cut ≠ bytes) :
    reader.RunsShort cut := by
  obtain ⟨more, rfl⟩ := hfront
  rcases hreader cut more value [] hread with ⟨left, -, hleft⟩ | hshort
  · obtain ⟨-, rfl⟩ := List.append_eq_nil_iff.mp hleft.symm
    exact absurd (List.append_nil cut).symm hne
  · exact hshort

theorem pure (value : α) : Cuttable (Pure.pure value : FieldReader α) := by
  intro bytes more found rest hread
  obtain ⟨rfl, rfl⟩ := pure_eq_ok_iff.mp hread
  exact .inl ⟨bytes, rfl, rfl⟩

theorem ofExcept (outcome : Except FormatError α) : Cuttable (FieldReader.ofExcept outcome) := by
  intro bytes more value rest hread
  obtain ⟨rfl, rfl⟩ := ofExcept_eq_ok_iff.mp hread
  exact .inl ⟨bytes, rfl, rfl⟩

theorem bind (hfirst : reader.Cuttable) (hnext : ∀ value, (next value).Cuttable) :
    Cuttable (reader >>= next) := by
  intro bytes more value rest hread
  obtain ⟨first, middle, hread, hvalue⟩ := bind_eq_ok_iff.mp hread
  rcases hfirst bytes more first middle hread with
    ⟨left, hleft, rfl⟩ | ⟨needed, remaining, hshort⟩
  · unfold RunsShort value?
    rw [bind_eq hleft]
    exact hnext first left more value rest hvalue
  · refine .inr ⟨needed, remaining, ?_⟩
    unfold value? at hshort ⊢
    -- What the first reader misses, the two together miss as well.
    simp only [Bind.bind]
    split
    · next hok =>
        rw [hok] at hshort
        cases hshort
    · next herror =>
        rw [herror] at hshort
        cases hshort
        rfl

theorem text : FieldReader.text.Cuttable :=
  Sized.word16.cuttable.bind fun _ => (Sized.take _).cuttable.bind fun _ => ofExcept _

theorem day : FieldReader.day.Cuttable :=
  Sized.byte.cuttable.bind fun _ => ofExcept _

theorem time : FieldReader.time.Cuttable :=
  day.bind fun _ => Sized.byte.cuttable.bind fun _ => Sized.byte.cuttable.bind fun _ => ofExcept _

theorem interval : FieldReader.interval.Cuttable :=
  time.bind fun _ => time.bind fun _ => pure _

theorem replicate (hreader : reader.Cuttable) (count : Nat) :
    (FieldReader.replicate reader count).Cuttable := by
  induction count with
  | zero => exact pure _
  | succ count ih => exact hreader.bind fun _ => ih.bind fun _ => pure _

theorem intervals : FieldReader.intervals.Cuttable :=
  Sized.word16.cuttable.bind fun _ => interval.replicate _

end Cuttable

end FieldReader

end FacilityBooking
