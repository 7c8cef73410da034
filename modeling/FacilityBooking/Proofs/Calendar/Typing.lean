import FacilityBooking.Calendar.Reading
import FacilityBooking.Proofs.Text.Spelling

/-!
# The grammar of typed days and times

Every text that is read as a day or as a time is one of the grammar below, and every text of
the grammar is read as the day or the time that it stands for. All other texts are refused
as they were typed.
-/

namespace FacilityBooking

namespace Day

/-- The English name of a day in lower case. -/
def letters (day : Day) : List Char :=
  day.name.toList.map Char.toLower

/-- A word without capitals names a day by a numeral of its number, or by at least three
letters with which the name of the day begins. -/
inductive Names : List Char → Day → Prop where
  | number {word : List Char} {day : Day} (hnumeral : Text.Numeral word day.number) :
      Names word day
  | start {word : List Char} {day : Day} (hlength : 3 ≤ word.length)
      (hstart : word <+: day.letters) : Names word day

/-- A text stands for a day if the word between its white space names the day, whatever the
case of the word's letters. -/
def Stands (text : List Char) (day : Day) : Prop :=
  ∃ word, Text.Surrounds text word ∧ Names (word.map Char.toLower) day

/-- No two names begin with the same three letters. -/
theorem eq_of_take_letters_eq {first second : Day}
    (hsame : first.letters.take 3 = second.letters.take 3) : first = second := by
  cases first <;> cases second <;> first | rfl | exact absurd hsame (by decide)

theorem not_isDigit_of_mem_letters {day : Day} :
    ∀ letter ∈ day.letters, ¬ letter.isDigit := by
  refine List.any_eq_false.mp ?_
  cases day <;> rfl

theorem take_of_start {word : List Char} {day : Day} (hlength : 3 ≤ word.length)
    (hstart : word <+: day.letters) : day.letters.take 3 = word.take 3 := by
  obtain ⟨rest, hrest⟩ := hstart
  rw [← hrest, List.take_append_of_le_length hlength]

/-- The first day whose name begins with a word is the only one. -/
theorem ofWord?_eq_some_iff {word : List Char} {day : Day} :
    ofWord? word = some day ↔ 3 ≤ word.length ∧ word <+: day.letters := by
  unfold ofWord?
  by_cases hshort : word.length < 3
  · rw [if_pos hshort]
    exact ⟨nofun, fun hword => absurd hword.1 (Nat.not_le_of_lt hshort)⟩
  · have hlength := Nat.not_lt.mp hshort
    rw [if_neg hshort, and_iff_right hlength]
    constructor
    · intro hfind
      have hday := List.find?_some hfind
      exact List.isPrefixOf_iff_prefix.mp hday
    · intro hstart
      cases hfind : all.find? fun other => word.isPrefixOf other.letters with
      | none =>
          have hnone := List.find?_eq_none.mp hfind day (mem_all day)
          exact absurd (List.isPrefixOf_iff_prefix.mpr hstart) hnone
      | some found =>
          have hfound := List.find?_some hfind
          have hother : word <+: found.letters := List.isPrefixOf_iff_prefix.mp hfound
          have hsame : found = day := eq_of_take_letters_eq
            ((take_of_start hlength hother).trans (take_of_start hlength hstart).symm)
          exact hfind.trans (congrArg some hsame)

/-- A numeral is no beginning of a name. -/
theorem not_start_of_numeral {word : List Char} {value : Nat} {day : Day}
    (hnumeral : Text.Numeral word value) : ¬ word <+: day.letters := by
  intro hstart
  obtain ⟨letter, hletter, hdigit⟩ := hnumeral.exists_digit
  exact not_isDigit_of_mem_letters letter (hstart.subset hletter) hdigit

theorem read?_eq_some_iff {text : List Char} {day : Day} :
    read? text = some day ↔ Stands text day := by
  have hword : Stands text day ↔ Names ((Text.trim text).map Char.toLower) day := by
    constructor
    · rintro ⟨word, hsurrounds, hnames⟩
      rwa [Text.trim_eq_iff.mpr hsurrounds]
    · intro hnames
      exact ⟨_, Text.surrounds_trim text, hnames⟩
  rw [hword, read?]
  generalize (Text.trim text).map Char.toLower = word
  split
  · next number hnumber =>
      have hnumeral := Text.readNatural?_eq_some_iff.mp hnumber
      rw [ofNumber?_eq_some_iff]
      constructor
      · rintro rfl
        exact .number hnumeral
      · intro hnames
        cases hnames with
        | number hday =>
            have hsame := hnumber.symm.trans (Text.readNatural?_eq_some_iff.mpr hday)
            exact Option.some.inj hsame
        | start _ hstart => exact absurd hstart (not_start_of_numeral hnumeral)
  · next hnumber =>
      rw [ofWord?_eq_some_iff]
      constructor
      · rintro ⟨hlength, hstart⟩
        exact .start hlength hstart
      · intro hnames
        cases hnames with
        | number hday =>
            cases hnumber.symm.trans (Text.readNatural?_eq_some_iff.mpr hday)
        | start hlength hstart => exact ⟨hlength, hstart⟩

theorem Names.unique {word : List Char} {first second : Day} (hfirst : Names word first)
    (hsecond : Names word second) : first = second := by
  cases hfirst with
  | number hnumeral =>
      cases hsecond with
      | number hother =>
          have hsame := (Text.readNatural?_eq_some_iff.mpr hnumeral).symm.trans
            (Text.readNatural?_eq_some_iff.mpr hother)
          have hnumber := ofNumber?_number second
          rw [← Option.some.inj hsame, ofNumber?_number] at hnumber
          exact Option.some.inj hnumber
      | start _ hstart => exact absurd hstart (not_start_of_numeral hnumeral)
  | start hlength hstart =>
      cases hsecond with
      | number hnumeral => exact absurd hstart (not_start_of_numeral hnumeral)
      | start _ hother =>
          exact eq_of_take_letters_eq
            ((take_of_start hlength hstart).trans (take_of_start hlength hother).symm)

theorem ofText_eq (text : String) :
    ofText text = (read? text.toList).elim (.error ⟨text⟩) .ok := by
  unfold ofText
  cases read? text.toList <;> rfl

end Day

namespace WeekTime

/-- A text stands for a time if it is, between white space, a text for the day and a clock,
cut at the first slash or space; and the clock is, between white space, a numeral of the hour
and one of the minute, cut at the first colon. -/
structure Stands (text : List Char) (time : WeekTime) : Prop where
  parts : ∃ word dayText clockText clock hourText minuteText,
    Text.Surrounds text word ∧
    Text.CutAt (fun letter => letter == '/' || letter == ' ') word dayText clockText ∧
    Text.Surrounds clockText clock ∧
    Text.CutAt (· == ':') clock hourText minuteText ∧
    time.day.Stands dayText ∧
    Text.Numeral hourText time.hour.toNat ∧ Text.Numeral minuteText time.minute.toNat
  valid : time.Valid

theorem read?_eq_some_iff {text : List Char} {time : WeekTime} :
    read? text = some time ↔ Stands text time := by
  simp only [read?, Option.bind_eq_bind, Option.bind_eq_some_iff, Prod.exists,
    Text.cutAtFirst_eq_some_iff, Day.read?_eq_some_iff, Text.readBelow?_eq_some_iff]
  constructor
  · rintro ⟨dayText, clockText, hcut, hourText, minuteText, hclock, day, hday, hour,
      ⟨hhour, hhourBound⟩, minute, ⟨hminute, hminuteBound⟩, htime⟩
    obtain rfl := Option.some.inj htime
    have hhourByte : (UInt8.ofNat hour).toNat = hour :=
      UInt8.toNat_ofNat_of_lt' (Nat.lt_trans hhourBound (by decide))
    have hminuteByte : (UInt8.ofNat minute).toNat = minute :=
      UInt8.toNat_ofNat_of_lt' (Nat.lt_trans hminuteBound (by decide))
    refine ⟨⟨_, dayText, clockText, _, hourText, minuteText, Text.surrounds_trim _, hcut,
      Text.surrounds_trim _, hclock, hday, ?_, ?_⟩, ?_⟩
    · rwa [hhourByte]
    · rwa [hminuteByte]
    · dsimp only [Valid]
      omega
  · rintro ⟨⟨word, dayText, clockText, clock, hourText, minuteText, hword, hcut, hclockText,
      hclock, hday, hhour, hminute⟩, hhourBound, hminuteBound⟩
    obtain rfl := Text.trim_eq_iff.mpr hword
    obtain rfl := Text.trim_eq_iff.mpr hclockText
    refine ⟨dayText, clockText, hcut, hourText, minuteText, hclock, time.day, hday,
      time.hour.toNat, ⟨hhour, Nat.lt_succ_of_le hhourBound⟩, time.minute.toNat,
      ⟨hminute, Nat.lt_succ_of_le hminuteBound⟩, ?_⟩
    rw [UInt8.ofNat_toNat, UInt8.ofNat_toNat]
    rfl

theorem ofText_eq (text : String) :
    ofText text = (read? text.toList).elim (.error ⟨text⟩) .ok := by
  unfold ofText
  cases read? text.toList <;> rfl

end WeekTime

/-- A reader that hands back what it cannot read answers by what its texts stand for. -/
theorem UnreadableTime.outcome_iff {value : Type} {found : Option value} {text : String}
    {outcome : Except UnreadableTime value} {Stands : value → Prop}
    (houtcome : outcome = found.elim (.error ⟨text⟩) .ok)
    (hfound : ∀ result, found = some result ↔ Stands result) :
    (∀ result, outcome = .ok result ↔ Stands result) ∧
      ∀ failure, outcome = .error failure ↔ failure = ⟨text⟩ ∧ ∀ result, ¬ Stands result := by
  subst houtcome
  cases found with
  | none =>
      have hnone (result : value) : ¬ Stands result := by
        rw [← hfound]
        exact nofun
      refine ⟨fun result => ⟨nofun, fun hstands => absurd hstands (hnone result)⟩,
        fun failure => ⟨fun hfailure => ⟨(Except.error.inj hfailure).symm, hnone⟩, ?_⟩⟩
      rintro ⟨rfl, -⟩
      rfl
  | some first =>
      have hfirst := (hfound first).mp rfl
      refine ⟨fun result => ?_, fun failure => ⟨nofun, fun hfailure =>
        absurd hfirst (hfailure.2 first)⟩⟩
      rw [← hfound, Option.elim_some, Except.ok.injEq, Option.some.injEq]

/-- A text is read as a day exactly if it stands for that day, and as a time exactly if it
stands for that time; no word names two days. Every other text is refused and handed back as
it was typed, with the white space around it. -/
theorem typed_times_exact (text : String) :
    (∀ day, Day.ofText text = .ok day ↔ Day.Stands text.toList day) ∧
    (∀ failure, Day.ofText text = .error failure ↔
      failure = ⟨text⟩ ∧ ∀ day, ¬ Day.Stands text.toList day) ∧
    (¬ ∃ word first second, first ≠ second ∧ Day.Names word first ∧ Day.Names word second) ∧
    (∀ time, WeekTime.ofText text = .ok time ↔ WeekTime.Stands text.toList time) ∧
    ∀ failure, WeekTime.ofText text = .error failure ↔
      failure = ⟨text⟩ ∧ ∀ time, ¬ WeekTime.Stands text.toList time := by
  have hday := UnreadableTime.outcome_iff (Day.ofText_eq text) fun _ => Day.read?_eq_some_iff
  have htime := UnreadableTime.outcome_iff (WeekTime.ofText_eq text) fun _ =>
    WeekTime.read?_eq_some_iff
  refine ⟨hday.1, hday.2, ?_, htime.1, htime.2⟩
  rintro ⟨word, first, second, hdifferent, hfirst, hsecond⟩
  exact hdifferent (hfirst.unique hsecond)

/-- Plus signs, leading zeros and white space around the day are accepted, and a blank next to
the colon is not. -/
example : WeekTime.ofText " MON\t/ +9:005\n" = .ok ⟨.monday, 9, 5⟩ ∧
    WeekTime.ofText "mon/9 :05" = .error ⟨"mon/9 :05"⟩ := by
  decide

end FacilityBooking
