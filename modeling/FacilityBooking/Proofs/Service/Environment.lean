import FacilityBooking.Proofs.Text.Decimals
import FacilityBooking.Service.Loss

/-!
# What the environment sets

Each setting follows a variable of its own and nothing else. A text that stands for a value
sets it, and without one the setting keeps its default. All settings are bounded as they
should be, but for one text: a rate of losses may be spelled as no number.
-/

namespace FacilityBooking

namespace Settings

/-! ## Variables -/

/-- In the environment, the variable sets the setting to the value that its text stands for.
Where it is absent or its text stands for no value, the setting has its default; and what
other variables hold does not count. -/
structure SetBy {α : Type} (environment : Environment) (setting : Settings → α) (name : String)
    (Stands : String → α → Prop) : Prop where
  read : ∀ text value, environment name = some text → Stands text value →
    setting (ofEnvironment environment) = value
  default : (∀ text value, environment name = some text → ¬ Stands text value) →
    setting (ofEnvironment environment) = setting {}
  alone : ∀ other : Environment, other name = environment name →
    setting (ofEnvironment other) = setting (ofEnvironment environment)

variable {environment : Environment}

/-- The white space around a word does not count. -/
def Spelled {α : Type} (Stands : List Char → α → Prop) (text : String) (value : α) : Prop :=
  ∃ word, Text.Surrounds text.toList word ∧ Stands word value

theorem spelled_iff {α : Type} {Stands : List Char → α → Prop} {text : String} {value : α} :
    Spelled Stands text value ↔ Stands (Text.trim text.toList) value := by
  constructor
  · rintro ⟨word, hword, hstands⟩
    rwa [Text.trim_eq_iff.mpr hword]
  · intro hstands
    exact ⟨_, Text.surrounds_trim _, hstands⟩

/-- A setting is as its variable says, or it has its default for want of a text. -/
theorem SetBy.read_or_default {α : Type} {setting : Settings → α} {name : String}
    {Stands : String → α → Prop} (hset : SetBy environment setting name Stands) :
    (∃ text value, environment name = some text ∧ Stands text value ∧
      setting (ofEnvironment environment) = value) ∨
    (∀ text value, environment name = some text → ¬ Stands text value) ∧
      setting (ofEnvironment environment) = setting {} := by
  by_cases hstands : ∃ text value, environment name = some text ∧ Stands text value
  · obtain ⟨text, value, htext, hvalue⟩ := hstands
    exact .inl ⟨text, value, htext, hvalue, hset.read text value htext hvalue⟩
  · have hnone (text : String) (value : α) (htext : environment name = some text) :
        ¬ Stands text value := fun hvalue => hstands ⟨text, value, htext, hvalue⟩
    exact .inr ⟨hnone, hset.default hnone⟩

/-- A setting is set by the variable from which it is read. -/
theorem SetBy.of_read {α : Type} {setting : Settings → α} {name : String}
    {Stands : String → α → Prop} (read? : String → Option α)
    (hread : ∀ text value, read? text = some value ↔ Stands text value)
    (hsetting : ∀ environment : Environment,
      setting (ofEnvironment environment) = ((environment name).bind read?).getD (setting {})) :
    SetBy environment setting name Stands where
  read text value htext hstands := by
    rw [hsetting, htext, Option.bind_some, (hread text value).mpr hstands]
    rfl
  default hnone := by
    have hunread : (environment name).bind read? = none := by
      refine Option.bind_eq_none_iff.mpr fun text htext => ?_
      refine Option.eq_none_iff_forall_ne_some.mpr fun value hvalue => ?_
      exact hnone text value htext ((hread text value).mp hvalue)
    rw [hsetting, hunread]
    rfl
  alone other hsame := by
    rw [hsetting, hsetting, hsame]

theorem SetBy.of_word {α : Type} {setting : Settings → α} {name : String}
    {Stands : List Char → α → Prop} (read? : List Char → Option α)
    (hread : ∀ word value, read? word = some value ↔ Stands word value)
    (hsetting : ∀ environment,
      setting (ofEnvironment environment) = (valueOf? environment name read?).getD (setting {})) :
    SetBy environment setting name (Spelled Stands) :=
  .of_read (fun text => read? (Text.trim text.toList))
    (fun _ _ => (hread _ _).trans spelled_iff.symm) hsetting

theorem SetBy.of_converted {α β : Type} {setting : Settings → β} {name : String}
    {Stands : List Char → α → Prop} (read? : List Char → Option α) (convert : α → β)
    (hread : ∀ word value, read? word = some value ↔ Stands word value)
    (hsetting : ∀ environment, setting (ofEnvironment environment) =
      ((valueOf? environment name read?).map convert).getD (setting {})) :
    SetBy environment setting name (Spelled fun word result =>
      ∃ value, Stands word value ∧ result = convert value) := by
  refine .of_word (fun word => (read? word).map convert) (fun word result => ?_)
    fun environment => ?_
  · simp only [Option.map_eq_some_iff, hread, eq_comm]
  · rw [hsetting, valueOf?, Option.map_bind]
    rfl

theorem SetBy.of_optional {α : Type} {setting : Settings → Option α} {name : String}
    {Stands : List Char → α → Prop} (read? : List Char → Option α)
    (hread : ∀ word value, read? word = some value ↔ Stands word value)
    (hdefault : setting {} = none)
    (hsetting : ∀ environment, setting (ofEnvironment environment) =
      valueOf? environment name read?) :
    SetBy environment setting name (Spelled fun word found =>
      ∃ value, Stands word value ∧ found = some value) := by
  refine .of_converted read? some hread fun environment => ?_
  rw [hsetting, hdefault]
  cases valueOf? environment name read? <;> rfl

/-! ## Words -/

def switchNames : Bool → List String
  | true => ["1", "true", "yes", "on"]
  | false => ["0", "false", "no", "off"]

/-- The word turns something on or off, in any case of its letters. -/
def Switch (word : List Char) (on : Bool) : Prop :=
  ∃ name ∈ switchNames on, Text.IsWord name word

theorem switch_iff {word : List Char} {on : Bool} :
    Switch word on ↔ String.ofList (word.map Char.toLower) ∈ switchNames on := by
  simp only [Switch, ← Text.ofList_eq_iff_isWord, exists_eq_right']

/-- No word turns something on and off. -/
theorem switchNames_disjoint :
    ∀ name ∈ switchNames true, name ∉ switchNames false := by
  decide

theorem readSwitch?_eq_some_iff {word : List Char} {on : Bool} :
    readSwitch? word = some on ↔ Switch word on := by
  rw [switch_iff]
  change (if _ ∈ switchNames true then some true
    else if _ ∈ switchNames false then some false else none) = some on ↔ _
  by_cases htrue : String.ofList (word.map Char.toLower) ∈ switchNames true
  · rw [if_pos htrue]
    cases on with
    | true => exact iff_of_true rfl htrue
    | false => exact iff_of_false nofun (switchNames_disjoint _ htrue)
  · rw [if_neg htrue]
    by_cases hfalse : String.ofList (word.map Char.toLower) ∈ switchNames false
    · rw [if_pos hfalse]
      cases on with
      | true => exact iff_of_false nofun htrue
      | false => exact iff_of_true rfl hfalse
    · rw [if_neg hfalse]
      cases on with
      | true => exact iff_of_false nofun htrue
      | false => exact iff_of_false nofun hfalse

theorem readPort?_eq_some_iff {word : List Char} {port : UInt16} :
    readPort? word = some port ↔ Text.Numeral word port.toNat := by
  rw [readPort?, Option.map_eq_some_iff]
  constructor
  · rintro ⟨value, hvalue, rfl⟩
    obtain ⟨hnumeral, hbound⟩ := Text.readBelow?_eq_some_iff.mp hvalue
    rwa [UInt16.toNat_ofNat_of_lt' hbound]
  · intro hnumeral
    exact ⟨_, Text.readBelow?_eq_some_iff.mpr ⟨hnumeral, port.toNat_lt_size⟩, port.ofNat_toNat⟩

theorem readSeed?_eq_some_iff {word : List Char} {seed : UInt64} :
    (Text.readBelow? UInt64.size word).map .ofNat = some seed ↔
      Text.Numeral word seed.toNat := by
  rw [Option.map_eq_some_iff]
  constructor
  · rintro ⟨value, hvalue, rfl⟩
    obtain ⟨hnumeral, hbound⟩ := Text.readBelow?_eq_some_iff.mp hvalue
    rwa [UInt64.toNat_ofNat_of_lt' hbound]
  · intro hnumeral
    exact ⟨_, Text.readBelow?_eq_some_iff.mpr ⟨hnumeral, seed.toNat_lt_size⟩, seed.ofNat_toNat⟩

/-- The word is a numeral that fits into a machine word. -/
def Count (word : List Char) (value : Nat) : Prop :=
  Text.Numeral word value ∧ value < UInt64.size

theorem readCount?_eq_some_iff {word : List Char} {value : Nat} :
    Text.readBelow? UInt64.size word = some value ↔ Count word value :=
  Text.readBelow?_eq_some_iff

/-! ## Rates -/

/-- A rate of losses is a probability, unless it was no number to begin with. -/
theorem clampRate_bounds_iff {rate : Float} :
    0.0 ≤ clampRate rate ∧ clampRate rate ≤ 1.0 ↔ ¬ rate.isNaN := by
  have hzero : ¬ (0.0 : Float).isNaN := by decide +kernel
  have hone : ¬ (1.0 : Float).isNaN := by decide +kernel
  unfold clampRate
  split
  · next hbelow =>
      refine iff_of_true (by decide +kernel) ?_
      exact (Text.not_isNaN_of_lt hbelow).1
  · next hnonnegative =>
      split
      · next habove =>
          refine iff_of_true (by decide +kernel) ?_
          exact (Text.not_isNaN_of_lt habove).2
      · next hatMost =>
          constructor
          · exact fun hbounds => (Text.not_isNaN_of_le hbounds.1).2
          · exact fun hrate => ⟨Text.le_of_not_lt hrate hzero hnonnegative,
              Text.le_of_not_lt hone hrate hatMost⟩

/-- The losses themselves are always drawn with a probability. -/
theorem new_rate_bounds (rate : Float) (seed : UInt64) :
    0.0 ≤ (Loss.new rate seed).rate ∧ (Loss.new rate seed).rate ≤ 1.0 := by
  unfold Loss.new
  dsimp only
  split
  · next hfinite => exact clampRate_bounds_iff.mpr (Text.not_isNaN_of_isFinite hfinite)
  · decide +kernel

theorem setBy_lossRate (environment : Environment) :
    SetBy environment Settings.lossRate "SLOTWIRE_LOSS_RATE" (Spelled fun word rate =>
      ∃ value, Text.Floating word value ∧ rate = clampRate value) :=
  .of_converted Text.readFloat? clampRate (fun _ _ => Text.readFloat?_eq_some_iff) fun _ => rfl

/-- A rate of losses is a probability unless it is spelled as no number. -/
theorem lossRate_bounds_iff (environment : Environment) :
    0.0 ≤ (ofEnvironment environment).lossRate ∧ (ofEnvironment environment).lossRate ≤ 1.0 ↔
      ∀ text ∈ environment "SLOTWIRE_LOSS_RATE",
        ¬ ∃ word, Text.Surrounds text.toList word ∧ Text.SaysNaN word := by
  rcases (setBy_lossRate environment).read_or_default with
    ⟨text, _, htext, ⟨word, hword, value, hvalue, rfl⟩, hrate⟩ | ⟨hnone, hrate⟩
  · rw [hrate, clampRate_bounds_iff, hvalue.isNaN_iff, htext]
    refine ⟨?_, fun hnumber hnan => hnumber text rfl ⟨word, hword, hnan⟩⟩
    rintro hnumber _ ⟨⟩ ⟨other, hother, hnan⟩
    rw [hother.unique hword] at hnan
    exact hnumber hnan
  · rw [hrate]
    refine iff_of_true (by decide +kernel) ?_
    rintro text htext ⟨word, hword, hnan⟩
    obtain ⟨value, hvalue, -⟩ := hnan.exists_floating
    exact hnone text _ htext ⟨word, hword, value, hvalue, rfl⟩

theorem setBy_replyLifetime (environment : Environment) :
    SetBy environment Settings.replyLifetime "SLOTWIRE_CACHE_TTL_SECS"
      (Spelled fun word lifetime => ∃ seconds, Count word seconds ∧
        lifetime = min (seconds * Limits.second) Limits.replyLifetime) :=
  .of_converted (Text.readBelow? UInt64.size)
    (fun seconds => min (seconds * Limits.second) Limits.replyLifetime)
    (fun _ _ => readCount?_eq_some_iff) fun _ => rfl

theorem replyLifetime_le (environment : Environment) :
    (ofEnvironment environment).replyLifetime ≤ Limits.replyLifetime := by
  rcases (setBy_replyLifetime environment).read_or_default with
    ⟨_, _, -, ⟨_, -, seconds, -, rfl⟩, hlifetime⟩ | ⟨-, hlifetime⟩
  · rw [hlifetime]
    exact Nat.min_le_right _ _
  · rw [hlifetime]
    decide

/-- Each setting is set by its own variable or has its default, and all of them are bounded,
but for a rate of losses that is spelled as no number: the settings keep it, while the losses
themselves are still drawn with a probability. -/
theorem environment_sets_each_alone (environment : Environment) :
    let settings := ofEnvironment environment
    SetBy environment Settings.bind "SLOTWIRE_BIND" (fun text host => host = text) ∧
    SetBy environment Settings.port "SLOTWIRE_PORT"
      (Spelled fun word port => Text.Numeral word port.toNat) ∧
    SetBy environment Settings.atMostOnce "SLOTWIRE_AT_MOST_ONCE" (Spelled Switch) ∧
    SetBy environment Settings.lossRate "SLOTWIRE_LOSS_RATE" (Spelled fun word rate =>
      ∃ value, Text.Floating word value ∧ rate = clampRate value) ∧
    SetBy environment Settings.lossSeed "SLOTWIRE_LOSS_SEED" (Spelled fun word seed =>
      ∃ value : UInt64, Text.Numeral word value.toNat ∧ seed = some value) ∧
    SetBy environment Settings.replyLifetime "SLOTWIRE_CACHE_TTL_SECS"
      (Spelled fun word lifetime => ∃ seconds, Count word seconds ∧
        lifetime = min (seconds * Limits.second) (7 * 24 * 3600 * Limits.second)) ∧
    SetBy environment Settings.receiveTimeout "SLOTWIRE_RECV_TIMEOUT_MS"
      (Spelled fun word timeout => ∃ count, Count word count ∧
        timeout = count * Limits.millisecond) ∧
    SetBy environment Settings.metricsPort "SLOTWIRE_METRICS_PORT" (Spelled fun word found =>
      ∃ port : UInt16, Text.Numeral word port.toNat ∧ found = some port) ∧
    settings.sweepInterval = ({} : Settings).sweepInterval ∧
    settings.replyLifetime ≤ 7 * 24 * 3600 * Limits.second ∧
    (0.0 ≤ settings.lossRate ∧ settings.lossRate ≤ 1.0 ↔
      ∀ text ∈ environment "SLOTWIRE_LOSS_RATE",
        ¬ ∃ word, Text.Surrounds text.toList word ∧ Text.SaysNaN word) ∧
    ∀ seed, 0.0 ≤ (Loss.new settings.lossRate seed).rate ∧
      (Loss.new settings.lossRate seed).rate ≤ 1.0 := by
  refine ⟨?_, ?_, ?_, setBy_lossRate environment, ?_, setBy_replyLifetime environment, ?_, ?_, rfl,
    replyLifetime_le environment, lossRate_bounds_iff environment, new_rate_bounds _⟩
  · exact .of_read some (fun _ _ => by rw [Option.some.injEq, eq_comm]) fun environment => by
      rw [Option.bind_fun_some]
      rfl
  · exact .of_word readPort? (fun _ _ => readPort?_eq_some_iff) fun _ => rfl
  · exact .of_word readSwitch? (fun _ _ => readSwitch?_eq_some_iff) fun _ => rfl
  · refine .of_optional _ (fun _ _ => readSeed?_eq_some_iff) rfl fun environment => ?_
    exact Option.map_bind
  · exact .of_converted _ _ (fun _ _ => readCount?_eq_some_iff) fun _ => rfl
  · exact .of_optional _ (fun _ _ => readPort?_eq_some_iff) rfl fun _ => rfl

/-- The word for it makes a rate of losses that is no number, and so no probability. -/
theorem loss_rate_without_number :
    let settings := ofEnvironment fun name =>
      if name = "SLOTWIRE_LOSS_RATE" then some "nan" else none
    settings.lossRate.isNaN ∧ ¬ (0.0 ≤ settings.lossRate ∧ settings.lossRate ≤ 1.0) := by
  decide +kernel

/-- A number that does not fit leaves the default, and signs and leading zeros do not count. -/
example :
    let settings := ofEnvironment fun name =>
      if name = "SLOTWIRE_PORT" then some " +0080\n"
      else if name = "SLOTWIRE_METRICS_PORT" then some "65536" else none
    settings.port = 80 ∧ settings.metricsPort = none := by
  decide +kernel

end Settings

end FacilityBooking
