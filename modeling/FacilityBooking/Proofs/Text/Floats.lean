import FacilityBooking.Text.Fraction
import Mathlib

/-!
# Floating-point numbers

The order of the floating-point numbers, and the values that are no numbers: these stand in
no order to any value, and no decimal fraction is rounded to one of them.
-/

namespace FacilityBooking.Text

open Float.Model (UnpackedFloat Format)
open Float.Model.UnpackedFloat

/-! ## The order -/

theorem swap_compare (first second : UnpackedFloat) :
    (first.compare second).map Ordering.swap = second.compare first := by
  cases first with
  | notANumber => cases second <;> rfl
  | infinity sign =>
      cases second with
      | infinity other => cases sign <;> cases other <;> rfl
      | _ => cases sign <;> rfl
  | zero sign =>
      cases second with
      | infinity other => cases other <;> rfl
      | finite other => cases other <;> rfl
      | _ => rfl
  | finite sign mantissa exponent =>
      cases second with
      | infinity other => cases sign <;> cases other <;> rfl
      | notANumber => rfl
      | zero other => cases sign <;> rfl
      | finite other found power =>
          have hexponent : (compare exponent power).swap = compare power exponent :=
            Std.OrientedCmp.eq_swap.symm
          have hmantissa : (compare mantissa found).swap = compare found mantissa :=
            Std.OrientedCmp.eq_swap.symm
          cases sign <;> cases other <;>
            simp [UnpackedFloat.compare, Ordering.swap_then, hexponent, hmantissa]

/-- Only a value that is no number cannot be compared. -/
theorem compare_eq_none_iff {first second : UnpackedFloat} :
    first.compare second = none ↔ first = .notANumber ∨ second = .notANumber := by
  constructor
  · intro hnone
    fun_cases UnpackedFloat.compare first second <;> simp_all [UnpackedFloat.compare]
  · rintro (rfl | rfl)
    · rfl
    · cases first <;> rfl

theorem float_lt_iff {first second : Float} :
    first < second ↔ first.toModel.unpack.compare second.toModel.unpack = some .lt := by
  change decide (_ == some Ordering.lt) = true ↔ _
  rw [decide_eq_true_eq, beq_iff_eq]

theorem float_le_iff {first second : Float} :
    first ≤ second ↔
      ∃ order, first.toModel.unpack.compare second.toModel.unpack = some order ∧ order.isLE := by
  change decide (Option.any _ _ = true) = true ↔ _
  rw [decide_eq_true_eq, Option.any_eq_true]

theorem isNaN_iff_unpack {value : Float} :
    value.isNaN ↔ value.toModel.unpack = .notANumber :=
  isNaN_iff

theorem not_isNaN_of_isFinite {value : Float} (hfinite : value.isFinite) : ¬ value.isNaN := by
  rw [isNaN_iff_unpack]
  intro hunpack
  change value.toModel.unpack.isFinite = true at hfinite
  rw [hunpack] at hfinite
  exact nomatch hfinite

theorem not_isNaN_of_compare {first second : Float} {order : Ordering}
    (horder : first.toModel.unpack.compare second.toModel.unpack = some order) :
    ¬ first.isNaN ∧ ¬ second.isNaN := by
  rw [isNaN_iff_unpack, isNaN_iff_unpack, ← not_or, ← compare_eq_none_iff, horder]
  exact nofun

theorem not_isNaN_of_lt {first second : Float} (hlt : first < second) :
    ¬ first.isNaN ∧ ¬ second.isNaN :=
  not_isNaN_of_compare (float_lt_iff.mp hlt)

theorem not_isNaN_of_le {first second : Float} (hle : first ≤ second) :
    ¬ first.isNaN ∧ ¬ second.isNaN := by
  obtain ⟨order, horder, -⟩ := float_le_iff.mp hle
  exact not_isNaN_of_compare horder

/-- Numbers are in linear order. -/
theorem le_of_not_lt {first second : Float} (hfirst : ¬ first.isNaN) (hsecond : ¬ second.isNaN)
    (hlt : ¬ first < second) : second ≤ first := by
  rw [isNaN_iff_unpack] at hfirst hsecond
  obtain ⟨order, horder⟩ := Option.ne_none_iff_exists'.mp fun hnone =>
    (compare_eq_none_iff.mp hnone).elim hfirst hsecond
  rw [float_lt_iff, horder] at hlt
  rw [float_le_iff, ← swap_compare, horder]
  refine ⟨order.swap, rfl, ?_⟩
  cases order with
  | lt => exact absurd rfl hlt
  | eq => rfl
  | gt => rfl

/-! ## Packing -/

theorem fields_of_unpack_eq {spec : Format} {bits : BitVec spec.numBits}
    (hunpack : unpack spec bits = .notANumber) :
    unpackExponent bits = -1#_ ∧ unpackMantissa bits ≠ 0#_ := by
  unfold unpack at hunpack
  grind

theorem unpack_packComponents_ne {spec : Format} {sign : Sign}
    {exponent : BitVec spec.exponentBits} {mantissa : BitVec spec.mantissaBitsWithoutImplicit}
    (hnumber : exponent = -1#_ → mantissa = 0#_) :
    unpack spec (packComponents spec sign exponent mantissa) ≠ .notANumber := by
  intro hunpack
  obtain ⟨hexponent, hmantissa⟩ := fields_of_unpack_eq hunpack
  rw [unpackExponent_packComponents] at hexponent
  rw [unpackMantissa_packComponents] at hmantissa
  exact hmantissa (hnumber hexponent)

theorem unpack_pack_ne {spec : Format} {value : UnpackedFloat} (hvalue : value ≠ .notANumber) :
    unpack spec (pack spec value) ≠ .notANumber := by
  fun_cases pack with
  | case1 => exact absurd rfl hvalue
  | case2 => exact unpack_packComponents_ne fun _ => rfl
  | case3 => exact unpack_packComponents_ne fun _ => rfl
  | case4 => exact unpack_packComponents_ne fun _ => rfl
  | case5 sign mantissa exponent hpositive width biased hexponent =>
      -- The exponent of all ones is left to the values that are not finite.
      refine unpack_packComponents_ne fun hones => ?_
      have hbiased : biased % 2 ^ spec.exponentBits = 2 ^ spec.exponentBits - 1 := by
        simpa [BitVec.neg_one_eq_allOnes] using congrArg BitVec.toNat hones
      rw [Nat.mod_eq_of_lt (by omega)] at hbiased
      omega
  | case6 =>
      refine unpack_packComponents_ne fun hones => ?_
      exact absurd (BitVec.zero_eq_neg_one_iff.mp hones) (Nat.ne_of_gt spec.he)

theorem not_isNaN_pack {value : UnpackedFloat} (hvalue : value ≠ .notANumber) :
    ¬ (Float.ofModel (.pack value)).isNaN := by
  rw [isNaN_iff_unpack]
  exact unpack_pack_ne hvalue

theorem isNaN_neg {value : Float} : (-value).isNaN ↔ value.isNaN := by
  have hpack : -value = .ofModel (.pack value.toModel.unpack.neg) := rfl
  rw [hpack, @isNaN_iff_unpack value]
  cases value.toModel.unpack with
  | notANumber => exact iff_of_true (by decide +kernel) rfl
  | _ => exact iff_of_false (not_isNaN_pack nofun) nofun

/-! ## Rounding -/

theorem roundWithAccuracy_ne {spec : Format} {sign : Sign} {mantissa : Nat} {exponent : Int}
    {accuracy : Accuracy} :
    roundWithAccuracy spec sign mantissa exponent accuracy ≠ .notANumber := by
  unfold roundWithAccuracy
  grind

theorem mul_finite_ne {spec : Format} {first : UnpackedFloat} (hfirst : first ≠ .notANumber)
    {sign : Sign} {mantissa : Nat} {exponent : Int} {hpositive : 0 < mantissa} :
    UnpackedFloat.mul spec first (.finite sign mantissa exponent hpositive) ≠ .notANumber := by
  cases first with
  | notANumber => exact absurd rfl hfirst
  | finite => exact roundWithAccuracy_ne
  | _ => exact nofun

theorem div_finite_ne {spec : Format} {first : UnpackedFloat} (hfirst : first ≠ .notANumber)
    {sign : Sign} {mantissa : Nat} {exponent : Int} {hpositive : 0 < mantissa} :
    UnpackedFloat.div spec first (.finite sign mantissa exponent hpositive) ≠ .notANumber := by
  cases first with
  | notANumber => exact absurd rfl hfirst
  | finite => exact roundWithAccuracy_ne
  | _ => exact nofun

theorem ofInt_ne {spec : Format} {number : Int} :
    UnpackedFloat.ofInt spec number ≠ .notANumber := by
  unfold UnpackedFloat.ofInt UnpackedFloat.normalize
  split
  · exact roundWithAccuracy_ne
  · exact nofun
  · exact roundWithAccuracy_ne

theorem ofScientific_ne {spec : Format} {digits : Nat} {power : Int} :
    UnpackedFloat.ofScientific spec digits power ≠ .notANumber := by
  unfold UnpackedFloat.ofScientific
  split
  · exact nofun
  split
  · exact nofun
  split
  · exact nofun
  split
  · exact roundWithAccuracy_ne
  · exact roundWithAccuracy_ne

theorem all_powers_finite : Float.exactlyRepresentablePowersOfTen.all
    fun power => power.toModel.unpack matches .finite .. := by
  decide +kernel

/-- The powers of ten with an exact value are finite and not zero. -/
theorem exists_unpack_eq_finite {place : Nat}
    (hplace : place < Float.exactlyRepresentablePowersOfTen.size) :
    ∃ sign mantissa exponent hpositive,
      Float.exactlyRepresentablePowersOfTen[place].toModel.unpack =
        .finite sign mantissa exponent hpositive := by
  have hfinite := Array.all_eq_true.mp all_powers_finite place hplace
  split at hfinite
  · next hunpack => exact ⟨_, _, _, _, hunpack⟩
  · exact nomatch hfinite

/-- A decimal fraction is rounded to a number. -/
theorem not_isNaN_ofScientific (digits : Nat) (negative : Bool) (power : Nat) :
    ¬ (Float.ofScientific digits negative power).isNaN := by
  unfold Float.ofScientific
  split
  · next hsmall =>
      have hplace : power < Float.exactlyRepresentablePowersOfTen.size :=
        Nat.lt_succ_of_le hsmall.2
      have hdigits : digits.toUInt64.toFloat.toModel.unpack ≠ .notANumber :=
        unpack_pack_ne ofInt_ne
      obtain ⟨sign, mantissa, exponent, hpositive, hunpack⟩ := exists_unpack_eq_finite hplace
      dsimp only
      split
      · refine not_isNaN_pack ?_
        rw [hunpack]
        exact div_finite_ne hdigits
      · refine not_isNaN_pack ?_
        rw [hunpack]
        exact mul_finite_ne hdigits
  · exact not_isNaN_pack ofScientific_ne

theorem Fraction.not_isNaN_toFloat (fraction : Fraction) : ¬ fraction.toFloat.isNaN := by
  unfold Fraction.toFloat
  dsimp only
  split
  · decide +kernel
  split
  · decide +kernel
  · exact not_isNaN_ofScientific _ _ _

end FacilityBooking.Text
