import Spacing.Value.Basic

namespace Spacing

namespace RoundingSpan

def stored (bits : UInt64) : Nat := ((bits >>> 52) &&& 0x7FF).toNat

def fraction (bits : UInt64) : Nat := (bits &&& 0xFFFFFFFFFFFFF).toNat

variable (bits : UInt64)

theorem value_ofBits : (ofBits bits).value =
    (4 * if stored bits = 0 then fraction bits else 0x10000000000000 + fraction bits) <<<
      (max (stored bits) 1 - 1077) := rfl

theorem scale_ofBits : (ofBits bits).scale = 1077 - max (stored bits) 1 := rfl

theorem stored_eq : stored bits = bits.toNat / 0x10000000000000 % 0x800 := by
  rw [stored, UInt64.toNat_and, UInt64.toNat_shiftRight, Nat.shiftRight_eq_div_pow]
  exact Nat.and_two_pow_sub_one_eq_mod _ 11

theorem fraction_eq : fraction bits = bits.toNat % 0x10000000000000 := by
  rw [fraction, UInt64.toNat_and]
  exact Nat.and_two_pow_sub_one_eq_mod _ 52

variable {bits} (positive : bits.toNat < 0x8000000000000000)
include positive

theorem toNat_eq_fields : bits.toNat = stored bits * 0x10000000000000 + fraction bits := by
  rw [stored_eq, fraction_eq]
  omega

theorem value_eq_zero (zero : (ofBits bits).value = 0) : bits.toNat = 0 := by
  have fields := toNat_eq_fields positive
  rw [value_ofBits, Nat.shiftLeft_eq, Nat.mul_eq_zero] at zero
  have mantissa := zero.resolve_right (Nat.ne_of_gt (Nat.two_pow_pos _))
  split at mantissa
  · next none =>
    rw [none] at fields
    omega
  · omega

omit positive in
theorem exponent_eq_of_power {n k : Nat} (low : 0x40000000000000 ≤ n) (high : n < 0x80000000000000)
    (power : n = 1 <<< k) : k = 54 := by
  rw [power, Nat.one_shiftLeft] at low high
  have lower : 54 ≤ k := (Nat.pow_le_pow_iff_right (by decide : 1 < 2)).1 low
  have upper : k < 55 := (Nat.pow_lt_pow_iff_right (by decide : 1 < 2)).1 high
  omega

theorem value_eq_one (one : (ofBits bits).value = 1 <<< (ofBits bits).scale) :
    bits.toNat = 0x3FF0000000000000 := by
  have fields := toNat_eq_fields positive
  have bound : fraction bits < 0x10000000000000 := by
    rw [fraction_eq]
    exact Nat.mod_lt _ (by decide)
  rw [value_ofBits, scale_ofBits] at one
  by_cases large : 1077 ≤ max (stored bits) 1
  · rw [Nat.sub_eq_zero_of_le large, Nat.shiftLeft_eq, Nat.mul_assoc] at one
    omega
  · rw [Nat.sub_eq_zero_of_le (by omega : max (stored bits) 1 ≤ 1077), Nat.shiftLeft_zero] at one
    split at one
    · next subnormal =>
      have huge : 2 ^ 54 ≤ 2 ^ (1077 - max (stored bits) 1) :=
        Nat.pow_le_pow_right (by decide) (by omega)
      rw [Nat.one_shiftLeft] at one
      omega
    · have place := exponent_eq_of_power (by omega) (by omega) one
      rw [place] at one
      omega

end RoundingSpan

/-! ## Whole numbers -/

theorem toNat_magnitude (bits : UInt64) :
    (bits &&& 0x7FFFFFFFFFFFFFFF).toNat = bits.toNat % 0x8000000000000000 := by
  rw [UInt64.toNat_and]
  exact Nat.and_two_pow_sub_one_eq_mod _ 63

theorem exists_whole {x : Float} {n : Int} (number : wholeNumber? x = some n) :
    ∃ whole : Nat, n = (if x.toBits = x.toBits &&& 0x7FFFFFFFFFFFFFFF then (whole : Int) else -whole) ∧
      (RoundingSpan.ofBits (x.toBits &&& 0x7FFFFFFFFFFFFFFF)).value =
        whole <<< (RoundingSpan.ofBits (x.toBits &&& 0x7FFFFFFFFFFFFFFF)).scale := by
  unfold wholeNumber? at number
  dsimp only at number
  split at number
  · cases number
  · split at number
    · next exact =>
      exact ⟨_, (Option.some.inj number).symm, exact.symm⟩
    · cases number

theorem wholeNumber?_eq_zero_iff {x : Float} :
    wholeNumber? x = some 0 ↔ x.toBits = 0 ∨ x.toBits = 0x8000000000000000 := by
  constructor
  · intro number
    obtain ⟨whole, sign, count⟩ := exists_whole number
    have none : whole = 0 := by
      split at sign <;> omega
    rw [none, Nat.zero_shiftLeft] at count
    have magnitude := RoundingSpan.value_eq_zero (by rw [toNat_magnitude]; omega) count
    rw [toNat_magnitude] at magnitude
    have bound := x.toBits.toNat_lt
    by_cases unsigned : x.toBits.toNat < 0x8000000000000000
    · exact .inl (UInt64.toNat_inj.1 (by simp only [UInt64.reduceToNat]; omega))
    · exact .inr (UInt64.toNat_inj.1 (by simp only [UInt64.reduceToNat]; omega))
  · rintro (bits | bits)
    · rw [wholeNumber?, bits]
      decide
    · rw [wholeNumber?, bits]
      decide

theorem wholeNumber?_eq_one_iff {x : Float} :
    wholeNumber? x = some 1 ↔ x.toBits = 0x3FF0000000000000 := by
  constructor
  · intro number
    obtain ⟨whole, sign, count⟩ := exists_whole number
    split at sign
    · next unsigned =>
      obtain rfl : whole = 1 := by omega
      have magnitude := RoundingSpan.value_eq_one (by rw [toNat_magnitude]; omega) count
      rw [unsigned]
      exact UInt64.toNat_inj.1 (by rw [magnitude]; rfl)
    · omega
  · intro bits
    rw [wholeNumber?, bits]
    decide

end Spacing
