import Mathlib
import GridWalk.Proofs.Binary64.Rounding
/-! Reading doubles. The fields of a word are those that the standard library unpacks from it, so
that every finite float is read off as the number it denotes. -/
namespace GridWalk
open Float.Model (Format)
open Float.Model.UnpackedFloat (Sign unpack unpackSign unpackExponent unpackMantissa)

def denoted (p : Float) : Rat :=
  match p.toModel.unpack with
  | .finite sign mantissa exponent _ => sign.apply mantissa * 2 ^ exponent
  | _ => 0

namespace Binary64
variable (b : BitVec 64)

def signOf : Sign := if 1 <<< 63 ≤ b.toNat then .negative else .positive

def biasedOf : Nat := b.toNat >>> 52 % 1 <<< 11

def fractionOf : Nat := b.toNat % 1 <<< 52

theorem toNat_unpackExponent : (@unpackExponent .binary64 b).toNat = biasedOf b := by
  simp [unpackExponent, BitVec.extractLsb, biasedOf]

theorem toNat_unpackMantissa : (@unpackMantissa .binary64 b).toNat = fractionOf b := by
  simp [unpackMantissa, BitVec.extractLsb, fractionOf]

theorem ofBitVec_unpackSign : Sign.ofBitVec (@unpackSign .binary64 b) = signOf b := by
  have top : @unpackSign .binary64 b = 0#1 ↔ ¬ 1 <<< 63 ≤ b.toNat := by
    have := b.isLt
    rw [← BitVec.toNat_inj]
    simp [unpackSign, BitVec.extractLsb, Nat.shiftRight_eq_div_pow]
    omega
  simp only [Sign.ofBitVec, signOf, top, ite_not]

/-- What a word unpacks to: a field of ones is no finite number, a field of zeros has no implicit
digit. -/
theorem unpack_cases :
    (biasedOf b = 2047 ∧ (unpack Format.binary64 b).isFinite = false) ∨
    (biasedOf b = 0 ∧ fractionOf b = 0 ∧ unpack Format.binary64 b = .zero (signOf b)) ∨
    (biasedOf b = 0 ∧ ∃ pos, unpack Format.binary64 b =
      .finite (signOf b) (fractionOf b) (-1074) pos) ∨
    (biasedOf b ≠ 2047 ∧ biasedOf b ≠ 0 ∧
      ∃ pos, unpack Format.binary64 b =
        .finite (signOf b) (1 <<< 52 + fractionOf b) (biasedOf b - 1075) pos) := by
  have implicit : (1#1 ++ @unpackMantissa .binary64 b).toNat = 1 <<< 52 + fractionOf b := by
    rw [BitVec.toNat_append, ← toNat_unpackMantissa,
      ← Nat.shiftLeft_add_eq_or_of_lt (BitVec.isLt _)]
    rfl
  simp only [unpack, ← toNat_unpackExponent, ← ofBitVec_unpackSign, implicit]
  by_cases top : @unpackExponent .binary64 b = -1#11
  · left
    rw [if_pos top, top]
    split <;> exact ⟨rfl, rfl⟩
  right
  by_cases bottom : @unpackExponent .binary64 b = 0#11
  · rw [if_neg top, if_pos bottom, bottom]
    simp only [← toNat_unpackMantissa]
    split
    next zero => exact .inl ⟨rfl, by rw [zero]; rfl, rfl⟩
    next nonzero =>
      exact .inr
        (.inl ⟨rfl, Nat.pos_of_ne_zero fun h => nonzero (BitVec.eq_of_toNat_eq h), rfl⟩)
  · rw [if_neg top, if_neg bottom]
    exact .inr
      (.inr ⟨fun h => top (BitVec.eq_of_toNat_eq h), fun h => bottom (BitVec.eq_of_toNat_eq h),
      Nat.add_pos_left (by decide) _, rfl⟩)

theorem ofFloat?_eq (p : Float) : ofFloat? p =
    if biasedOf p.toBits.toBitVec = 2047 then none
    else if biasedOf p.toBits.toBitVec = 0 then
      some ⟨1 <<< 63 ≤ p.toBits.toBitVec.toNat, fractionOf p.toBits.toBitVec⟩
    else some ⟨1 <<< 63 ≤ p.toBits.toBitVec.toNat,
      (1 <<< 52 + fractionOf p.toBits.toBitVec) <<< (biasedOf p.toBits.toBitVec - 1)⟩ := rfl

theorem denoted_eq (p : Float) : denoted p =
    match unpack Format.binary64 p.toBits.toBitVec with
    | .finite sign mantissa exponent _ => sign.apply mantissa * 2 ^ exponent
    | _ => 0 := rfl

theorem value_mul_two_pow (negative : Bool) (m k : Nat) :
    (⟨negative, m * 2 ^ k⟩ : Binary64).value =
    (if negative then Sign.negative else .positive).apply m * (2 : Rat) ^ ((k : Int) - 1074) := by
  rw [zpow_sub₀ two_ne_zero, zpow_natCast, value, signed]
  cases negative <;> simp [Sign.apply, neg_div, mul_div_assoc]

/-- Every finite float is read off exactly. -/
theorem exists_ofFloat?_eq_some {p : Float} (h : p.isFinite) :
    ∃ x, ofFloat? p = some x ∧ x.IsDouble ∧ x.value = denoted p := by
  change (unpack Format.binary64 p.toBits.toBitVec).isFinite at h
  rw [ofFloat?_eq, denoted_eq]
  generalize p.toBits.toBitVec = b at *
  have fraction : fractionOf b < 2 ^ 52 := Nat.mod_lt _ (by decide)
  have biased : biasedOf b < 2 ^ 11 := Nat.mod_lt _ (by decide)
  obtain ⟨-, infinite⟩ | ⟨zero, empty, eq⟩ | ⟨zero, pos, eq⟩ |
      ⟨finite, normal, pos, eq⟩ := unpack_cases b
  · rw [infinite] at h
    cases h
  · refine ⟨⟨1 <<< 63 ≤ b.toNat, 0⟩, by simp [zero, empty],
      ⟨0, by decide, 0, by decide, rfl⟩, ?_⟩
    simp [eq, value, signed]
  · refine ⟨⟨1 <<< 63 ≤ b.toNat, fractionOf b * 2 ^ 0⟩, by simp [zero],
      ⟨_, by omega, 0, by decide, rfl⟩, ?_⟩
    rw [value_mul_two_pow, eq]
    simp [signOf]
  · refine ⟨⟨1 <<< 63 ≤ b.toNat, (1 <<< 52 + fractionOf b) * 2 ^ (biasedOf b - 1)⟩,
      by rw [if_neg finite, if_neg normal, Nat.shiftLeft_eq (1 <<< 52 + _)],
      ⟨_, by rw [Nat.one_shiftLeft]; omega, _, by omega, rfl⟩, ?_⟩
    rw [value_mul_two_pow, eq,
      show ((biasedOf b - 1 : Nat) : Int) - 1074 = biasedOf b - 1075 by omega]
    simp [signOf]

end Binary64
end GridWalk
