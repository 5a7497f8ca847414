import GridWalk.Binary64
import Mathlib.Algebra.Order.Field.Basic
import Mathlib.Data.Nat.Dist
import Mathlib.Tactic.FieldSimp
import Mathlib.Tactic.Positivity
import Mathlib.Tactic.Ring
/-! Division by a whole number is correctly rounded: it gives the double nearest to the exact
quotient, and of two equally near ones the one whose last digit is even. Magnitudes are compared as
natural numbers, in units of the least double; `nearest_div` says the same of the numbers they stand
for. -/
namespace GridWalk

section roundEven
variable {num den k : Nat}

theorem roundEven_cases (num den : Nat) :
    (roundEven num den = num / den ∧ 2 * (num % den) ≤ den) ∨
      (roundEven num den = num / den + 1 ∧ den ≤ 2 * (num % den)) := by
  unfold roundEven
  dsimp only
  split <;> omega

theorem dist_roundEven_le (h : 0 < den) (k : Nat) :
    (roundEven num den * den).dist num ≤ (k * den).dist num := by
  have whole := Nat.div_add_mod' num den
  have rest := Nat.mod_lt num h
  have side : k * den ≤ num / den * den ∨ num / den * den + den ≤ k * den := by
    rw [← Nat.succ_mul]
    exact (Nat.lt_or_ge (num / den) k).symm.imp (Nat.mul_le_mul_right den)
      (Nat.mul_le_mul_right den)
  unfold Nat.dist
  obtain ⟨down, half⟩ | ⟨up, half⟩ := roundEven_cases num den
  · rw [down]; omega
  · rw [up, Nat.succ_mul]; omega

theorem roundEven_of_tie (tie : 2 * (num % den) = den) : roundEven num den % 2 = 0 := by
  unfold roundEven
  dsimp only
  split <;> omega

/-- Two multiples equally near a number lie on its two sides, half a step off. -/
theorem tie_of_dist_eq (h : 0 < den) (ne : k ≠ roundEven num den)
    (eq : (k * den).dist num = (roundEven num den * den).dist num) : 2 * (num % den) = den := by
  have whole := Nat.div_add_mod' num den
  have rest := Nat.mod_lt num h
  have side : k * den + den ≤ num / den * den ∨ k = num / den ∨ k = num / den + 1 ∨
      num / den * den + 2 * den ≤ k * den := by
    rw [← Nat.succ_mul, ← Nat.add_mul]
    have order : k + 1 ≤ num / den ∨ k = num / den ∨ k = num / den + 1 ∨
        num / den + 2 ≤ k := by omega
    exact order.imp (Nat.mul_le_mul_right den)
      (Or.imp_right (Or.imp_right (Nat.mul_le_mul_right den)))
  unfold Nat.dist at eq
  obtain ⟨down, half⟩ | ⟨up, half⟩ := roundEven_cases num den
  · rw [down] at ne eq
    obtain below | at_floor | above | beyond := side
    · omega
    · exact absurd at_floor ne
    · rw [above, Nat.succ_mul] at eq; omega
    · omega
  · rw [up] at ne eq
    rw [Nat.succ_mul] at eq
    obtain below | at_floor | above | beyond := side
    · omega
    · rw [at_floor] at eq; omega
    · exact absurd above ne
    · omega

end roundEven

namespace Binary64
variable {x y z : Binary64} {a b n : Nat}

def Short (a : Nat) : Prop := ∃ m < 2 ^ 53, ∃ e, a = m * 2 ^ e

def EndsEven (a : Nat) : Prop := ∃ m < 2 ^ 52, ∃ e, a = 2 * m * 2 ^ e

theorem short_zero : Short 0 := ⟨0, by decide, 0, rfl⟩

/-- Digits beyond a power can be read as part of the number before it. -/
theorem mul_two_pow_of_le {top e : Nat} (m : Nat) (h : top ≤ e) :
    m * 2 ^ e = m * 2 ^ (e - top) * 2 ^ top := by
  rw [Nat.mul_assoc, ← Nat.pow_add, Nat.sub_add_cancel h]

theorem short_of_le {m : Nat} (h : m ≤ 2 ^ 53) (e : Nat) : Short (m * 2 ^ e) := by
  obtain lt | rfl := h.lt_or_eq
  · exact ⟨m, lt, e, rfl⟩
  · exact ⟨1, by decide, 53 + e, by rw [Nat.one_mul, Nat.pow_add]⟩

theorem endsEven_of_le {m : Nat} (h : m ≤ 2 ^ 53) (even : m % 2 = 0) (e : Nat) :
    EndsEven (m * 2 ^ e) := by
  obtain lt | rfl := h.lt_or_eq
  · exact ⟨m / 2, by omega, e, by rw [Nat.mul_div_cancel' (Nat.dvd_of_mod_eq_zero even)]⟩
  · exact ⟨1, by decide, 52 + e, by ring⟩

theorem spacing_eq (a n : Nat) : spacing a n = 2 ^ ((a / n).log2 - 52) := by
  rw [spacing, Nat.shiftLeft_eq, Nat.one_mul]

theorem spacing_pos (a n : Nat) : 0 < spacing a n := by
  rw [spacing_eq]
  exact Nat.two_pow_pos _

theorem div_lt_spacing (a n : Nat) : a / n < 2 ^ 53 * spacing a n :=
  calc a / n < 2 ^ ((a / n).log2 + 1) := Nat.lt_log2_self
    _ ≤ 2 ^ (53 + ((a / n).log2 - 52)) := Nat.pow_le_pow_right (by decide) (by omega)
    _ = 2 ^ 53 * spacing a n := by rw [spacing_eq, Nat.pow_add]

/-- What 53 digits can write is a multiple of the spacing, or it lies below the place where that
spacing begins. -/
theorem Short.dvd_or_lt (h : Short b) (a n : Nat) :
    spacing a n ∣ b ∨ b < 2 ^ 52 * spacing a n ∧ 2 ^ 52 * spacing a n * n ≤ a := by
  obtain ⟨m, hm, e, rfl⟩ := h
  rw [spacing_eq]
  obtain lt | ge := Nat.lt_or_ge e ((a / n).log2 - 52)
  · have pos : a / n ≠ 0 := by
      rintro zero
      rw [zero, Nat.log2_zero] at lt
      omega
    right
    constructor
    · calc m * 2 ^ e < 2 ^ 53 * 2 ^ e := Nat.mul_lt_mul_of_pos_right hm (Nat.two_pow_pos e)
        _ = 2 ^ 52 * 2 ^ (e + 1) := by ring
        _ ≤ 2 ^ 52 * 2 ^ ((a / n).log2 - 52) :=
          Nat.mul_le_mul_left _ (Nat.pow_le_pow_right (by decide) lt)
    · have whole : 2 ^ 52 * 2 ^ ((a / n).log2 - 52) ≤ a / n := by
        rw [← Nat.pow_add, show 52 + ((a / n).log2 - 52) = (a / n).log2 by omega]
        exact Nat.log2_self_le pos
      exact (Nat.mul_le_mul_right n whole).trans (Nat.div_mul_le_self a n)
  · exact .inl (Dvd.dvd.mul_left (Nat.pow_dvd_pow 2 ge) m)

theorem negative_div (x : Binary64) (n : Nat) : (x.div n).negative = x.negative := by rw [div]

theorem units_div (x : Binary64) (n : Nat) :
    (x.div n).units = roundEven x.units (n * spacing x.units n) * spacing x.units n := rfl

theorem units_div_mul (x : Binary64) (n : Nat) : (x.div n).units * n =
    roundEven x.units (n * spacing x.units n) * (n * spacing x.units n) := by
  rw [units_div]
  ring

theorem roundEven_le (x : Binary64) (n : Nat) :
    roundEven x.units (n * spacing x.units n) ≤ 2 ^ 53 := by
  have floor : x.units / (n * spacing x.units n) < 2 ^ 53 := by
    rw [← Nat.div_div_eq_div_mul, Nat.div_lt_iff_lt_mul (spacing_pos _ _)]
    exact div_lt_spacing _ _
  obtain ⟨eq, -⟩ | ⟨eq, -⟩ := roundEven_cases x.units (n * spacing x.units n) <;> omega

theorem short_div (x : Binary64) (n : Nat) : Short (x.div n).units := by
  have le := roundEven_le x n
  rw [units_div]
  rw [spacing_eq] at le ⊢
  exact short_of_le le _

/-- Nothing that 53 digits can write is nearer to the quotient. -/
theorem dist_div_le (x : Binary64) (hn : 0 < n) (h : Short b) :
    ((x.div n).units * n).dist x.units ≤ (b * n).dist x.units := by
  have step : 0 < n * spacing x.units n := Nat.mul_pos hn (spacing_pos _ _)
  rw [units_div_mul]
  obtain ⟨j, rfl⟩ | ⟨below, start⟩ := h.dvd_or_lt x.units n
  · calc _ ≤ (j * (n * spacing x.units n)).dist x.units := dist_roundEven_le step j
      _ = (spacing x.units n * j * n).dist x.units := by ring_nf
  · calc _ ≤ (2 ^ 52 * (n * spacing x.units n)).dist x.units := dist_roundEven_le step _
      _ = (2 ^ 52 * spacing x.units n * n).dist x.units := by ring_nf
      _ ≤ (b * n).dist x.units := by
        have := Nat.mul_le_mul_right n below.le
        unfold Nat.dist
        omega

/-- Where something else is as near, the last digit is even. -/
theorem endsEven_div (x : Binary64) (hn : 0 < n) (h : Short b) (ne : b ≠ (x.div n).units)
    (tie : (b * n).dist x.units = ((x.div n).units * n).dist x.units) :
    EndsEven (x.div n).units := by
  have step : 0 < n * spacing x.units n := Nat.mul_pos hn (spacing_pos _ _)
  obtain ⟨j, rfl⟩ | ⟨below, start⟩ := h.dvd_or_lt x.units n
  · have other : j ≠ roundEven x.units (n * spacing x.units n) := by
      rintro rfl
      exact ne (Nat.mul_comm _ _)
    have even := roundEven_of_tie (tie_of_dist_eq step other (by
      rw [← units_div_mul, ← tie]
      ring_nf))
    have le := roundEven_le x n
    rw [units_div]
    rw [spacing_eq] at le even ⊢
    exact endsEven_of_le le even _
  · -- The quotient is at least where its spacing begins, so what lies below that is further off.
    have near := @dist_roundEven_le x.units _ step (2 ^ 52)
    have further := Nat.mul_lt_mul_of_pos_right below hn
    rw [← units_div_mul,
      show 2 ^ 52 * (n * spacing x.units n) = 2 ^ 52 * spacing x.units n * n by ring] at near
    unfold Nat.dist at near tie
    omega

def signed (x : Binary64) : Int := if x.negative then -x.units else x.units

def value (x : Binary64) : Rat := x.signed / 2 ^ 1074

/-- The magnitudes of finite doubles: 53 binary digits, none of them at 2^1024 or above. -/
def IsDouble (x : Binary64) : Prop := ∃ m < 2 ^ 53, ∃ e ≤ 2045, x.units = m * 2 ^ e

theorem IsDouble.short (h : x.IsDouble) : Short x.units := by
  obtain ⟨m, hm, e, -, eq⟩ := h
  exact ⟨m, hm, e, eq⟩

theorem Short.isDouble_of_le (h : Short z.units) (hx : x.IsDouble) (le : z.units ≤ x.units) :
    z.IsDouble := by
  obtain ⟨m, hm, e, eq⟩ := h
  obtain ⟨m', hm', e', he', eq'⟩ := hx
  unfold IsDouble
  generalize 2045 = top at he' ⊢
  obtain low | high := Nat.le_total e top
  · exact ⟨m, hm, e, low, eq⟩
  · have eq := eq.trans (mul_two_pow_of_le m high)
    have fits : m * 2 ^ (e - top) * 2 ^ top ≤ m' * 2 ^ top :=
      calc _ = z.units := eq.symm
        _ ≤ m' * 2 ^ e' := le.trans eq'.le
        _ ≤ m' * 2 ^ top := Nat.mul_le_mul_left m' (Nat.pow_le_pow_right (by decide) he')
    exact ⟨_, (Nat.le_of_mul_le_mul_right fits (Nat.two_pow_pos top)).trans_lt hm', top,
      le_refl top, eq⟩

/-- `z` is the double nearest to `q`, and of two equally near ones it is the one whose last digit is
even. -/
structure Nearest (q : Rat) (z : Binary64) : Prop where
  isDouble : z.IsDouble
  closest : ∀ y : Binary64, y.IsDouble → |z.value - q| ≤ |y.value - q|
  even : ∀ y : Binary64, y.IsDouble → y.value ≠ z.value → |y.value - q| = |z.value - q| →
    EndsEven z.units

/-- How far a double is from a quotient, over the product of the scales. -/
theorem abs_value_sub (y x : Binary64) (hn : 0 < n) : |y.value - x.value / n| =
    ((if y.negative = x.negative then (y.units * n).dist x.units
      else y.units * n + x.units : Nat) : Rat) / (2 ^ 1074 * n) := by
  have positive : (0 : Rat) < 2 ^ 1074 * n := by positivity
  have whole : (y.signed * n - x.signed).natAbs =
      if y.negative = x.negative then (y.units * n).dist x.units else y.units * n + x.units := by
    have product : ((y.units * n : Nat) : Int) = y.units * n := Nat.cast_mul _ _
    unfold signed Nat.dist
    cases y.negative <;> cases x.negative <;> simp [neg_mul] <;> omega
  rw [← whole, Nat.cast_natAbs, Int.cast_abs, ← abs_of_pos positive, ← abs_div, value, value]
  congr 1
  push_cast
  field_simp

/-- Division by a whole number is the exact quotient, correctly rounded. -/
theorem nearest_div (hx : x.IsDouble) (hn : 0 < n) : (x.div n).Nearest (x.value / n) := by
  have scale : (0 : Rat) < 2 ^ 1074 * n := by positivity
  have own : |(x.div n).value - x.value / n| =
      (((x.div n).units * n).dist x.units : Nat) / (2 ^ 1074 * n : Rat) := by
    rw [abs_value_sub _ x hn, if_pos (negative_div x n)]
  have from_zero : ((x.div n).units * n).dist x.units ≤ x.units := by
    simpa [Nat.dist] using dist_div_le x hn short_zero
  refine ⟨(short_div x n).isDouble_of_le hx ?_, fun y hy => ?_, fun y hy ne tie => ?_⟩
  · have le := dist_div_le x hn hx.short
    have smaller : (x.div n).units * n ≤ x.units * n := by
      have := Nat.le_mul_of_pos_right x.units hn
      unfold Nat.dist at le
      omega
    exact Nat.le_of_mul_le_mul_right smaller hn
  · rw [own, abs_value_sub y x hn]
    apply div_le_div_of_nonneg_right _ scale.le
    norm_cast
    split
    · exact dist_div_le x hn hy.short
    · omega
  · rw [own, abs_value_sub y x hn, div_left_inj' scale.ne'] at tie
    norm_cast at tie
    split at tie
    next same =>
      refine endsEven_div x hn hy.short (fun eq => ne ?_) tie
      rw [value, value, signed, signed, same, eq]
      rfl
    next differ =>
      -- Across zero only zero itself is as near.
      have none_left : y.units = 0 := by
        have : y.units * n = 0 := by omega
        simpa [hn.ne'] using this
      refine endsEven_div x hn short_zero (fun eq => ne ?_) ?_
      · simp [value, signed, none_left, ← eq]
      · simpa [none_left, Nat.dist] using tie

end Binary64
end GridWalk
