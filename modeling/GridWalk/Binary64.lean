/-! Exact arithmetic on finite doubles. A magnitude is counted in units of the least positive
double, 2^-1074, so that every finite double is a natural number of units with a sign. -/
namespace GridWalk

structure Binary64 where
  negative : Bool
  units : Nat
deriving DecidableEq

def roundEven (num den : Nat) : Nat :=
  let floor := num / den
  let twice := 2 * (num % den)
  if twice < den ∨ (twice = den ∧ floor % 2 = 0) then floor else floor + 1

theorem roundEven_mul {den : Nat} (n : Nat) (h : 0 < den) : roundEven (n * den) den = n := by
  simp [roundEven, Nat.mul_div_cancel n h, h]

namespace Binary64

def ofFloat? (x : Float) : Option Binary64 :=
  let bits := x.toBits.toNat
  let negative := 1 <<< 63 ≤ bits
  let biased := bits >>> 52 % 1 <<< 11
  let fraction := bits % 1 <<< 52
  if biased = 2047 then none
  else if biased = 0 then some ⟨negative, fraction⟩
  else some ⟨negative, (1 <<< 52 + fraction) <<< (biased - 1)⟩

/-- The spacing of doubles at `num / den` units: 53 binary digits are kept, and never less than one
unit is told apart. -/
def spacing (num den : Nat) : Nat := 1 <<< ((num / den).log2 - 52)

def div (x : Binary64) (n : Nat) : Binary64 :=
  let s := spacing x.units n
  ⟨x.negative, roundEven x.units (n * s) * s⟩

def truncate (x : Binary64) : Int :=
  let n : Nat := x.units >>> 1074
  if x.negative then -n else n

end Binary64
end GridWalk
