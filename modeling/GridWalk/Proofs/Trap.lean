/-! Operations of a machine that stop with a trap where it would go wrong: slots of an array that do
not exist, and on words of 64 bits a result too large, a divisor 0, a column or row that does not
fit. On numbers small enough the words compute as the natural numbers do. -/
namespace GridWalk

inductive Trap where
  | overflow
  | zeroDivisor
  | lostBits
  | outOfRange
  | emptyRange
deriving DecidableEq

section
variable {β γ : Type} {xs : Array β} {i : Nat} {b : β}

@[simp] theorem ok_bind (b : β) (k : β → Except Trap γ) : (Except.ok b >>= k) = k b := rfl

def load (xs : Array β) (i : Nat) : Except Trap β :=
  if h : i < xs.size then .ok xs[i] else .error .outOfRange

def store (xs : Array β) (i : Nat) (b : β) : Except Trap (Array β) :=
  if h : i < xs.size then .ok (xs.set i b) else .error .outOfRange

theorem load_eq_ok_iff : load xs i = .ok b ↔ xs[i]? = some b := by
  rw [load]
  by_cases h : i < xs.size
  · rw [dif_pos h, Array.getElem?_eq_getElem h, Except.ok.injEq, Option.some.injEq]
  · rw [dif_neg h, Array.getElem?_eq_none (by omega)]
    simp

theorem store_of_lt (h : i < xs.size) (b : β) : store xs i b = .ok (xs.set i b) := dif_pos h

end

namespace Word
variable {m n : Nat}

def add (a b : UInt64) : Except Trap UInt64 :=
  if a.toNat + b.toNat < UInt64.size then .ok (a + b) else .error .overflow

def mul (a b : UInt64) : Except Trap UInt64 :=
  if a.toNat * b.toNat < UInt64.size then .ok (a * b) else .error .overflow

def div (a b : UInt64) : Except Trap UInt64 := if b = 0 then .error .zeroDivisor else .ok (a / b)

def mod (a b : UInt64) : Except Trap UInt64 := if b = 0 then .error .zeroDivisor else .ok (a % b)

def ofAxis (n : Int32) : Except Trap UInt64 :=
  if 0 ≤ n then .ok n.toInt64.toUInt64 else .error .lostBits

def toAxis (a : UInt64) : Except Trap Int32 :=
  if a.toNat < 2147483648 then .ok (Int32.ofNat a.toNat) else .error .lostBits

theorem add_ofNat (h : m + n < UInt64.size) :
    add (.ofNat m) (.ofNat n) = .ok (.ofNat (m + n)) := by
  rw [add, UInt64.toNat_ofNat_of_lt' (by omega), UInt64.toNat_ofNat_of_lt' (by omega), if_pos h,
    UInt64.ofNat_add]

theorem mul_ofNat (hm : m < UInt64.size) (hn : n < UInt64.size) (h : m * n < UInt64.size) :
    mul (.ofNat m) (.ofNat n) = .ok (.ofNat (m * n)) := by
  rw [mul, UInt64.toNat_ofNat_of_lt' hm, UInt64.toNat_ofNat_of_lt' hn, if_pos h, UInt64.ofNat_mul]

theorem ofNat_ne_zero (h : 0 < n) (hn : n < UInt64.size) : UInt64.ofNat n ≠ 0 := by
  intro e
  have zero := congrArg UInt64.toNat e
  rw [UInt64.toNat_ofNat_of_lt' hn, UInt64.toNat_zero] at zero
  omega

theorem div_ofNat (hm : m < UInt64.size) (h : 0 < n) (hn : n < UInt64.size) :
    div (.ofNat m) (.ofNat n) = .ok (.ofNat (m / n)) := by
  rw [div, if_neg (ofNat_ne_zero h hn), UInt64.ofNat_div hm hn]

theorem mod_ofNat (hm : m < UInt64.size) (h : 0 < n) (hn : n < UInt64.size) :
    mod (.ofNat m) (.ofNat n) = .ok (.ofNat (m % n)) := by
  rw [mod, if_neg (ofNat_ne_zero h hn), UInt64.ofNat_mod hm hn]

theorem ofAxis_of_nonneg {n : Int32} (h : 0 ≤ n.toInt) :
    ofAxis n = .ok (.ofNat n.toNatClampNeg) := by
  have nonneg : 0 ≤ n := Int32.le_iff_toInt_le.2 h
  rw [ofAxis, if_pos nonneg, ← Int64.ofNat_int32ToNatClampNeg n nonneg, Int64.toUInt64_ofNat']

theorem toAxis_ofNat (h : n < 2147483648) : toAxis (.ofNat n) = .ok (.ofNat n) := by
  have small : n < UInt64.size := Nat.lt_trans h (by decide)
  rw [toAxis, UInt64.toNat_ofNat_of_lt' small, if_pos h]

theorem toUInt64_eq_ofNat (w : UInt32) : w.toUInt64 = .ofNat w.toNat :=
  (UInt64.ofNat_uInt32ToNat w).symm

theorem toNat_lt_size (w : UInt32) : w.toNat < UInt64.size :=
  Nat.lt_trans w.toNat_lt (by decide)

end Word
end GridWalk
