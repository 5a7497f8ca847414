/-! Uniform draws. A source of chance yields numbers below a given bound; a tape of words yields
them by scaling, with one more word where the first leaves the result open. -/
namespace GridWalk

class Chance (ρ : Type) where
  draw (n : Nat) (h : 0 < n) : ρ → Fin n × ρ

/-- Words handed out in order, from the first again when all are used; an empty tape reads as
zero. -/
structure WordTape where
  words : Array UInt32
  used : Nat := 0
deriving DecidableEq

namespace WordTape

def next (t : WordTape) : UInt32 × WordTape :=
  (t.words[t.used % t.words.size]?.getD 0, { t with used := t.used + 1 })

def whole (n : Nat) (w : UInt32) : Nat := w.toNat * n / UInt32.size

def rest (n : Nat) (w : UInt32) : Nat := w.toNat * n % UInt32.size

theorem whole_lt {n : Nat} (h : 0 < n) (w : UInt32) : whole n w < n := by
  refine Nat.div_lt_of_lt_mul ?_
  exact (Nat.mul_lt_mul_right h).2 w.toNat_lt

/-- A rest that a second word may carry over leaves room for the carry. -/
theorem whole_succ_lt {n : Nat} {w : UInt32} (h : UInt32.size < rest n w + n) :
    whole n w + 1 < n := by
  have split : UInt32.size * whole n w + rest n w = w.toNat * n := Nat.div_add_mod _ _
  have bound : (w.toNat + 1) * n ≤ UInt32.size * n := Nat.mul_le_mul_right n w.toNat_lt
  rw [Nat.succ_mul] at bound
  unfold UInt32.size at h split bound
  omega

/-- Draws by scaling. The second word is the next 32 binary places of the first. -/
def draw (n : Nat) (h : 0 < n) (t : WordTape) : Fin n × WordTape :=
  let (w, t) := t.next
  if unsettled : UInt32.size < rest n w + n then
    let (v, t) := t.next
    if UInt32.size ≤ rest n w + whole n v then (⟨whole n w + 1, whole_succ_lt unsettled⟩, t)
    else (⟨whole n w, whole_lt h w⟩, t)
  else (⟨whole n w, whole_lt h w⟩, t)

instance : Chance WordTape := ⟨draw⟩

end WordTape
end GridWalk
