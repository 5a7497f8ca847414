/-! Sets of characters, given by inclusive ranges of code points. -/
namespace GridWalk.Text

structure CharRanges where
  ranges : List (Nat × Nat)

namespace CharRanges

instance : Membership Char CharRanges where
  mem s c := ∃ r ∈ s.ranges, r.1 ≤ c.toNat ∧ c.toNat ≤ r.2

instance (c : Char) (s : CharRanges) : Decidable (c ∈ s) :=
  inferInstanceAs (Decidable (∃ r ∈ s.ranges, r.1 ≤ c.toNat ∧ c.toNat ≤ r.2))

def isSpaced : List (Nat × Nat) → Bool
  | [] => true
  | [r] => r.1 ≤ r.2
  | r :: s :: rest => r.1 ≤ r.2 && r.2 + 1 < s.1 && isSpaced (s :: rest)

end CharRanges
end GridWalk.Text
