import Mathlib.Algebra.BigOperators.Group.List.Basic
import Mathlib.Algebra.Group.Prod
import Mathlib.Algebra.Ring.Int.Defs
import Mathlib.Data.List.Infix
import GridWalk.Proofs.Adjacency
import GridWalk.Proofs.Grid.Displacement
/-! Walks by steps in given directions, and the way back by the opposite ones. A walk that stays
within 32 bits ends at the sum of its steps and can be walked back; a single step can be taken back
only if it stays within. -/
namespace GridWalk

def Representable (p : Int × Int) : Prop :=
  (-2147483648 ≤ p.1 ∧ p.1 < 2147483648) ∧ (-2147483648 ≤ p.2 ∧ p.2 < 2147483648)

instance (p : Int × Int) : Decidable (Representable p) :=
  inferInstanceAs (Decidable ((_ ∧ _) ∧ _))

theorem toInt_saturate_of_representable {n : Int} (low : -2147483648 ≤ n)
    (high : n < 2147483648) : (saturate n).toInt = n := by
  rw [toInt_saturate, if_neg (by omega), if_pos high]

/-- On one axis a move by at most one can be taken back exactly where it is not cut short. -/
theorem saturate_back_iff {n : Int32} {k : Int} (low : -1 ≤ k) (high : k ≤ 1) :
    saturate ((saturate (n.toInt + k)).toInt + -k) = n ↔
      -2147483648 ≤ n.toInt + k ∧ n.toInt + k < 2147483648 := by
  have least : -2147483648 ≤ n.toInt := n.le_toInt
  have greatest : n.toInt < 2147483648 := n.toInt_lt
  rw [← Int32.toInt_inj, toInt_saturate, toInt_saturate]
  split_ifs <;> omega

namespace Direction
variable {c : Coord} {s : Direction} {steps : List Direction}

def shift (s : Direction) : Int × Int := (s.offset.1.toInt, s.offset.2.toInt)

def displacement (steps : List Direction) : Int × Int := (steps.map shift).sum

@[simp] theorem displacement_nil : displacement [] = 0 := rfl

@[simp] theorem displacement_cons (s : Direction) (steps : List Direction) :
    displacement (s :: steps) = s.shift + displacement steps := List.sum_cons

theorem toInt_offset_opposite (s : Direction) : s.opposite.offset.1.toInt = -s.offset.1.toInt ∧
    s.opposite.offset.2.toInt = -s.offset.2.toInt := by
  cases s <;> decide

theorem toPoint_step (h : Representable (c.toPoint + s.shift)) :
    (s.step c).toPoint = c.toPoint + s.shift := by
  obtain ⟨⟨left_bound, right_bound⟩, up_bound, down_bound⟩ := h
  exact Prod.ext (toInt_saturate_of_representable left_bound right_bound)
    (toInt_saturate_of_representable up_bound down_bound)

/-- A step can be taken back exactly where neither axis cuts it short. -/
theorem opposite_step_step_iff :
    s.opposite.step (s.step c) = c ↔ Representable (c.toPoint + s.shift) := by
  obtain ⟨⟨left_bound, right_bound⟩, up_bound, down_bound⟩ := s.offset_bounds
  obtain ⟨column_back, row_back⟩ := s.toInt_offset_opposite
  obtain ⟨x, y⟩ := c
  simp only [step, Coord.move, column_back, row_back, Coord.mk.injEq,
    saturate_back_iff left_bound right_bound, saturate_back_iff up_bound down_bound]
  rfl

/-- The exact positions on the walk, before it, after each step of it and at its end, are within 32
bits. -/
def StaysWithin (c : Coord) (steps : List Direction) : Prop :=
  ∀ part ∈ steps.inits, Representable (c.toPoint + displacement part)

instance (c : Coord) (steps : List Direction) : Decidable (StaysWithin c steps) :=
  inferInstanceAs (Decidable (∀ part ∈ steps.inits, _))

theorem StaysWithin.of_cons (h : StaysWithin c (s :: steps)) :
    Representable (c.toPoint + s.shift) ∧ StaysWithin (s.step c) steps := by
  rw [StaysWithin, List.inits_cons, List.forall_mem_cons, List.forall_mem_map] at h
  have first : Representable (c.toPoint + s.shift) := by
    simpa using h.2 [] (by simp)
  refine ⟨first, fun part hp => ?_⟩
  rw [toPoint_step first, add_assoc, ← displacement_cons]
  exact h.2 part hp

theorem walk_append (c : Coord) (first second : List Direction) :
    walk c (first ++ second) = walk (walk c first) second := List.foldl_append

theorem toPoint_walk (h : StaysWithin c steps) :
    (walk c steps).toPoint = c.toPoint + displacement steps := by
  induction steps generalizing c with
  | nil => exact (add_zero _).symm
  | cons s steps ih =>
    obtain ⟨first, rest⟩ := h.of_cons
    calc (walk (s.step c) steps).toPoint = (s.step c).toPoint + displacement steps := ih rest
      _ = c.toPoint + displacement (s :: steps) := by
        rw [toPoint_step first, add_assoc, displacement_cons]

/-- The last step is the first to be taken back. -/
theorem walk_back (h : StaysWithin c steps) :
    walk (walk c steps) (steps.map opposite).reverse = c := by
  induction steps generalizing c with
  | nil => rfl
  | cons s steps ih =>
    obtain ⟨first, rest⟩ := h.of_cons
    rw [List.map_cons, List.reverse_cons, walk_append]
    calc s.opposite.step (walk (walk (s.step c) steps) (steps.map opposite).reverse)
        = s.opposite.step (s.step c) := by rw [ih rest]
      _ = c := opposite_step_step_iff.2 first

/-- A walk whose exact positions all stay within 32 bits ends at its start displaced by the sum of
its steps, and the opposite steps in reverse order lead back to the start. A single step is taken
back by the opposite one nowhere else: where it would leave 32 bits, on one axis or on both, it is
cut short and the way back is not. -/
theorem walk_there_and_back (c : Coord) (steps : List Direction) :
    (StaysWithin c steps → (walk c steps).toPoint = c.toPoint + displacement steps ∧
      walk (walk c steps) (steps.map opposite).reverse = c) ∧
    ∀ s : Direction, s.opposite.step (s.step c) = c ↔ Representable (c.toPoint + s.shift) :=
  ⟨fun h => ⟨toPoint_walk h, walk_back h⟩, fun _ => opposite_step_step_iff⟩

/-- Into the upper right corner of all positions and back. From the last column a diagonal step goes
along with one axis only, and the opposite step does not undo it. -/
theorem corner_walked_back :
    StaysWithin ⟨2147483645, -2147483646⟩ [upRight, upRight, left, right, down] ∧
    walk ⟨2147483645, -2147483646⟩ [upRight, upRight, left, right, down] =
      ⟨2147483647, -2147483647⟩ ∧
    walk ⟨2147483647, -2147483647⟩ [up, left, right, downLeft, downLeft] =
      ⟨2147483645, -2147483646⟩ ∧
    ¬ Representable ((⟨2147483647, 0⟩ : Coord).toPoint + upRight.shift) ∧
    upRight.opposite.step (upRight.step ⟨2147483647, 0⟩) ≠ ⟨2147483647, 0⟩ := by
  have within :
      StaysWithin ⟨2147483645, -2147483646⟩ [upRight, upRight, left, right, down] := by decide
  have cut_short : ¬ Representable ((⟨2147483647, 0⟩ : Coord).toPoint + upRight.shift) := by
    decide
  obtain ⟨there_and_back, -⟩ :=
    walk_there_and_back ⟨2147483645, -2147483646⟩ [upRight, upRight, left, right, down]
  obtain ⟨-, back_iff⟩ := walk_there_and_back ⟨2147483647, 0⟩ []
  obtain ⟨ends, returns⟩ := there_and_back within
  have corner : walk ⟨2147483645, -2147483646⟩ [upRight, upRight, left, right, down] =
      ⟨2147483647, -2147483647⟩ := by
    obtain ⟨column, row⟩ := Prod.ext_iff.1 ends
    exact Coord.ext_toInt column row
  rw [corner] at returns
  exact ⟨within, corner, returns, cut_short,
    fun undone => cut_short ((back_iff upRight).1 undone)⟩

end Direction
end GridWalk
