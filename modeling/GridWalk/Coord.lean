import GridWalk.Text.Outline
/-! Integer positions on a grid. Displacement is exact while the result can be written in 32 bits
on each axis and stops at the nearest representable value beyond that. -/
namespace GridWalk

/-- A position; `x` grows to the right and `y` grows downwards. -/
structure Coord where
  x : Int32 := 0
  y : Int32 := 0
deriving DecidableEq, Hashable, Inhabited

def saturate (n : Int) : Int32 := Int32.ofIntClamp n

theorem toInt_saturate (n : Int) :
    (saturate n).toInt =
      if n < -2147483648 then -2147483648 else if n < 2147483648 then n else 2147483647 := by
  have hmin : Int32.minValue.toInt = -2147483648 := by decide
  have hmax : Int32.maxValue.toInt = 2147483647 := by decide
  by_cases low : n < -2147483648
  · have h : saturate n = Int32.minValue := by
      unfold saturate Int32.ofIntClamp
      rw [dif_neg (by omega)]
    rw [h, if_pos low, hmin]
  · by_cases high : n < 2147483648
    · rw [if_neg low, if_pos high]
      exact Int32.toInt_ofIntClamp (by omega) (by omega)
    · have h : saturate n = Int32.maxValue := by
        unfold saturate Int32.ofIntClamp
        rw [dif_pos (by omega), dif_neg (by omega)]
      rw [h, if_neg low, if_neg high, hmax]

theorem saturate_toInt (n : Int32) : saturate n.toInt = n := Int32.ofIntClamp_toInt n

namespace Coord

def move (c : Coord) (dx dy : Int32) : Coord :=
  ⟨saturate (c.x.toInt + dx.toInt), saturate (c.y.toInt + dy.toInt)⟩

theorem ext_toInt {a b : Coord} (hx : a.x.toInt = b.x.toInt) (hy : a.y.toInt = b.y.toInt) :
    a = b := by
  cases a; cases b
  simp_all [Int32.toInt_inj]

instance : ToString Coord where
  toString c := s!"({c.x.toInt}, {c.y.toInt})"

instance : Outlined Coord where
  outline c := .record "Coord" [.field "x" (.integer c.x.toInt), .field "y" (.integer c.y.toInt)]

end Coord
end GridWalk
