import GridWalk.Grid.Fault
/-! The extents of a grid and the row-major numbering of its slots. Main statements: `index` and
`coordAt` undo each other between the positions of a valid frame and the numbers below its area. -/
namespace GridWalk

/-- Columns and rows of a grid, and the size of one cell in pixels (0 for none). -/
structure Frame where
  width : UInt32
  height : UInt32
  cellWidth : UInt32 := 0
  cellHeight : UInt32 := 0
deriving DecidableEq, Inhabited

namespace Frame
variable {f : Frame} {c d : Coord} {i : Nat}

def maxSide : UInt32 := 2147483647

def withCellSize (f : Frame) (width height : UInt32) : Frame :=
  { f with cellWidth := width, cellHeight := height }

def hasPixels (f : Frame) : Bool := 0 < f.cellWidth && 0 < f.cellHeight

def area (f : Frame) : Nat := f.width.toNat * f.height.toNat

def slotCount? (f : Frame) : Option Nat := if f.area < UInt64.size then some f.area else none

structure Valid (f : Frame) : Prop where
  width_pos : 0 < f.width.toNat
  height_pos : 0 < f.height.toNat
  width_le : f.width.toNat ≤ maxSide.toNat
  height_le : f.height.toNat ≤ maxSide.toNat

/-- The first thing wrong with the sides: one of them empty, then the width, then the height. -/
def fault? (f : Frame) : Option Fault :=
  if f.width = 0 ∨ f.height = 0 then some (.emptyGrid f.width f.height)
  else if maxSide < f.width then some (.dimensionTooLarge "width" f.width maxSide)
  else if maxSide < f.height then some (.dimensionTooLarge "height" f.height maxSide)
  else none

theorem fault?_eq_none_iff : f.fault? = none ↔ f.Valid := by
  have pos (n : UInt32) : n ≠ 0 ↔ 0 < n.toNat := by
    rw [Nat.pos_iff_ne_zero, ne_eq, ne_eq, ← UInt32.toNat_inj]; rfl
  constructor
  · intro h
    unfold fault? at h
    split at h
    · cases h
    · split at h
      · cases h
      · split at h
        · cases h
        · next he hw hh =>
          rw [UInt32.lt_iff_toNat_lt, Nat.not_lt] at hw hh
          rw [not_or] at he
          exact ⟨(pos _).1 he.1, (pos _).1 he.2, hw, hh⟩
  · intro ⟨hw, hh, hw', hh'⟩
    unfold fault?
    rw [if_neg (not_or.2 ⟨(pos _).2 hw, (pos _).2 hh⟩),
      if_neg (by rw [UInt32.lt_iff_toNat_lt]; omega),
      if_neg (by rw [UInt32.lt_iff_toNat_lt]; omega)]

instance : Membership Coord Frame where
  mem f c := (0 ≤ c.x.toInt ∧ c.x.toInt < f.width.toNat) ∧
    (0 ≤ c.y.toInt ∧ c.y.toInt < f.height.toNat)

theorem mem_iff : c ∈ f ↔ (0 ≤ c.x.toInt ∧ c.x.toInt < f.width.toNat) ∧
    (0 ≤ c.y.toInt ∧ c.y.toInt < f.height.toNat) := Iff.rfl

instance (c : Coord) (f : Frame) : Decidable (c ∈ f) := decidable_of_iff _ mem_iff.symm

def index (f : Frame) (c : Coord) : Nat :=
  c.y.toNatClampNeg * f.width.toNat + c.x.toNatClampNeg

def coordAt (f : Frame) (i : Nat) : Coord :=
  ⟨Int32.ofNat (i % f.width.toNat), Int32.ofNat (i / f.width.toNat)⟩

def index? (f : Frame) (c : Coord) : Option Nat := if c ∈ f then some (f.index c) else none

def coordAt? (f : Frame) (i : Nat) : Option Coord :=
  if i < f.area then some (f.coordAt i) else none

theorem col_lt_width (h : c ∈ f) : c.x.toNatClampNeg < f.width.toNat := by
  obtain ⟨⟨hx, hx'⟩, -⟩ := h
  rw [← Int32.toNat_toInt]
  omega

/-- The numbers of a row end where those of the next one begin. -/
theorem index_lt_next_row (h : c ∈ f) : f.index c < (c.y.toNatClampNeg + 1) * f.width.toNat := by
  have x_lt := col_lt_width h
  rw [index, Nat.succ_mul]
  omega

theorem index_lt_area (h : c ∈ f) : f.index c < f.area := by
  obtain ⟨-, hy, hy'⟩ := id h
  have y_lt : c.y.toNatClampNeg < f.height.toNat := by
    rw [← Int32.toNat_toInt]; omega
  calc f.index c < (c.y.toNatClampNeg + 1) * f.width.toNat := index_lt_next_row h
    _ ≤ f.height.toNat * f.width.toNat := Nat.mul_le_mul_right _ y_lt
    _ = f.area := Nat.mul_comm _ _

theorem Valid.col_lt (h : f.Valid) (i : Nat) : i % f.width.toNat < 2147483648 := by
  have lt := Nat.mod_lt i h.width_pos
  have le : f.width.toNat ≤ 2147483647 := h.width_le
  omega

theorem Valid.row_lt_height (h : f.Valid) (hi : i < f.area) : i / f.width.toNat < f.height.toNat :=
  (Nat.div_lt_iff_lt_mul h.width_pos).2 (by rwa [Nat.mul_comm])

theorem Valid.row_lt (h : f.Valid) (hi : i < f.area) : i / f.width.toNat < 2147483648 := by
  have lt := h.row_lt_height hi
  have le : f.height.toNat ≤ 2147483647 := h.height_le
  omega

theorem coordAt_mem (h : f.Valid) (hi : i < f.area) : f.coordAt i ∈ f := by
  rw [mem_iff, coordAt, Int32.toInt_ofNat_of_lt (h.col_lt i), Int32.toInt_ofNat_of_lt (h.row_lt hi)]
  exact ⟨⟨Int.natCast_nonneg _, Int.ofNat_lt.2 (Nat.mod_lt i h.width_pos)⟩,
    Int.natCast_nonneg _, Int.ofNat_lt.2 (h.row_lt_height hi)⟩

theorem index_coordAt (h : f.Valid) (hi : i < f.area) : f.index (f.coordAt i) = i := by
  rw [index, coordAt, Int32.toNatClampNeg_ofNat_of_lt (h.col_lt i),
    Int32.toNatClampNeg_ofNat_of_lt (h.row_lt hi), Nat.mul_comm]
  exact Nat.div_add_mod i f.width.toNat

theorem coordAt_mul_add {x : Nat} (y : Nat) (h : x < f.width.toNat) :
    f.coordAt (y * f.width.toNat + x) = ⟨Int32.ofNat x, Int32.ofNat y⟩ := by
  have col : (y * f.width.toNat + x) % f.width.toNat = x := by
    rw [Nat.add_comm, Nat.add_mul_mod_self_right, Nat.mod_eq_of_lt h]
  have row : (y * f.width.toNat + x) / f.width.toNat = y := by
    rw [Nat.add_comm, Nat.add_mul_div_right _ _ (Nat.zero_lt_of_lt h), Nat.div_eq_of_lt h,
      Nat.zero_add]
  rw [coordAt, col, row]

theorem coordAt_index (h : c ∈ f) : f.coordAt (f.index c) = c := by
  obtain ⟨⟨hx, -⟩, hy, -⟩ := id h
  rw [index, coordAt_mul_add _ (col_lt_width h)]
  refine Coord.ext_toInt ?_ ?_
  · rw [Int32.toInt_ofNat_of_lt (Int32.toNatClampNeg_lt _), ← Int32.toNat_toInt]
    omega
  · rw [Int32.toInt_ofNat_of_lt (Int32.toNatClampNeg_lt _), ← Int32.toNat_toInt]
    omega

instance : Outlined Frame where
  outline f := .record "GridConfig"
    [.field "width" (.natural f.width.toNat), .field "height" (.natural f.height.toNat),
     .field "cell_width" (.natural f.cellWidth.toNat),
     .field "cell_height" (.natural f.cellHeight.toNat)]

end Frame
end GridWalk
