import Mathlib.Data.List.Nodup
import Mathlib.Data.List.Perm.Subperm
import GridWalk.Direction
import GridWalk.Grid.Frame
/-! Positions of a valid frame: there are as many as slots, whose number can be written in 64 bits,
and displacements that end in the frame are exact, so that different directions never lead to the
same one. -/
namespace GridWalk

/-- A step leads wherever a position is displaced by that much. -/
theorem Direction.step_eq_of_toInt {c d : Coord} (s : Direction)
    (hx : d.x.toInt = c.x.toInt + s.offset.1.toInt)
    (hy : d.y.toInt = c.y.toInt + s.offset.2.toInt) : s.step c = d := by
  rw [step, Coord.move, ← hx, ← hy, saturate_toInt, saturate_toInt]

namespace Frame
variable {f : Frame} {c d : Coord}

theorem Valid.area_lt (h : f.Valid) : f.area < UInt64.size := by
  calc f.area ≤ 2147483647 * 2147483647 := Nat.mul_le_mul h.width_le h.height_le
    _ < UInt64.size := by decide

/-- The number of a slot is not changed by writing it in 64 bits. -/
theorem Valid.toNat_index (h : f.Valid) (hc : c ∈ f) :
    (UInt64.ofNat (f.index c)).toNat = f.index c :=
  UInt64.toNat_ofNat_of_lt' (Nat.lt_trans (index_lt_area hc) h.area_lt)

theorem index?_of_mem (h : c ∈ f) : f.index? c = some (f.index c) := if_pos h

theorem coordAt?_index (h : c ∈ f) : f.coordAt? (f.index c) = some c := by
  rw [coordAt?, if_pos (index_lt_area h), coordAt_index h]

theorem index_inj (hc : c ∈ f) (hd : d ∈ f) (h : f.index c = f.index d) : c = d := by
  rw [← coordAt_index hc, h, coordAt_index hd]

theorem map_coordAt_index {cs : List Coord} (h : ∀ c ∈ cs, c ∈ f) :
    (cs.map f.index).map f.coordAt = cs := by
  rw [List.map_map]
  refine (List.map_congr_left fun c hc => ?_).trans (List.map_id cs)
  exact coordAt_index (h c hc)

theorem length_le_area {cs : List Coord} (hn : cs.Nodup) (hf : ∀ c ∈ cs, c ∈ f) :
    cs.length ≤ f.area := by
  have indices_nodup : (cs.map f.index).Nodup :=
    hn.map_on fun c hc d hd => index_inj (hf c hc) (hf d hd)
  have indices_below : cs.map f.index ⊆ List.range f.area := by
    intro i hi
    obtain ⟨c, hc, rfl⟩ := List.mem_map.1 hi
    exact List.mem_range.2 (index_lt_area (hf c hc))
  simpa using (List.subperm_of_subset indices_nodup indices_below).length_le

/-- The value at which displacements stop is no column or row of a valid frame. -/
theorem toInt_saturate_of_lt {n : Int} (low : 0 ≤ (saturate n).toInt)
    (high : (saturate n).toInt < 2147483647) : (saturate n).toInt = n := by
  rw [toInt_saturate] at low high ⊢
  by_cases small : n < -2147483648
  · rw [if_pos small] at low
    omega
  · rw [if_neg small] at high ⊢
    by_cases large : n < 2147483648
    · rw [if_pos large]
    · rw [if_neg large] at high
      omega

theorem toInt_move (h : f.Valid) {dx dy : Int32} (hm : c.move dx dy ∈ f) :
    (c.move dx dy).x.toInt = c.x.toInt + dx.toInt ∧
      (c.move dx dy).y.toInt = c.y.toInt + dy.toInt := by
  obtain ⟨⟨hx, hx'⟩, hy, hy'⟩ := hm
  have width_le : f.width.toNat ≤ 2147483647 := h.width_le
  have height_le : f.height.toNat ≤ 2147483647 := h.height_le
  have x_lt : (c.move dx dy).x.toInt < 2147483647 := by omega
  have y_lt : (c.move dx dy).y.toInt < 2147483647 := by omega
  exact ⟨toInt_saturate_of_lt hx x_lt, toInt_saturate_of_lt hy y_lt⟩

/-- A step leads to a position of the frame exactly where it is displaced by that much. -/
theorem Valid.step_eq_iff (h : f.Valid) (hd : d ∈ f) (c : Coord) (s : Direction) :
    s.step c = d ↔ d.x.toInt = c.x.toInt + s.offset.1.toInt ∧
      d.y.toInt = c.y.toInt + s.offset.2.toInt := by
  refine ⟨fun e => ?_, fun ⟨hx, hy⟩ => s.step_eq_of_toInt hx hy⟩
  rw [← e] at hd ⊢
  exact toInt_move h hd

end Frame

theorem Direction.offset_inj {s r : Direction} (hx : s.offset.1.toInt = r.offset.1.toInt)
    (hy : s.offset.2.toInt = r.offset.2.toInt) : s = r := by
  revert hx hy
  cases s <;> cases r <;> decide

/-- Different directions lead to different positions, unless they lead out of the frame. -/
theorem Direction.step_inj {f : Frame} (h : f.Valid) {s r : Direction} {c : Coord}
    (hs : s.step c ∈ f) (same : r.step c = s.step c) : s = r := by
  obtain ⟨sx, sy⟩ := (h.step_eq_iff hs c s).1 rfl
  obtain ⟨rx, ry⟩ := (h.step_eq_iff hs c r).1 same
  exact offset_inj (by omega) (by omega)

end GridWalk
