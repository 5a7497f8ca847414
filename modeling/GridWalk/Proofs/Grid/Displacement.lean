import Mathlib.Data.List.Basic
import GridWalk.Proofs.Grid.Faults
/-! Displacements by any amount, seen from a grid. A displacement that leads beyond 32 bits stops at
a limit, and the limits are neither columns nor rows of a valid frame. So whatever ends in the frame
ends where it should. Main statement: the neighbours at given displacements are the occupants of the
exact points. -/
namespace GridWalk

theorem toInt_saturate_of_nonneg {n : Int} (low : 0 ≤ n) (high : n < 2147483647) :
    (saturate n).toInt = n := by
  rw [toInt_saturate, if_neg (by omega), if_pos (by omega)]

namespace Coord

def toPoint (c : Coord) : Int × Int := (c.x.toInt, c.y.toInt)

def displaced (c : Coord) (o : Int32 × Int32) : Int × Int :=
  (c.x.toInt + o.1.toInt, c.y.toInt + o.2.toInt)

end Coord

namespace Frame
variable {f : Frame} {c : Coord} {o : Int32 × Int32} {p : Int × Int}

def Covers (f : Frame) (p : Int × Int) : Prop :=
  (0 ≤ p.1 ∧ p.1 < f.width.toNat) ∧ (0 ≤ p.2 ∧ p.2 < f.height.toNat)

instance (f : Frame) (p : Int × Int) : Decidable (f.Covers p) :=
  inferInstanceAs (Decidable ((_ ∧ _) ∧ _))

theorem covers_toPoint : f.Covers c.toPoint ↔ c ∈ f := Iff.rfl

theorem Valid.toPoint_move_of_mem (h : f.Valid) (hm : c.move o.1 o.2 ∈ f) :
    (c.move o.1 o.2).toPoint = c.displaced o := by
  obtain ⟨column, row⟩ := toInt_move h hm
  exact Prod.ext column row

theorem Valid.toPoint_move_of_covers (h : f.Valid) (hp : f.Covers (c.displaced o)) :
    (c.move o.1 o.2).toPoint = c.displaced o := by
  obtain ⟨⟨column, column_lt⟩, row, row_lt⟩ := hp
  have width_le : f.width.toNat ≤ 2147483647 := h.width_le
  have height_le : f.height.toNat ≤ 2147483647 := h.height_le
  simp only [Coord.displaced] at column column_lt row row_lt
  exact Prod.ext (toInt_saturate_of_nonneg column (by omega))
    (toInt_saturate_of_nonneg row (by omega))

/-- A displacement ends in the frame exactly where it leads to a point of it. -/
theorem Valid.move_mem_iff (h : f.Valid) : c.move o.1 o.2 ∈ f ↔ f.Covers (c.displaced o) := by
  constructor
  · intro hm
    rw [← h.toPoint_move_of_mem hm]
    exact hm
  · intro hp
    rw [← covers_toPoint, h.toPoint_move_of_covers hp]
    exact hp

end Frame

namespace Grid
variable {α σ : Type} {f : Frame} {g : Grid α} {c : Coord}

def occupantAt (g : Grid α) (p : Int × Int) : Option α :=
  if g.frame.Covers p then g.cells[(p.2 * g.frame.width.toNat + p.1).toNat]?.join else none

theorem occupantAt_toPoint (g : Grid α) (c : Coord) : g.occupantAt c.toPoint = g.get? c := by
  rw [occupantAt]
  by_cases h : c ∈ g.frame
  · have number_eq : (c.toPoint.2 * g.frame.width.toNat + c.toPoint.1).toNat =
        g.frame.index c := by
      have column : c.x.toInt = (c.x.toNatClampNeg : Int) := by
        rw [← Int32.toNat_toInt, Int.toNat_of_nonneg h.1.1]
      have row : c.y.toInt = (c.y.toNatClampNeg : Int) := by
        rw [← Int32.toNat_toInt, Int.toNat_of_nonneg h.2.1]
      rw [Coord.toPoint, Frame.index, column, row]
      exact Int.toNat_natCast _
    rw [if_pos (Frame.covers_toPoint.2 h), number_eq, getElem?_cells_index h, Option.join_some]
  · rw [if_neg (mt Frame.covers_toPoint.1 h), get?_of_not_mem h]

theorem occupantAt_displaced (g : Grid α) (c : Coord) (o : Int32 × Int32) :
    g.occupantAt (c.displaced o) = g.get? (c.move o.1 o.2) := by
  by_cases h : g.frame.Covers (c.displaced o)
  · rw [← occupantAt_toPoint, g.valid.toPoint_move_of_covers h]
  · rw [occupantAt, if_neg h, get?_of_not_mem (mt g.valid.move_mem_iff.1 h)]

theorem neighboursWith_ofOffsets (g : Grid α) (c : Coord) (os : List (Int32 × Int32)) :
    g.neighboursWith c (.ofOffsets os) = (os.map c.displaced).filterMap g.occupantAt := by
  rw [neighboursWith, Reach.ofOffsets, List.filterMap_map, List.filterMap_map]
  exact List.filterMap_congr fun o _ => (g.occupantAt_displaced c o).symm

/-- Displacements from any position, by any amounts, on a grid that was built and changed since.
Each is found within the grid exactly where the point it leads to lies within the sides, and is then
that point; so the neighbours at a list of displacements are the occupants of their points, one
after the other, however often a displacement is listed. -/
theorem BuiltFrom.displaced_after_run (h : g.BuiltFrom f) (changes : List (Change σ α)) (t : σ) :
    ∃ answers k t', (Change.run g changes).run t = ((answers, k), t') ∧ k.frame = f ∧
      ∀ c : Coord,
        (∀ o, (c.move o.1 o.2 ∈ k.frame ↔ f.Covers (c.displaced o)) ∧
          (k.memory.isWithin (c.move o.1 o.2) = true ↔ f.Covers (c.displaced o)) ∧
          (f.Covers (c.displaced o) → (c.move o.1 o.2).toPoint = c.displaced o)) ∧
        ∀ os, k.neighboursWith c (.ofOffsets os) = (os.map c.displaced).filterMap k.occupantAt ∧
          k.memory.neighboursWith c (.ofOffsets os) =
            .ok ((os.map c.displaced).filterMap k.occupantAt) := by
  obtain ⟨answers, k, t', ran, rfl⟩ := h.exists_run changes t
  refine ⟨answers, k, t', ran, rfl,
    fun c => ⟨fun o => ⟨k.valid.move_mem_iff, ?_, ?_⟩, fun os => ⟨?_, ?_⟩⟩⟩
  · rw [isWithin_memory, decide_eq_true_iff, k.valid.move_mem_iff]
  · exact k.valid.toPoint_move_of_covers
  · exact k.neighboursWith_ofOffsets c os
  · rw [neighboursWith_memory, k.neighboursWith_ofOffsets c os]

/-- On the widest row the step to the right of the last column stops one column beyond it, at the
limit, and the steps back from there are exact. -/
theorem widest_displaced : ∃ (g k : Grid Coord) (answers : List (Except Fault (Option Coord))),
    g.BuiltFrom { width := 2147483647, height := 1 } ∧
    (Change.run g [.edit (.recast some)]).run () = ((answers, k), ()) ∧
    (⟨2147483646, 0⟩ : Coord).move 2147483647 0 = ⟨2147483647, 0⟩ ∧
    k.memory.isWithin ((⟨2147483646, 0⟩ : Coord).move 2147483647 0) = false ∧
    k.neighboursWith ⟨2147483647, 0⟩
      (.ofOffsets [(1, 0), (-1, 0), (-2147483648, 0), (-2147483647, 0), (-1, 0)]) =
      [⟨2147483646, 0⟩, ⟨0, 0⟩, ⟨2147483646, 0⟩] := by
  obtain ⟨g, built⟩ := exists_builtFrom Coord (f := { width := 2147483647, height := 1 })
    ⟨by decide, by decide, by decide, by decide⟩
  obtain ⟨answers, k, t, ran, frame_eq, exact_at⟩ :=
    built.displaced_after_run [.edit (.recast some)] ()
  have outcome := ran
  cases outcome
  have held (c : Coord) (h : c ∈ Frame.mk 2147483647 1 0 0) :
      Grid.occupantAt (g.recast some) c.toPoint = some c := by
    rw [← frame_eq, frame_recast] at h
    rw [occupantAt_toPoint, get?_recast h]
  have beyond (p : Int × Int) (h : ¬ (Frame.mk 2147483647 1 0 0).Covers p) :
      Grid.occupantAt (g.recast some) p = none := by
    rw [occupantAt, frame_eq]
    exact if_neg h
  have points : [(1, 0), (-1, 0), (-2147483648, 0), (-2147483647, 0), (-1, 0)].map
      (Coord.displaced ⟨2147483647, 0⟩) =
        [(2147483648, 0), Coord.toPoint ⟨2147483646, 0⟩, (-1, 0),
        Coord.toPoint ⟨0, 0⟩, Coord.toPoint ⟨2147483646, 0⟩] := by decide
  refine ⟨g, _, _, built, ran, by decide, ?_, ?_⟩
  · rw [Bool.eq_false_iff, ne_eq, ((exact_at ⟨2147483646, 0⟩).1 (2147483647, 0)).2.1]
    decide
  · rw [((exact_at _).2 _).1, points, List.filterMap_cons_none (beyond _ (by decide)),
      List.filterMap_cons_some (held _ (by decide)),
      List.filterMap_cons_none (beyond _ (by decide)),
      List.filterMap_cons_some (held _ (by decide)), List.filterMap_cons_some (held _ (by decide)),
      List.filterMap_nil]

end Grid
end GridWalk
