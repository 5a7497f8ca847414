import GridWalk.Cell
import GridWalk.Grid.Frame
/-! Dense rectangular storage with at most one cell in each slot. A grid is seen through `get?`, the
occupant at a position; main statements: what `put` does to that view, and that a frame and the view
determine the grid. -/
namespace GridWalk

/-- A slot for each position of a valid frame, in row-major order. -/
structure Grid (α : Type) where
  frame : Frame
  valid : frame.Valid
  slots : Vector (Option α) frame.area
deriving DecidableEq

namespace Grid
variable {α : Type} {g : Grid α} {c d : Coord}

def blank (f : Frame) (h : f.Valid) : Grid α := ⟨f, h, Vector.replicate f.area none⟩

def slot (g : Grid α) (c : Coord) (h : c ∈ g.frame) : Option α :=
  have := Frame.index_lt_area h
  g.slots[g.frame.index c]

def get? (g : Grid α) (c : Coord) : Option α := if h : c ∈ g.frame then g.slot c h else none

def put (g : Grid α) (c : Coord) (cell : Option α) : Grid α :=
  { g with slots :=
      if h : c ∈ g.frame then g.slots.set (g.frame.index c) cell (Frame.index_lt_area h)
      else g.slots }

theorem get?_of_mem (h : c ∈ g.frame) : g.get? c = g.slot c h := dif_pos h

theorem get?_of_not_mem (h : c ∉ g.frame) : g.get? c = none := dif_neg h

theorem mem_of_get? {a : α} (h : g.get? c = some a) : c ∈ g.frame := by
  by_cases hc : c ∈ g.frame
  · exact hc
  · rw [get?_of_not_mem hc] at h
    contradiction

@[simp] theorem get?_blank {f : Frame} (h : f.Valid) : (blank f h : Grid α).get? c = none := by
  by_cases hc : c ∈ f
  · rw [get?_of_mem hc]
    simp [slot, blank]
  · exact get?_of_not_mem hc

@[simp] theorem frame_put (cell : Option α) : (g.put c cell).frame = g.frame := rfl

theorem put_of_not_mem {cell : Option α} (h : c ∉ g.frame) : g.put c cell = g := by
  simp [put, h]

theorem get?_put_self {cell : Option α} (h : c ∈ g.frame) : (g.put c cell).get? c = cell := by
  rw [get?_of_mem (by simpa using h)]
  simp [slot, put, h]

theorem get?_put_of_ne {cell : Option α} (h : d ≠ c) : (g.put c cell).get? d = g.get? d := by
  by_cases hc : c ∈ g.frame
  · by_cases hd : d ∈ g.frame
    · have ne : g.frame.index c ≠ g.frame.index d := by
        intro e
        exact h (by rw [← Frame.coordAt_index hd, ← e, Frame.coordAt_index hc])
      rw [get?_of_mem (by simpa using hd), get?_of_mem hd]
      simp [slot, put, hc, ne]
    · rw [get?_of_not_mem (by simpa using hd), get?_of_not_mem hd]
  · rw [put_of_not_mem hc]

theorem get?_put {cell : Option α} (h : c ∈ g.frame) :
    (g.put c cell).get? d = if d = c then cell else g.get? d := by
  split
  · next e => rw [e, get?_put_self h]
  · next ne => exact get?_put_of_ne ne

theorem get?_coordAt {i : Nat} (h : i < g.frame.area) :
    g.get? (g.frame.coordAt i) = g.slots[i] := by
  rw [get?_of_mem (Frame.coordAt_mem g.valid h)]
  simp [slot, Frame.index_coordAt g.valid h]

theorem ext_get? {g k : Grid α} (hf : g.frame = k.frame) (h : ∀ c, g.get? c = k.get? c) :
    g = k := by
  have slots_eq (i : Nat) (hi : i < g.frame.area) (hi' : i < k.frame.area) :
      g.slots[i] = k.slots[i] := by
    rw [← get?_coordAt hi, ← get?_coordAt hi', h, hf]
  obtain ⟨f, hv, s⟩ := g
  obtain ⟨f', hv', s'⟩ := k
  cases hf
  congr
  ext i hi
  rw [slots_eq i hi hi]

/-- Every occupant reports the position of its slot. -/
def Positional [Cell α] (g : Grid α) : Prop := ∀ c a, g.get? c = some a → Cell.coord a = c

end Grid
end GridWalk
