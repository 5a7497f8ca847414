import GridWalk.Grid.Edit
/-! The slots of a grid in row-major order: all of them, the occupants alone, and the occupants with
the positions of their slots. -/
namespace GridWalk.Grid
variable {α β : Type}

def config (g : Grid α) : Frame :=
  Frame.withCellSize { width := g.frame.width, height := g.frame.height }
    g.frame.cellWidth g.frame.cellHeight

theorem config_eq_frame (g : Grid α) : g.config = g.frame := rfl

def size (g : Grid α) : Nat := g.slots.size

def isEmpty (g : Grid α) : Bool := g.size == 0

theorem isEmpty_eq_false (g : Grid α) : g.isEmpty = false := by
  have pos : 0 < g.frame.area := Nat.mul_pos g.valid.width_pos g.valid.height_pos
  simpa [isEmpty, size] using Nat.ne_of_gt pos

def stored (g : Grid α) : Array (Option α) := g.slots.toArray

def cells (g : Grid α) : List (Option α) := g.slots.toList

def collected (g : Grid α) : Array (Option α) := g.cells.toArray

theorem getElem?_cells_index {g : Grid α} {c : Coord} (h : c ∈ g.frame) :
    g.cells[g.frame.index c]? = some (g.get? c) := by
  have below : g.frame.index c < g.cells.length := by
    simpa [cells] using Frame.index_lt_area h
  rw [List.getElem?_eq_getElem below, get?_of_mem h]
  simp [cells, slot]

def foldl (g : Grid α) (step : β → Option α → β) (start : β) : β :=
  g.slots.foldl step start

def occupied (g : Grid α) : List α := g.cells.filterMap id

theorem mem_occupied {g : Grid α} {a : α} : a ∈ g.occupied ↔ ∃ c, g.get? c = some a := by
  simp only [occupied, cells, List.mem_filterMap, id_eq, exists_eq_right, Vector.mem_toList_iff,
    Vector.mem_iff_getElem]
  constructor
  · intro ⟨i, hi, ha⟩
    exact ⟨g.frame.coordAt i, by rw [get?_coordAt hi, ha]⟩
  · intro ⟨c, hc⟩
    have mem : c ∈ g.frame := mem_of_get? hc
    refine ⟨g.frame.index c, Frame.index_lt_area mem, ?_⟩
    rwa [get?_of_mem mem] at hc

def entries (g : Grid α) : List (Coord × α) :=
  g.cells.zipIdx.filterMap fun (s, i) => s.map fun a => (g.frame.coordAt i, a)

def occupiedCount (g : Grid α) : Nat := g.slots.countP Option.isSome

def picture (g : Grid α) (mark : Option α → Char) : List String :=
  (List.range g.frame.height.toNat).map fun y =>
    String.ofList <| (List.range g.frame.width.toNat).map fun x =>
      mark (g.get? ⟨Int32.ofNat x, Int32.ofNat y⟩)

instance : Outlined (Grid α) where
  outline g := .record "Grid"
    [.field "width" (.natural g.frame.width.toNat), .field "height" (.natural g.frame.height.toNat),
     .field "cell_width" (.natural g.frame.cellWidth.toNat),
     .field "cell_height" (.natural g.frame.cellHeight.toNat),
     .field "occupied" (.natural g.occupiedCount)]

end GridWalk.Grid
