import GridWalk.Grid.Basic
/-! Access that reports a position outside the grid, and runs of edits. A failed edit leaves the
grid as it was. -/
namespace GridWalk

namespace Grid
variable {α : Type}

def outOfBounds (g : Grid α) (c : Coord) : Fault := .outOfBounds c g.frame.width g.frame.height

def get (g : Grid α) (c : Coord) : Except Fault (Option α) :=
  if c ∈ g.frame then .ok (g.get? c) else .error (g.outOfBounds c)

def revise (g : Grid α) (c : Coord) (next : Option α → Option α) :
    Except Fault (Option α) × Grid α :=
  if c ∈ g.frame then
    let old := g.get? c
    (.ok old, g.put c (next old))
  else (.error (g.outOfBounds c), g)

def set (g : Grid α) (c : Coord) (cell : Option α) := g.revise c fun _ => cell

def take (g : Grid α) (c : Coord) := g.revise c fun _ => none

def overwrite (g : Grid α) (c : Coord) (f : α → α) := g.revise c (Option.map f)

def recast (g : Grid α) (cells : Coord → Option α) : Grid α :=
  { g with slots := .ofFn fun i => cells (g.frame.coordAt i) }

@[simp] theorem frame_revise (g : Grid α) (c : Coord) (next : Option α → Option α) :
    (g.revise c next).2.frame = g.frame := by
  unfold revise
  split <;> rfl

theorem revise_of_mem {g : Grid α} {c : Coord} (h : c ∈ g.frame)
    (next : Option α → Option α) :
    g.revise c next = (.ok (g.get? c), g.put c (next (g.get? c))) := if_pos h

theorem revise_of_not_mem {g : Grid α} {c : Coord} (h : c ∉ g.frame)
    (next : Option α → Option α) : g.revise c next = (.error (g.outOfBounds c), g) := if_neg h

@[simp] theorem frame_recast (g : Grid α) (cells : Coord → Option α) :
    (g.recast cells).frame = g.frame := rfl

theorem get?_recast {g : Grid α} {c : Coord} (h : c ∈ g.frame) (cells : Coord → Option α) :
    (g.recast cells).get? c = cells c := by
  rw [get?_of_mem (by simpa using h)]
  simp [slot, recast, Frame.coordAt_index h]

theorem positional_recast [Cell α] (g : Grid α) {cells : Coord → Option α}
    (h : ∀ c a, cells c = some a → Cell.coord a = c) : (g.recast cells).Positional := by
  intro c a ha
  have mem : c ∈ g.frame := by simpa using mem_of_get? ha
  rw [get?_recast mem] at ha
  exact h c a ha

end Grid

inductive Edit (α : Type) where
  | set (c : Coord) (cell : Option α)
  | take (c : Coord)
  | overwrite (c : Coord) (f : α → α)
  | recast (cells : Coord → Option α)

namespace Edit
variable {α : Type}

/-- Performs the edit; the answer is the former content of the slot it names. -/
def apply (g : Grid α) : Edit α → Except Fault (Option α) × Grid α
  | set c cell => g.set c cell
  | take c => g.take c
  | overwrite c f => g.overwrite c f
  | recast cells => (.ok none, g.recast cells)

def run (g : Grid α) : List (Edit α) → List (Except Fault (Option α)) × Grid α
  | [] => ([], g)
  | e :: rest =>
    let (answer, g) := e.apply g
    let (answers, g) := run g rest
    (answer :: answers, g)

@[simp] theorem frame_apply (g : Grid α) (e : Edit α) : (e.apply g).2.frame = g.frame := by
  cases e <;> simp [apply, Grid.set, Grid.take, Grid.overwrite]

end Edit
end GridWalk
