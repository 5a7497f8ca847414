import GridWalk.Adjacency
import GridWalk.Grid.Edit
/-! The occupants around a position. Candidates outside the grid and empty slots are dropped, and
the order of the candidates is kept. -/
namespace GridWalk.Grid
variable {α : Type}

def neighboursWith (g : Grid α) (c : Coord) (reach : Reach) : List α :=
  (reach c).filterMap g.get?

def neighbours (g : Grid α) (c : Coord) : List α := g.neighboursWith c Adjacency.four.candidates

def neighbour (g : Grid α) (c : Coord) (d : Direction) : Option α := g.get? (d.step c)

def left (g : Grid α) (c : Coord) : Option α := g.neighbour c .left
def up (g : Grid α) (c : Coord) : Option α := g.neighbour c .up
def right (g : Grid α) (c : Coord) : Option α := g.neighbour c .right
def down (g : Grid α) (c : Coord) : Option α := g.neighbour c .down
def upLeft (g : Grid α) (c : Coord) : Option α := g.neighbour c .upLeft
def upRight (g : Grid α) (c : Coord) : Option α := g.neighbour c .upRight
def downRight (g : Grid α) (c : Coord) : Option α := g.neighbour c .downRight
def downLeft (g : Grid α) (c : Coord) : Option α := g.neighbour c .downLeft

def around (g : Grid α) (c : Coord) : List (Option α) :=
  [g.left c, g.up c, g.right c, g.down c, g.upLeft c, g.upRight c, g.downRight c, g.downLeft c]

theorem around_eq_map (g : Grid α) (c : Coord) :
    g.around c = Direction.all.map (g.neighbour c) := rfl

theorem mem_neighboursWith {g : Grid α} {c : Coord} {reach : Reach} {a : α} :
    a ∈ g.neighboursWith c reach ↔ ∃ d ∈ reach c, g.get? d = some a := by
  simp [neighboursWith]

end GridWalk.Grid
