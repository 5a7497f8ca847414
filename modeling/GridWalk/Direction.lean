import GridWalk.Coord
/-! Steps to the eight surrounding positions. The order of the lists is the order in which
neighbours are looked at, and so it decides between paths of equal length. -/
namespace GridWalk

inductive Direction where
  | left | up | right | down | upLeft | upRight | downRight | downLeft
deriving DecidableEq, Inhabited

namespace Direction

def cardinal : List Direction := [left, up, right, down]

def all : List Direction := cardinal ++ [upLeft, upRight, downRight, downLeft]

theorem mem_all (d : Direction) : d ∈ all := by cases d <;> decide

theorem nodup_all : all.Nodup := by decide

def offset : Direction → Int32 × Int32
  | left => (-1, 0)
  | up => (0, -1)
  | right => (1, 0)
  | down => (0, 1)
  | upLeft => (-1, -1)
  | upRight => (1, -1)
  | downRight => (1, 1)
  | downLeft => (-1, 1)

def step (d : Direction) (c : Coord) : Coord := c.move d.offset.1 d.offset.2

def opposite : Direction → Direction
  | left => right
  | up => down
  | right => left
  | down => up
  | upLeft => downRight
  | upRight => downLeft
  | downRight => upLeft
  | downLeft => upRight

theorem opposite_opposite (d : Direction) : d.opposite.opposite = d := by cases d <;> rfl

theorem offset_opposite (d : Direction) :
    d.opposite.offset = (-d.offset.1, -d.offset.2) := by cases d <;> decide

def isDiagonal (d : Direction) : Bool := d.offset.1 != 0 && d.offset.2 != 0

theorem isDiagonal_eq_false_iff (d : Direction) : d.isDiagonal = false ↔ d ∈ cardinal := by
  cases d <;> decide

def walk (c : Coord) (steps : List Direction) : Coord := steps.foldl (fun c d => d.step c) c

def name : Direction → String
  | left => "Left"
  | up => "Up"
  | right => "Right"
  | down => "Down"
  | upLeft => "UpLeft"
  | upRight => "UpRight"
  | downRight => "DownRight"
  | downLeft => "DownLeft"

def ofName? (s : String) : Option Direction := all.find? (·.name = s)

theorem ofName?_name (d : Direction) : ofName? d.name = some d := by cases d <;> decide

instance : Outlined Direction where
  outline d := .leaf d.name

end Direction
end GridWalk
