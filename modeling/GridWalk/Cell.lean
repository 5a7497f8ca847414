import GridWalk.Coord
/-! Cells: values that report a position of their own. A grid stores them by slot, and nothing
forces the reported position to be the slot's; grids where it always is are called positional. -/
namespace GridWalk

class Cell (α : Type) where
  coord : α → Coord

instance : Cell Coord where
  coord c := c

structure Tile where
  coord : Coord
deriving DecidableEq, Inhabited

instance : Cell Tile where
  coord := Tile.coord

instance : Outlined Tile where
  outline t := .record "Tile" [.field "coord" (Outlined.outline t.coord)]

structure Floor where
  coord : Coord
  walkable : Bool := true
deriving DecidableEq, Inhabited

instance : Cell Floor where
  coord := Floor.coord

def Floor.wall (c : Coord) : Floor := ⟨c, false⟩

structure Tagged where
  coord : Coord
  tag : Nat := 0
deriving DecidableEq, Inhabited

instance : Cell Tagged where
  coord := Tagged.coord

end GridWalk
