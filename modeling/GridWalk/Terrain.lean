import GridWalk.Grid.Build
/-! Ready-made grids: open and walled floor, numbered cells, and square fields of tiles, each in
whatever storage there is and in that of the running program. -/
namespace GridWalk

inductive TerrainFault where
  | grid (width height : UInt32) (fault : Fault)
  | wall (fault : Fault)
deriving DecidableEq

def TerrainFault.message : TerrainFault → String
  | grid w h e => s!"fixture grid {w}x{h}: {e}"
  | wall e => s!"fixture wall: {e}"

instance : ToString TerrainFault where
  toString := TerrainFault.message

namespace Terrain

def addWalls (g : Grid Floor) : List Coord → Except TerrainFault (Grid Floor)
  | [] => .ok g
  | c :: rest =>
    match g.set c (some (.wall c)) with
    | (.error e, _) => .error (.wall e)
    | (.ok _, g) => addWalls g rest

def side : UInt32 := 100

def scatter (c : Coord) : UInt64 :=
  ((c.x.toInt64.toUInt64 <<< 32 ||| c.y.toInt64.toUInt64) * 6364136223846793007) >>> 33

section
variable (s : Storage)

def openFloorIn (width height : UInt32) : Except TerrainFault (Grid Floor) :=
  (Grid.ofFnIn s { width, height } fun c => some ⟨c, true⟩).mapError (.grid width height)

def walledFloorIn (width height : UInt32) (walls : List Coord) :
    Except TerrainFault (Grid Floor) := do
  let g ← openFloorIn s width height
  addWalls g walls

def numberedIn (width height : UInt32) : Except TerrainFault (Grid Tagged) :=
  let generator (c : Coord) : StateM Nat (Option Tagged) :=
    modifyGet fun n => (some ⟨c, n⟩, n + 1)
  (Id.run ((Grid.build s { width, height } generator).run 0)).1.mapError (.grid width height)

def fullFieldIn : Except Fault (Grid Tile) :=
  Grid.ofFnIn s { width := side, height := side } fun c => some ⟨c⟩

def sparseFieldIn (gap : UInt32) : Except Fault (Grid Tile) :=
  Grid.ofFnIn s { width := side, height := side } fun c =>
    if scatter c % (max gap 1).toUInt64 = 0 then none else some ⟨c⟩

end

def openFloor : UInt32 → UInt32 → Except TerrainFault (Grid Floor) := openFloorIn .standard

def walledFloor : UInt32 → UInt32 → List Coord → Except TerrainFault (Grid Floor) :=
  walledFloorIn .standard

def numbered : UInt32 → UInt32 → Except TerrainFault (Grid Tagged) := numberedIn .standard

def fullField : Except Fault (Grid Tile) := fullFieldIn .standard

def sparseField : UInt32 → Except Fault (Grid Tile) := sparseFieldIn .standard

end Terrain
end GridWalk
