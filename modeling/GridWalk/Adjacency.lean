import GridWalk.Direction
/-! Which positions count as next to each other: the four that share an edge, or all eight. A reach
lists the candidates around a position in order; they may lie outside any grid. -/
namespace GridWalk

abbrev Reach := Coord → List Coord

def Reach.ofOffsets (offsets : List (Int32 × Int32)) : Reach :=
  fun c => offsets.map fun o => c.move o.1 o.2

inductive Adjacency where
  | four | eight
deriving DecidableEq, Inhabited

namespace Adjacency

def directions : Adjacency → List Direction
  | four => Direction.cardinal
  | eight => Direction.all

theorem nodup_directions (a : Adjacency) : a.directions.Nodup := by cases a <;> decide

def degree (a : Adjacency) : Nat := a.directions.length

def hasDiagonals : Adjacency → Bool
  | four => false
  | eight => true

theorem hasDiagonals_iff (a : Adjacency) :
    a.hasDiagonals = true ↔ ∃ d ∈ a.directions, d.isDiagonal = true := by
  cases a <;> decide

def candidates (a : Adjacency) : Reach := fun c => a.directions.map (·.step c)

theorem length_candidates (a : Adjacency) (c : Coord) :
    (a.candidates c).length = a.degree := by simp [candidates, degree]

def Adjacent (a : Adjacency) (c d : Coord) : Prop := ∃ s ∈ a.directions, s.step c = d

instance (a : Adjacency) (c d : Coord) : Decidable (a.Adjacent c d) :=
  inferInstanceAs (Decidable (∃ s ∈ a.directions, s.step c = d))

theorem mem_candidates {a : Adjacency} {c d : Coord} : d ∈ a.candidates c ↔ a.Adjacent c d :=
  List.mem_map

/-- Every step is one of the eight. -/
theorem Adjacent.among_eight {a : Adjacency} {c d : Coord} (h : a.Adjacent c d) :
    eight.Adjacent c d := by
  obtain ⟨s, _, leads⟩ := h
  exact ⟨s, s.mem_all, leads⟩

instance : Outlined Adjacency where
  outline
    | .four => .leaf "LeftUpRightDown"
    | .eight => .leaf "LeftUpRightDownUpLeftUpRightDownRightDownLeft"

end Adjacency

inductive DirectionCount where
  | four | eight
deriving DecidableEq, Inhabited

namespace DirectionCount

def toAdjacency : DirectionCount → Adjacency
  | four => .four
  | eight => .eight

def ofAdjacency : Adjacency → DirectionCount
  | .four => four
  | .eight => eight

theorem toAdjacency_ofAdjacency (a : Adjacency) : (ofAdjacency a).toAdjacency = a := by
  cases a <;> rfl

instance : Outlined DirectionCount where
  outline
    | .four => .leaf "FourDirections"
    | .eight => .leaf "EightDirections"

end DirectionCount
end GridWalk
