import GridWalk.Grid.Neighbour
import GridWalk.Grid.View
import GridWalk.Search.Queue
import GridWalk.Trip.Basic
/-! Breadth-first search. Slots are marked when they are first met, each with the position from
which that happened, and the search stops as soon as it meets the target. A cell counts where it
reports to be; the path returned holds the occupants of the slots on the trail back from the
target. -/
namespace GridWalk

inductive Mark where
  | start
  | cameFrom (prev : Coord)
deriving DecidableEq

structure Sweep where
  frontier : Queue Coord
  marks : Grid Mark

namespace Sweep

def start (f : Frame) (h : f.Valid) (source : Coord) : Sweep :=
  ⟨.singleton source, (Grid.blank f h).put source (some .start)⟩

def mark (s : Sweep) (prev c : Coord) : Sweep :=
  { s with marks := s.marks.put c (some (.cameFrom prev)) }

def push (s : Sweep) (c : Coord) : Sweep := { s with frontier := s.frontier.push c }

theorem get?_marks_start {f : Frame} (h : f.Valid) {source c : Coord} (hs : source ∈ f) :
    (start f h source).marks.get? c = if c = source then some .start else none := by
  rw [start, Grid.get?_put (by exact hs), Grid.get?_blank]

theorem get?_marks_mark {s : Sweep} {prev c d : Coord} (h : c ∈ s.marks.frame) :
    (s.mark prev c).marks.get? d = if d = c then some (.cameFrom prev) else s.marks.get? d :=
  Grid.get?_put h

end Sweep

inductive Progress where
  | searching (s : Sweep)
  | arrived (marks : Grid Mark)
  | exhausted

structure BreadthFirst (α : Type) where
  grid : Grid α
  passable : α → Bool := fun _ => true

namespace BreadthFirst
variable {α : Type} [Cell α]

/-- The search may step to where the cell reports to be: a slot of the grid not met before, not
busy, and the cell passable. -/
def Admits (b : BreadthFirst α) (t : Trip) (marks : Grid Mark) (a : α) : Prop :=
  Cell.coord a ∈ b.grid.frame ∧ marks.get? (Cell.coord a) = none ∧ t.Allows (Cell.coord a) ∧
    b.passable a = true

instance (b : BreadthFirst α) (t : Trip) (marks : Grid Mark) (a : α) :
    Decidable (b.Admits t marks a) :=
  inferInstanceAs (Decidable (Cell.coord a ∈ b.grid.frame ∧ _ ∧ _ ∧ _))

def survey (b : BreadthFirst α) (t : Trip) (prev : Coord) : List α → Sweep → Progress
  | [], s => .searching s
  | a :: rest, s =>
    if b.Admits t s.marks a then
      let c := Cell.coord a
      let s := s.mark prev c
      if c = t.target then .arrived s.marks else b.survey t prev rest (s.push c)
    else b.survey t prev rest s

def step (b : BreadthFirst α) (t : Trip) (s : Sweep) : Progress :=
  match s.frontier.pop? with
  | none => .exhausted
  | some (c, frontier) =>
    b.survey t c (b.grid.neighboursWith c t.adjacency.candidates) { s with frontier }

def run (b : BreadthFirst α) (t : Trip) : Nat → Sweep → Option (Grid Mark)
  | 0, _ => none
  | n + 1, s =>
    match b.step t s with
    | .searching s => b.run t n s
    | .arrived marks => some marks
    | .exhausted => none

/-- The occupants on the trail from `c` back to the start, in front of `path`; nothing if a slot on
the trail is empty. -/
def trail (b : BreadthFirst α) (marks : Grid Mark) : Nat → Coord → List α → List α
  | 0, _, _ => []
  | n + 1, c, path =>
    match marks.get? c with
    | none => []
    | some .start => path
    | some (.cameFrom prev) =>
      match b.grid.get? c with
      | none => []
      | some a => b.trail marks n prev (a :: path)

def Begins (b : BreadthFirst α) (t : Trip) : Prop :=
  t.target ∈ b.grid.frame ∧ t.source ≠ t.target ∧ (b.grid.get? t.source).isSome = true

instance (b : BreadthFirst α) (t : Trip) : Decidable (b.Begins t) :=
  inferInstanceAs (Decidable (_ ∧ _ ∧ _))

/-- A shortest path for the trip, without its source; empty if there is none. No slot enters the
frontier twice, so the size of the grid bounds both the search and the trail. -/
def findPath (b : BreadthFirst α) (t : Trip) : List α :=
  if b.Begins t then
    match b.run t b.grid.size (.start b.grid.frame b.grid.valid t.source) with
    | some marks => b.trail marks b.grid.size t.target []
    | none => []
  else []

end BreadthFirst

def BreadthFirst.aroundWalls (g : Grid Floor) : BreadthFirst Floor := ⟨g, Floor.walkable⟩

end GridWalk
