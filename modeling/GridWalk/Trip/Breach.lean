import GridWalk.Grid.Basic
import GridWalk.Trip.Basic
/-! What a path must satisfy to answer a trip: it leaves the source out, ends at the target, goes by
allowed steps and stays on occupied slots that are not busy. The empty path is always accepted, as
an answer that there is no way. -/
namespace GridWalk

/-- A way in which a path fails to answer a trip; an index counts the steps before it. -/
inductive Breach where
  | includesSource (index : Nat)
  | wrongEndpoint (expected found : Coord)
  | notAdjacent (index : Nat) (start stop : Coord)
  | busyCell (index : Nat) (coord : Coord)
  | notInGrid (index : Nat) (coord : Coord)
  | sourceNotInGrid (source : Coord)
  | unexpectedPath (length : Nat)
deriving DecidableEq

namespace Breach

def message : Breach → String
  | includesSource i => s!"path includes the source at step {i}"
  | wrongEndpoint expected found => s!"path ends at {found}, expected target {expected}"
  | notAdjacent i start stop => s!"step {i} jumps from {start} to non-adjacent {stop}"
  | busyCell i c => s!"step {i} enters busy cell {c}"
  | notInGrid i c => s!"step {i} enters {c}, which holds no grid cell"
  | sourceNotInGrid c => s!"path returned from {c}, which holds no grid cell"
  | unexpectedPath n => s!"source equals target but a path of {n} cells was returned"

instance : ToString Breach where
  toString := message

def kind : Breach → String
  | includesSource .. => "IncludesSource"
  | wrongEndpoint .. => "WrongEndpoint"
  | notAdjacent .. => "NotAdjacent"
  | busyCell .. => "BusyCell"
  | notInGrid .. => "NotInGrid"
  | sourceNotInGrid .. => "SourceNotInGrid"
  | unexpectedPath .. => "UnexpectedPath"

def fields : Breach → List Outline
  | includesSource i => [.field "index" (.natural i)]
  | wrongEndpoint expected found =>
    [.field "expected" (Outlined.outline expected), .field "found" (Outlined.outline found)]
  | notAdjacent i start stop =>
    [.field "index" (.natural i), .field "from" (Outlined.outline start),
     .field "to" (Outlined.outline stop)]
  | busyCell i c => [.field "index" (.natural i), .field "coord" (Outlined.outline c)]
  | notInGrid i c => [.field "index" (.natural i), .field "coord" (Outlined.outline c)]
  | sourceNotInGrid c => [.field "source" (Outlined.outline c)]
  | unexpectedPath n => [.field "len" (.natural n)]

instance : Outlined Breach where
  outline b := .record b.kind b.fields

end Breach

namespace Trip
variable {α : Type}

/-- What is wrong with a step from `prev` to `c`, the first fault of four. -/
def stepBreach? (t : Trip) (g : Grid α) (index : Nat) (prev c : Coord) : Option Breach :=
  if c = t.source then some (.includesSource index)
  else if (g.get? c).isNone then some (.notInGrid index c)
  else if c ∈ t.busy then some (.busyCell index c)
  else if t.adjacency.Adjacent prev c then none
  else some (.notAdjacent index prev c)

def stepsBreach? (t : Trip) (g : Grid α) : Nat → Coord → List Coord → Option Breach
  | _, prev, [] => if prev = t.target then none else some (.wrongEndpoint t.target prev)
  | index, prev, c :: rest =>
    match t.stepBreach? g index prev c with
    | some b => some b
    | none => t.stepsBreach? g (index + 1) c rest

def breach? [Cell α] (t : Trip) (g : Grid α) (path : List α) : Option Breach :=
  if path.isEmpty then none
  else if t.source = t.target then some (.unexpectedPath path.length)
  else if (g.get? t.source).isNone then some (.sourceNotInGrid t.source)
  else t.stepsBreach? g 0 t.source (path.map Cell.coord)

end Trip
end GridWalk
