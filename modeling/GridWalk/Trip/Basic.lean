import GridWalk.Adjacency
import GridWalk.Trip.Obstacles
/-! What is asked of a search: from where, to where, by which steps, and around which obstacles. -/
namespace GridWalk

structure Trip where
  source : Coord
  target : Coord
  adjacency : Adjacency := .four
  busy : Obstacles := ∅

namespace Trip

def along (t : Trip) (a : Adjacency) : Trip := { t with adjacency := a }

def avoiding (t : Trip) (cs : List Coord) : Trip := { t with busy := t.busy.insertMany cs }

def between (t : Trip) (c d : Coord) : Trip := { t with source := c, target := d }

def Allows (t : Trip) (c : Coord) : Prop := c ∉ t.busy

instance (t : Trip) (c : Coord) : Decidable (t.Allows c) :=
  inferInstanceAs (Decidable (c ∉ t.busy))

def same (t u : Trip) : Bool :=
  t.source == u.source && t.target == u.target && t.adjacency == u.adjacency && t.busy.same u.busy

instance : Outlined Trip where
  outline t := .record "PathRequest"
    [.field "source" (Outlined.outline t.source), .field "target" (Outlined.outline t.target),
     .field "strategy" (Outlined.outline t.adjacency), .field "busy" (Outlined.outline t.busy)]

end Trip
end GridWalk
