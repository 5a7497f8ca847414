import GridWalk.Cell
/-! Positions that must not be stepped on, kept in the order in which they were marked. Marking a
position again does not move it; order and repetition never decide whether two sets are the same. -/
namespace GridWalk

structure Obstacles where
  coords : List Coord
  nodup : coords.Nodup

namespace Obstacles
variable {o p : Obstacles} {c d : Coord}

instance : EmptyCollection Obstacles := ⟨⟨[], List.nodup_nil⟩⟩

instance : Inhabited Obstacles := ⟨∅⟩

instance : Membership Coord Obstacles where
  mem o c := c ∈ o.coords

theorem mem_iff : c ∈ o ↔ c ∈ o.coords := Iff.rfl

instance (c : Coord) (o : Obstacles) : Decidable (c ∈ o) :=
  inferInstanceAs (Decidable (c ∈ o.coords))

def size (o : Obstacles) : Nat := o.coords.length

def isEmpty (o : Obstacles) : Bool := o.coords.isEmpty

def insert (o : Obstacles) (c : Coord) : Obstacles :=
  if h : c ∈ o then o
  else ⟨o.coords ++ [c], by
    rw [List.nodup_append]
    refine ⟨o.nodup, by simp, ?_⟩
    intro a ha b hb e
    rw [List.mem_singleton] at hb
    exact h (mem_iff.2 (hb ▸ e ▸ ha))⟩

def erase (o : Obstacles) (c : Coord) : Obstacles :=
  ⟨o.coords.erase c, o.nodup.erase c⟩

def mark (o : Obstacles) (c : Coord) : Bool × Obstacles := (c ∉ o, o.insert c)

def unmark (o : Obstacles) (c : Coord) : Bool × Obstacles := (c ∈ o, o.erase c)

def insertMany (o : Obstacles) (cs : List Coord) : Obstacles := cs.foldl insert o

def ofList (cs : List Coord) : Obstacles := insertMany ∅ cs

def same (o p : Obstacles) : Bool := o.size == p.size && o.coords.all fun c => c ∈ p

instance : Outlined Obstacles where
  outline o := .record "BusyCells" [.field "coords" (.set (o.coords.map Outlined.outline))]

end Obstacles
end GridWalk
