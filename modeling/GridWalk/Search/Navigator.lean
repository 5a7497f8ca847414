import GridWalk.Search.BreadthFirst
import GridWalk.Trip.Breach
/-! Navigators: whatever answers trips on a grid of its own, with or without effects. An answer
keeps the agreement when its trip finds no breach in it. -/
namespace GridWalk

structure Navigator (m : Type → Type) (α : Type) where
  grid : Grid α
  answer : Trip → m (List α)

structure BrokenAgreement where
  trip : Trip
  breach : Breach

def BrokenAgreement.message (b : BrokenAgreement) : String :=
  s!"contract violated for {describe b.trip}: {b.breach}"

instance : ToString BrokenAgreement where
  toString := BrokenAgreement.message

namespace Navigator
variable {m : Type → Type} {α : Type}

def route (n : Navigator m α) (source target : Coord) (a : Adjacency := .four)
    (busy : List Coord := []) : m (List α) :=
  n.answer ((Trip.along { source, target } a).avoiding busy)

def checked [Monad m] [Cell α] (n : Navigator m α) (t : Trip) :
    m (Except BrokenAgreement (List Coord)) := do
  let path ← n.answer t
  match t.breach? n.grid path with
  | some b => return .error ⟨t, b⟩
  | none => return .ok (path.map Cell.coord)

def ofBreadthFirst [Cell α] (b : BreadthFirst α) : Navigator Id α := ⟨b.grid, b.findPath⟩

def recorder (g : Grid α) : Navigator (StateM (Array Trip)) α where
  grid := g
  answer t := do
    modify (·.push t)
    return (g.get? t.target).toList

end Navigator
end GridWalk
