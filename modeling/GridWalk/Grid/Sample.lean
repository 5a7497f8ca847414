import GridWalk.Chance
import GridWalk.Grid.View
/-! Cells chosen by chance: the occupant of a slot drawn over the whole grid, or one drawn among the
occupants that satisfy a predicate. -/
namespace GridWalk.Grid
variable {α σ ρ : Type}

def sample [Chance ρ] (g : Grid α) : StateM ρ (Option α) := do
  let x ← modifyGet (Chance.draw g.frame.width.toNat g.valid.width_pos)
  let y ← modifyGet (Chance.draw g.frame.height.toNat g.valid.height_pos)
  return g.get? ⟨Int32.ofNat x, Int32.ofNat y⟩

def gather (p : α → StateM σ Bool) : List α → Array α → StateM σ (Array α)
  | [], found => return found
  | a :: rest, found => do
    if ← p a then gather p rest (found.push a) else gather p rest found

def sampleWhere [Chance ρ] (g : Grid α) (p : α → StateM σ Bool) :
    StateT ρ (StateM σ) (Option α) := do
  let found ← gather p g.occupied #[]
  if h : 0 < found.size then
    let i ← modifyGet (Chance.draw found.size h)
    return some found[i]
  else return none

end GridWalk.Grid
