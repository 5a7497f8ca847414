import GridWalk.Grid.Edit
/-! Construction and refilling. A generator is called once for each slot along the rows and may keep
a state from call to call; when a construction fails it is not called at all. -/
namespace GridWalk

/-- How many slots can be had at once. -/
structure Storage where
  grants : Nat → Bool

/-- What the program runs with in place of an allocator. No allocator is known to grant so much or
no more, and what is proved of constructions is proved for every storage. -/
def Storage.standard : Storage := ⟨fun slots => slots ≤ UInt32.size⟩

def Frame.tooLarge (f : Frame) : Fault :=
  .dimensionTooLarge "width * height" (max f.width f.height) maxSide

def Frame.admit (f : Frame) (s : Storage) : Except Fault (PLift f.Valid) :=
  match h : f.fault? with
  | some e => .error e
  | none =>
    match f.slotCount? with
    | none => .error f.tooLarge
    | some n => if s.grants n then .ok ⟨Frame.fault?_eq_none_iff.1 h⟩ else .error f.tooLarge

namespace Grid
variable {α σ : Type}

def fill (f : Frame) (generator : Coord → StateM σ (Option α)) :
    StateM σ (Vector (Option α) f.area) :=
  Vector.ofFnM fun i => generator (f.coordAt i)

def build (s : Storage) (f : Frame) (generator : Coord → StateM σ (Option α)) :
    StateM σ (Except Fault (Grid α)) :=
  match f.admit s with
  | .error e => pure (.error e)
  | .ok ⟨valid⟩ => do
    let slots ← fill f generator
    return .ok ⟨f, valid, slots⟩

def refill (g : Grid α) (generator : Coord → StateM σ (Option α)) : StateM σ (Grid α) := do
  let slots ← fill g.frame generator
  return { g with slots }

def buildSized (s : Storage) (width height cellWidth cellHeight : UInt32)
    (generator : Coord → StateM σ (Option α)) : StateM σ (Except Fault (Grid α)) :=
  build s (Frame.withCellSize { width, height } cellWidth cellHeight) generator

def ofFnIn (s : Storage) (f : Frame) (cells : Coord → Option α) : Except Fault (Grid α) :=
  let generator (c : Coord) : StateM Unit (Option α) := pure (cells c)
  (Id.run ((build s f generator).run ())).1

def emptyIn (s : Storage) (width height : UInt32) : Except Fault (Grid α) :=
  ofFnIn s { width, height } fun _ => none

def ofFn : Frame → (Coord → Option α) → Except Fault (Grid α) := ofFnIn .standard

def empty : UInt32 → UInt32 → Except Fault (Grid α) := emptyIn .standard

end Grid
end GridWalk
