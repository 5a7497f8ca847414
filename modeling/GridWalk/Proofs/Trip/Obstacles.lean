import GridWalk.Proofs.Trip.Roster
import GridWalk.Trip.Breach
/-! Which obstacles a verdict depends on. A path is checked against the source and the grid before
it is checked against the obstacles, so an obstacle at the source or outside the grid is never asked
for, and of the others only membership counts. -/
namespace GridWalk

namespace Trip
variable {α : Type} {t u : Trip} {f : Frame} {g : Grid α} {prev c : Coord} {cs : List Coord}
  {i : Nat}

theorem allows_avoiding_iff : (t.avoiding cs).Allows c ↔ t.Allows c ∧ c ∉ cs := by
  rw [Allows, Allows, avoiding, Obstacles.mem_insertMany, not_or]

/-- The trips have the same ends and steps, and each position of the frame is busy for both or for
neither; the source is left out of account. -/
structure AgreesOn (t u : Trip) (f : Frame) : Prop where
  source : u.source = t.source
  target : u.target = t.target
  adjacency : u.adjacency = t.adjacency
  busy : ∀ c ∈ f, c ≠ t.source → (c ∈ u.busy ↔ c ∈ t.busy)

theorem AgreesOn.of_same (h : t.same u = true) (f : Frame) : t.AgreesOn u f := by
  simp only [same, Bool.and_eq_true, beq_iff_eq, Obstacles.same_iff] at h
  obtain ⟨⟨⟨source, target⟩, adjacency⟩, busy⟩ := h
  exact ⟨source.symm, target.symm, adjacency.symm, fun c _ _ => (busy c).symm⟩

theorem AgreesOn.avoiding {ds : List Coord}
    (h : ∀ c ∈ f, c ≠ t.source → (c ∈ cs ↔ c ∈ ds)) :
    (t.avoiding cs).AgreesOn (t.avoiding ds) f := by
  refine ⟨rfl, rfl, rfl, fun c hc ne => ?_⟩
  simp only [Trip.avoiding, Obstacles.mem_insertMany, h c hc ne]

theorem AgreesOn.stepBreach?_eq (h : t.AgreesOn u g.frame) :
    u.stepBreach? g i prev c = t.stepBreach? g i prev c := by
  rw [stepBreach?, stepBreach?, h.source, h.adjacency]
  by_cases source : c = t.source
  · rw [if_pos source, if_pos source]
  · cases held : g.get? c with
    | none => rfl
    | some a => simp only [h.busy c (Grid.mem_of_get? held) source]

theorem AgreesOn.stepsBreach?_eq (h : t.AgreesOn u g.frame) :
    u.stepsBreach? g i prev cs = t.stepsBreach? g i prev cs := by
  induction cs generalizing i prev with
  | nil => rw [stepsBreach?, stepsBreach?, h.target]
  | cons c rest ih => rw [stepsBreach?, stepsBreach?, h.stepBreach?_eq, ih]

/-- Trips that agree on the frame of a grid find the same breach in a path of cells, or none. -/
theorem AgreesOn.breach?_eq [Cell α] (h : t.AgreesOn u g.frame) (path : List α) :
    u.breach? g path = t.breach? g path := by
  rw [breach?, breach?, h.source, h.target, h.stepsBreach?_eq]

end Trip
end GridWalk
