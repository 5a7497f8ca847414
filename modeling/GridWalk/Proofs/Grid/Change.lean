import GridWalk.Grid.Build
/-! Runs of changes: edits of single slots and refills, in any order. None of them alters the frame,
and an edit alters no slot but the one it names. -/
namespace GridWalk
variable {α σ : Type}

namespace Grid
variable {g : Grid α} {c : Coord}

theorem get?_revise (g : Grid α) (c d : Coord) (next : Option α → Option α) :
    (g.revise c next).2.get? d = if d = c ∧ c ∈ g.frame then next (g.get? c) else g.get? d := by
  by_cases h : c ∈ g.frame
  · rw [revise_of_mem h, get?_put h]
    simp only [h, and_true]
  · rw [revise_of_not_mem h, if_neg fun both => h both.2]

/-- Overwriting neither fills an empty slot nor empties an occupied one. -/
theorem isSome_get?_overwrite (g : Grid α) (c d : Coord) (f : α → α) :
    ((g.overwrite c f).2.get? d).isSome = (g.get? d).isSome := by
  rw [overwrite, get?_revise]
  split
  · next both => rw [both.1, Option.isSome_map]
  · rfl

end Grid

namespace Edit
variable {g : Grid α} {e : Edit α} {c d : Coord}

def place? : Edit α → Option Coord
  | set c _ => some c
  | take c => some c
  | overwrite c _ => some c
  | recast _ => none

/-- An edit that names a position revises the slot there. -/
theorem exists_revise (he : e.place? = some c) : ∃ next, ∀ g, e.apply g = g.revise c next := by
  cases e with
  | set d cell => cases he; exact ⟨fun _ => cell, fun _ => rfl⟩
  | take d => cases he; exact ⟨fun _ => none, fun _ => rfl⟩
  | overwrite d f => cases he; exact ⟨Option.map f, fun _ => rfl⟩
  | recast cells => cases he

/-- An edit of a slot beyond the extents is refused, and the grid stays as it was. -/
theorem apply_of_not_mem (he : e.place? = some c) (h : c ∉ g.frame) :
    e.apply g = (.error (g.outOfBounds c), g) := by
  obtain ⟨next, apply_eq⟩ := exists_revise he
  rw [apply_eq, Grid.revise_of_not_mem h]

theorem get?_apply_of_ne (he : e.place? = some c) (h : d ≠ c) :
    (e.apply g).2.get? d = g.get? d := by
  obtain ⟨next, apply_eq⟩ := exists_revise he
  rw [apply_eq, Grid.get?_revise, if_neg fun both => h both.1]

theorem run_cons (g : Grid α) (e : Edit α) (rest : List (Edit α)) :
    run g (e :: rest) = ((e.apply g).1 :: (run (e.apply g).2 rest).1, (run (e.apply g).2 rest).2) :=
  rfl

theorem length_run (g : Grid α) (edits : List (Edit α)) :
    (run g edits).1.length = edits.length := by
  induction edits generalizing g with
  | nil => rfl
  | cons e rest ih => rw [run_cons, List.length_cons, List.length_cons, ih]

end Edit

inductive Change (σ α : Type) where
  | edit (e : Edit α)
  | refill (generator : Coord → StateM σ (Option α))

namespace Change

def apply (g : Grid α) : Change σ α → StateM σ (Except Fault (Option α) × Grid α)
  | edit e => pure (e.apply g)
  | refill generator => do
    let g ← g.refill generator
    return (.ok none, g)

def run (g : Grid α) :
    List (Change σ α) → StateM σ (List (Except Fault (Option α)) × Grid α)
  | [] => pure ([], g)
  | x :: rest => do
    let (answer, g) ← x.apply g
    let (answers, g) ← run g rest
    return (answer :: answers, g)

@[simp] theorem frame_apply (g : Grid α) (x : Change σ α) (t : σ) :
    ((x.apply g).run t).1.2.frame = g.frame := by
  cases x with
  | edit e => exact e.frame_apply g
  | refill generator => rfl

theorem frame_run (g : Grid α) (changes : List (Change σ α)) (t : σ) :
    ((run g changes).run t).1.2.frame = g.frame := by
  induction changes generalizing g t with
  | nil => rfl
  | cons x rest ih => exact (ih _ _).trans (frame_apply g x t)

/-- Edits alone are performed without any use of the state. -/
theorem run_edits (g : Grid α) (edits : List (Edit α)) :
    (run g (edits.map edit) : StateM σ _) = pure (Edit.run g edits) := by
  induction edits generalizing g with
  | nil => rfl
  | cons e rest ih =>
    rw [List.map_cons, Edit.run_cons]
    simp only [run, apply, pure_bind, ih]

end Change
end GridWalk
