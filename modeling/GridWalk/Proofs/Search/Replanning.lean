import GridWalk.Proofs.Search.BestPath
/-! Searching again on the way. What is left of a best course after its first step is a best course
from there, and the source is all that the two searches differ in; so an agent that goes one step
and searches again keeps to the path it found first. -/
namespace GridWalk

theorem courseKey_cons_le_iff {i : ℕ} {u v : List ℕ} :
    courseKey (i :: u) ≤ courseKey (i :: v) ↔ courseKey u ≤ courseKey v := by
  rw [← not_lt, ← not_lt, courseKey_lt_iff, courseKey_lt_iff]
  simp

def Trip.leaving (t : Trip) (c : Coord) : Trip := { t with source := c }

namespace BreadthFirst
variable {α : Type} [Cell α] {b : BreadthFirst α} {t : Trip} {c d e : Coord} {i : ℕ}
  {w : List ℕ} {a : α} {rest : List α}

theorem stops_leaving (b : BreadthFirst α) (t : Trip) (c d : Coord) (w : List ℕ) :
    b.stops (t.leaving c) d w = b.stops t d w := by
  induction w generalizing d with
  | nil => rfl
  | cons i w ih =>
    have same_hop : b.hop (t.leaving c) d i = b.hop t d i := rfl
    simp only [stops, same_hop, ih]

theorem Best.leaving (h : b.Best t d w e) (c : Coord) : b.Best (t.leaving c) d w e :=
  ⟨h.leads, h.least⟩

theorem Best.of_cons (h : b.Best t c (i :: w) e) (hop : b.hop t c i = some d) : b.Best t d w e := by
  have leads_cons (v : List ℕ) : b.follow t c (i :: v) = b.follow t d v := by
    rw [follow_cons, hop, Option.bind_some]
  refine ⟨(leads_cons w).symm.trans h.leads, fun v hv => ?_⟩
  exact courseKey_cons_le_iff.1 (h.least (i :: v) ((leads_cons v).trans hv))

/-- From the first cell of a path the search finds the rest of it. -/
theorem findPath_leaving (hg : b.grid.Positional) (h : b.findPath t = a :: rest) :
    b.findPath (t.leaving (Cell.coord a)) = rest := by
  obtain ⟨hb, w, hw⟩ := exists_best_of_findPath (h ▸ List.cons_ne_nil a rest)
  have path_eq := (findPath_eq_filterMap hg hb hw).symm.trans h
  cases w with
  | nil => simp [stops] at path_eq
  | cons i w =>
    obtain ⟨d, hop, -⟩ := Option.bind_eq_some_iff.1 (follow_cons.symm.trans hw.leads)
    obtain ⟨-, a', ha', -⟩ := ((hop_iff_clear hg).1 hop).2
    rw [stops_cons hop, List.filterMap_cons_some ha'] at path_eq
    obtain ⟨rfl, rfl⟩ := List.cons.inj path_eq
    rw [hg d a' ha']
    have hw' := hw.of_cons hop
    by_cases arrived : d = t.target
    -- The path was of one cell, and a trip from the target to itself is not begun.
    · rw [← arrived] at hw'
      have idle : ¬ b.Begins (t.leaving d) := fun begins => begins.2.1 arrived
      rw [hw'.unique best_nil, findPath, if_neg idle]
      rfl
    · have hb' : b.Begins (t.leaving d) :=
        ⟨hb.1, arrived, by rw [Trip.leaving, ha', Option.isSome_some]⟩
      rw [findPath_eq_filterMap hg hb' (hw'.leaving d)]
      exact congrArg _ (stops_leaving b t d d w)

/-- The cells entered by an agent that goes the first step of the path it finds and searches again
from there, up to `n` times. -/
def travel (b : BreadthFirst α) : ℕ → Trip → List α
  | 0, _ => []
  | n + 1, t =>
    match b.findPath t with
    | [] => []
    | a :: _ => a :: b.travel n (t.leaving (Cell.coord a))

theorem travel_eq_take (hg : b.grid.Positional) (n : ℕ) (t : Trip) :
    b.travel n t = (b.findPath t).take n := by
  induction n generalizing t with
  | zero => rfl
  | succ n ih =>
    rw [travel]
    cases h : b.findPath t with
    | nil => rfl
    | cons a rest =>
      dsimp only
      rw [ih, findPath_leaving hg h, List.take_succ_cons]

/-- A search from the first cell of a path found returns the rest of the path, and an agent that
searches again after each step goes, however far it gets, the way announced at the start. -/
theorem findPath_replanned (b : BreadthFirst α) (hg : b.grid.Positional) (t : Trip) :
    (∀ a rest, b.findPath t = a :: rest → b.findPath (t.leaving (Cell.coord a)) = rest) ∧
    ∀ n, b.travel n t = (b.findPath t).take n :=
  ⟨fun _ _ => findPath_leaving hg, fun n => travel_eq_take hg n t⟩

theorem crossing_replanned : courtyard.Positional ∧
    (aroundWalls courtyard).findPath (crossing .eight) =
      [⟨⟨1, 0⟩, true⟩, ⟨⟨2, 1⟩, true⟩, ⟨⟨2, 2⟩, true⟩] ∧
    (aroundWalls courtyard).findPath ((crossing .eight).leaving ⟨1, 0⟩) =
      [⟨⟨2, 1⟩, true⟩, ⟨⟨2, 2⟩, true⟩] ∧
    (aroundWalls courtyard).travel 5 (crossing .eight) =
      [⟨⟨1, 0⟩, true⟩, ⟨⟨2, 1⟩, true⟩, ⟨⟨2, 2⟩, true⟩] := by
  have announced : (aroundWalls courtyard).findPath (crossing .eight) =
      [⟨⟨1, 0⟩, true⟩, ⟨⟨2, 1⟩, true⟩, ⟨⟨2, 2⟩, true⟩] := by decide +kernel
  obtain ⟨again, walked⟩ :=
    findPath_replanned (aroundWalls courtyard) positional_courtyard (crossing .eight)
  refine ⟨positional_courtyard, announced, again _ _ announced, ?_⟩
  rw [walked, announced]
  rfl

end BreadthFirst
end GridWalk
