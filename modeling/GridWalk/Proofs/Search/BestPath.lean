import Mathlib.Order.Bounds.Defs
import GridWalk.Proofs.Grid.Neighbourhood
import GridWalk.Proofs.Search.Positional
import GridWalk.Proofs.Search.Trail
import GridWalk.Search.Navigator
/-! The paths found on positional grids. A search keeps the agreement of its trip, finds a path
wherever there is one, finds a shortest one, and of the shortest ones the first in the order of
directions. -/
namespace GridWalk

theorem Navigator.checked_ofBreadthFirst {α : Type} [Cell α] (b : BreadthFirst α) (t : Trip) :
    Id.run ((ofBreadthFirst b).checked t) = match t.breach? b.grid (b.findPath t) with
      | some breach => .error ⟨t, breach⟩
      | none => .ok ((b.findPath t).map Cell.coord) := by
  simp only [checked, ofBreadthFirst, bind, Id.run]
  cases t.breach? b.grid (b.findPath t) with
  | none => rfl
  | some breach => rfl

namespace BreadthFirst
variable {α : Type} [Cell α] {b : BreadthFirst α} {t : Trip} {c d : Coord} {v w : List ℕ}
  {path : List α}

section
variable (hg : b.grid.Positional)
include hg

theorem findPath_eq_filterMap (hb : b.Begins t) (hw : b.Best t t.source w t.target) :
    b.findPath t = (b.stops t t.source w).filterMap b.grid.get? := by
  rw [findPath_of_best hb hw, if_pos]
  intro d hd
  obtain ⟨-, a, ha, -⟩ := clear_of_mem_stops hg hd
  rw [ha, Option.isSome_some]

/-- The path found has the stops of the best course. -/
theorem map_coord_findPath (hb : b.Begins t) (hw : b.Best t t.source w t.target) :
    (b.findPath t).map Cell.coord = b.stops t t.source w := by
  rw [findPath_eq_filterMap hg hb hw, hg.map_coord_filterMap, List.filter_eq_self]
  intro d hd
  obtain ⟨-, a, ha, -⟩ := clear_of_mem_stops hg hd
  rw [ha, Option.isSome_some]

theorem courseOf_findPath (hb : b.Begins t) (hw : b.Best t t.source w t.target) :
    t.courseOf (b.findPath t) = w := by
  rw [Trip.courseOf, map_coord_findPath hg hb hw, headings_stops hg hw.leads]

theorem answers_of_best (hb : b.Begins t) (hw : b.Best t t.source w t.target) :
    b.Answers t (b.findPath t) := by
  have stops_eq := map_coord_findPath hg hb hw
  have chain := isChain_stops (fun c i d => adjacent_of_hop hg) hw.leads
  have found : b.findPath t ≠ [] := by
    intro empty
    rw [empty, List.map_nil] at stops_eq
    rw [← stops_eq] at chain
    exact hb.2.1 (by simpa using chain.2)
  refine ⟨found, fun a ha => ?_, fun a ha => ?_, ?_⟩
  · rw [findPath_eq_filterMap hg hb hw, List.mem_filterMap] at ha
    obtain ⟨c, -, hc⟩ := ha
    exact Grid.mem_occupied.2 ⟨c, hc⟩
  · rw [findPath_eq_filterMap hg hb hw, List.mem_filterMap] at ha
    obtain ⟨c, hc, ha⟩ := ha
    obtain ⟨-, a', ha', passable⟩ := clear_of_mem_stops hg hc
    rw [ha] at ha'
    cases ha'
    exact passable
  · rw [Trip.breach?_eq_none_iff found, stops_eq]
    refine ⟨hb.2.1, hb.2.2, fun c hc => ?_, chain⟩
    obtain ⟨allowed, a, ha, -⟩ := clear_of_mem_stops hg hc
    have ne : c ≠ t.source := fun e => (List.nodup_cons.1 hw.nodup_stops).1 (e ▸ hc)
    exact ⟨ne, by rw [ha, Option.isSome_some], allowed⟩

theorem answers_of_findPath (h : b.findPath t ≠ []) : b.Answers t (b.findPath t) := by
  obtain ⟨hb, w, hw⟩ := exists_best_of_findPath h
  exact answers_of_best hg hb hw

/-- Every answer has a course that the best one is not behind. -/
theorem Answers.exists_best (h : b.Answers t path) :
    ∃ w, b.Best t t.source w t.target ∧ courseKey w ≤ courseKey (t.courseOf path) := by
  have leads := (h.follow hg).1
  obtain ⟨w, hw⟩ := BreadthFirst.exists_best (h.begins) leads
  exact ⟨w, hw, hw.least _ leads⟩

/-- The path found comes first among all answers, by length and then by the order of directions. -/
theorem Answers.courseKey_findPath_le (h : b.Answers t path) :
    courseKey (t.courseOf (b.findPath t)) ≤ courseKey (t.courseOf path) := by
  obtain ⟨w, hw, le⟩ := h.exists_best hg
  rwa [courseOf_findPath hg (h.begins) hw]

end

def courtyard : Grid Floor :=
  (Grid.blank { width := 3, height := 3 } ⟨by decide, by decide, by decide, by decide⟩).recast
    fun c => if c = ⟨1, 1⟩ then none else some ⟨c, c ≠ ⟨2, 0⟩⟩

theorem positional_courtyard : courtyard.Positional := by
  refine Grid.positional_recast _ fun c a ha => ?_
  split at ha
  · contradiction
  · cases ha
    rfl

def crossing (a : Adjacency) : Trip :=
  { source := ⟨0, 0⟩, target := ⟨2, 2⟩, adjacency := a }

/-- Whatever a search returns on a positional grid is accepted: the agreement is kept, the path is
made of passable occupants, each at its own position, and goes nowhere twice. -/
theorem findPath_accepted (b : BreadthFirst α) (hg : b.grid.Positional) (t : Trip) :
    t.breach? b.grid (b.findPath t) = none ∧
    Id.run ((Navigator.ofBreadthFirst b).checked t) = .ok ((b.findPath t).map Cell.coord) ∧
    (∀ a ∈ b.findPath t, b.grid.get? (Cell.coord a) = some a ∧ b.passable a = true) ∧
    ((b.findPath t).map Cell.coord).Nodup := by
  have accepted : t.breach? b.grid (b.findPath t) = none := by
    by_cases empty : b.findPath t = []
    · simp [empty, Trip.breach?]
    · exact (answers_of_findPath hg empty).accepted
  refine ⟨accepted, ?_, fun a ha => ?_, ?_⟩
  · rw [Navigator.checked_ofBreadthFirst, accepted]
  · have found := answers_of_findPath hg (List.ne_nil_of_mem ha)
    exact ⟨get?_of_mem_occupied hg (found.occupied a ha), found.passable a ha⟩
  · by_cases empty : b.findPath t = []
    · simp [empty]
    · obtain ⟨hb, w, hw⟩ := exists_best_of_findPath empty
      rw [map_coord_findPath hg hb hw]
      exact (List.nodup_cons.1 hw.nodup_stops).2

theorem crossing_accepted : courtyard.Positional ∧
    (crossing .eight).breach? courtyard ((aroundWalls courtyard).findPath (crossing .eight)) =
      none ∧
    Id.run ((Navigator.ofBreadthFirst (aroundWalls courtyard)).checked (crossing .eight)) =
      .ok [⟨1, 0⟩, ⟨2, 1⟩, ⟨2, 2⟩] := by
  have accepted := findPath_accepted (aroundWalls courtyard) positional_courtyard (crossing .eight)
  have positions : ((aroundWalls courtyard).findPath (crossing .eight)).map Cell.coord =
      [⟨1, 0⟩, ⟨2, 1⟩, ⟨2, 2⟩] := by decide +kernel
  exact ⟨positional_courtyard, accepted.1, by rw [accepted.2.1, positions]⟩

/-- Nothing is returned only if nothing could be. -/
theorem findPath_eq_nil_iff (b : BreadthFirst α) (hg : b.grid.Positional) (t : Trip) :
    b.findPath t = [] ↔ ∀ path, ¬ b.Answers t path := by
  constructor
  · intro empty path h
    obtain ⟨w, hw, -⟩ := h.exists_best hg
    exact (answers_of_best hg (h.begins) hw).ne_nil empty
  · intro none
    by_contra found
    exact none _ (answers_of_findPath hg found)

/-- By cardinal steps, one obstacle beside the start closes the courtyard. -/
theorem crossing_closed : courtyard.Positional ∧
    ∀ path, ¬ (aroundWalls courtyard).Answers ((crossing .four).avoiding [⟨0, 1⟩]) path :=
  ⟨positional_courtyard,
    (findPath_eq_nil_iff (aroundWalls courtyard) positional_courtyard _).1 (by decide +kernel)⟩

/-- The length of a path found is the least of the lengths of all answers. -/
theorem findPath_length_isLeast (b : BreadthFirst α) (hg : b.grid.Positional) (t : Trip)
    (found : b.findPath t ≠ []) :
    IsLeast {n | ∃ path, b.Answers t path ∧ path.length = n} (b.findPath t).length := by
  refine ⟨⟨_, answers_of_findPath hg found, rfl⟩, ?_⟩
  intro n ⟨path, h, length_eq⟩
  have le := h.courseKey_findPath_le hg
  rw [courseKey_le_iff, Trip.length_courseOf, Trip.length_courseOf] at le
  omega

theorem crossing_shortest : (aroundWalls courtyard).findPath (crossing .eight) ≠ [] ∧
    IsLeast {n | ∃ path, (aroundWalls courtyard).Answers (crossing .eight) path ∧
        path.length = n}
      ((aroundWalls courtyard).findPath (crossing .eight)).length := by
  have found : (aroundWalls courtyard).findPath (crossing .eight) ≠ [] := by decide +kernel
  exact ⟨found,
    findPath_length_isLeast (aroundWalls courtyard) positional_courtyard (crossing .eight) found⟩

/-- The course of a path found is the least, in lexicographic order, of those of all answers of its
length. -/
theorem findPath_course_isLeast (b : BreadthFirst α) (hg : b.grid.Positional) (t : Trip)
    (found : b.findPath t ≠ []) :
    IsLeast {w | ∃ path, b.Answers t path ∧ path.length = (b.findPath t).length ∧
      t.courseOf path = w} (t.courseOf (b.findPath t)) := by
  refine ⟨⟨_, answers_of_findPath hg found, rfl, rfl⟩, ?_⟩
  intro w ⟨path, h, same, course_eq⟩
  have le := h.courseKey_findPath_le hg
  rw [courseKey_le_iff, Trip.length_courseOf, Trip.length_courseOf] at le
  rw [← course_eq]
  cases le with
  | inl shorter => omega
  | inr first => exact first.2

/-- Of the two ways around the middle, the one that begins to the right is taken. -/
theorem crossing_course :
    (crossing .eight).courseOf ((aroundWalls courtyard).findPath (crossing .eight)) = [2, 6, 3] ∧
    IsLeast {w | ∃ path, (aroundWalls courtyard).Answers (crossing .eight) path ∧
      path.length = ((aroundWalls courtyard).findPath (crossing .eight)).length ∧
      (crossing .eight).courseOf path = w}
      ((crossing .eight).courseOf ((aroundWalls courtyard).findPath (crossing .eight))) := by
  have found : (aroundWalls courtyard).findPath (crossing .eight) ≠ [] := by decide +kernel
  exact ⟨by decide +kernel,
    findPath_course_isLeast (aroundWalls courtyard) positional_courtyard (crossing .eight) found⟩

end BreadthFirst
end GridWalk
