import GridWalk.Proofs.Search.OpenGround
import GridWalk.Proofs.Trip.Obstacles
import GridWalk.Terrain
/-! Walled floor. The walls that are put up one after another make a floor that is told by which
positions are among them; and a search that does not enter walls goes where one on open floor goes
that is told to avoid them. -/
namespace GridWalk

namespace BreadthFirst
variable {α β : Type} [Cell α] [Cell β] {b : BreadthFirst α} {b' : BreadthFirst β}
  {t t' : Trip} {c d : Coord} {w : List ℕ} {i : ℕ}

/-- Searches, of whatever grids, that can make the same steps follow the same courses. -/
theorem follow_eq_of_hop_eq (same : ∀ c i, b.hop t c i = b'.hop t' c i) (c : Coord)
    (w : List ℕ) : b.follow t c w = b'.follow t' c w ∧ b.stops t c w = b'.stops t' c w := by
  induction w generalizing c with
  | nil => exact ⟨rfl, rfl⟩
  | cons i w ih =>
    rw [follow_cons, follow_cons, stops, stops, same]
    cases b'.hop t' c i with
    | none => exact ⟨rfl, rfl⟩
    | some d => exact ⟨(ih d).1, congrArg (d :: ·) (ih d).2⟩

theorem Best.of_hop_eq (same : ∀ c i, b.hop t c i = b'.hop t' c i) (h : b.Best t c w d) :
    b'.Best t' c w d := by
  have follow_eq (v : List ℕ) := (follow_eq_of_hop_eq same c v).1
  refine ⟨(follow_eq w).symm.trans h.leads, fun v leads => h.least v ?_⟩
  rw [follow_eq, leads]

section
variable (hg : b.grid.Positional) (hg' : b'.grid.Positional)
include hg hg'

theorem hop_eq_of_clear_iff (adjacency : t'.adjacency = t.adjacency)
    (clear : ∀ c, b.Clear t c ↔ b'.Clear t' c)
    (c : Coord) (i : ℕ) : b.hop t c i = b'.hop t' c i := by
  ext d
  rw [hop_iff_clear hg, hop_iff_clear hg', adjacency, clear]

/-- Searches from the same source to the same target that are kept off the same positions find the
same way. -/
theorem map_coord_findPath_eq (source : t'.source = t.source) (target : t'.target = t.target)
    (adjacency : t'.adjacency = t.adjacency) (begins : b.Begins t ↔ b'.Begins t')
    (clear : ∀ c, b.Clear t c ↔ b'.Clear t' c) :
    (b.findPath t).map Cell.coord = (b'.findPath t').map Cell.coord := by
  have same := hop_eq_of_clear_iff hg hg' adjacency clear
  by_cases reachable : b.Begins t ∧ ∃ w, b.Best t t.source w t.target
  · obtain ⟨hb, w, best⟩ := reachable
    have best' : b'.Best t' t'.source w t'.target := by
      rw [source, target]
      exact best.of_hop_eq same
    rw [map_coord_findPath hg hb best, map_coord_findPath hg' (begins.1 hb) best', source]
    exact (follow_eq_of_hop_eq same t.source w).2
  · have lost : b.findPath t = [] := by
      by_contra found
      exact reachable (exists_best_of_findPath found)
    have lost' : b'.findPath t' = [] := by
      by_contra found
      obtain ⟨hb, w, best⟩ := exists_best_of_findPath found
      rw [source, target] at best
      exact reachable ⟨begins.2 hb, w, best.of_hop_eq fun c i => (same c i).symm⟩
    rw [lost, lost']
    rfl

end
end BreadthFirst

namespace Terrain
variable {g k floor : Grid Floor} {walls : List Coord} {c : Coord} {s : Storage}
  {width height : UInt32}

theorem addWalls_cons_of_mem (h : c ∈ g.frame) (rest : List Coord) :
    addWalls g (c :: rest) = addWalls (g.put c (some (.wall c))) rest := by
  rw [addWalls, Grid.set, Grid.revise_of_mem h]

theorem addWalls_cons_of_not_mem (h : c ∉ g.frame) (rest : List Coord) :
    addWalls g (c :: rest) = .error (.wall (g.outOfBounds c)) := by
  rw [addWalls, Grid.set, Grid.revise_of_not_mem h]

theorem addWalls_of_find? (h : walls.find? (fun c => c ∉ g.frame) = some c) :
    addWalls g walls = .error (.wall (g.outOfBounds c)) := by
  induction walls generalizing g with
  | nil => cases h
  | cons d rest ih =>
    by_cases inside : d ∈ g.frame
    · rw [List.find?_cons_of_neg (by simpa using inside)] at h
      rw [addWalls_cons_of_mem inside]
      exact ih h
    · rw [List.find?_cons_of_pos (by simpa using inside)] at h
      cases h
      exact addWalls_cons_of_not_mem inside rest

/-- Walls within the frame replace what stood where they are put, and nothing else. -/
theorem exists_addWalls (h : ∀ c ∈ walls, c ∈ g.frame) :
    ∃ k, addWalls g walls = .ok k ∧ k.frame = g.frame ∧
    ∀ c, k.get? c = if c ∈ walls then some (.wall c) else g.get? c := by
  induction walls generalizing g with
  | nil => exact ⟨g, rfl, rfl, fun c => by simp⟩
  | cons d rest ih =>
    rw [List.forall_mem_cons] at h
    obtain ⟨k, put, frame, holds⟩ := ih (g := g.put d (some (.wall d))) h.2
    refine ⟨k, (addWalls_cons_of_mem h.1 rest).trans put, frame, fun c => ?_⟩
    rw [holds, Grid.get?_put h.1]
    by_cases walled : c ∈ rest
    · simp [walled]
    · by_cases same : c = d
      · simp [same]
      · simp [walled, same]

section
variable (floored : ∀ c ∈ floor.frame, floor.get? c = some ⟨c, true⟩)
  (walled : ∀ c, k.get? c = if c ∈ walls then some (.wall c) else floor.get? c)
include floored walled

theorem positional_of_walled : k.Positional := by
  intro c a held
  rw [walled] at held
  split at held
  · cases held
    rfl
  · exact positional_of_floored floored c a held

theorem get?_of_walled (hc : c ∈ floor.frame) :
    k.get? c = some ⟨c, decide (c ∉ walls)⟩ := by
  rw [walled]
  by_cases wall : c ∈ walls
  · simp [wall, Floor.wall]
  · simp [wall, floored c hc]

/-- A wall keeps a search off its position as an obstacle there does. -/
theorem clear_aroundWalls_iff (frame : k.frame = floor.frame) (t : Trip) (c : Coord) :
    (BreadthFirst.aroundWalls k).Clear t c ↔
      BreadthFirst.Clear { grid := floor } (t.avoiding walls) c := by
  rw [BreadthFirst.Clear, BreadthFirst.Clear, Trip.allows_avoiding_iff, and_assoc]
  refine and_congr_right fun _ => ?_
  constructor
  · intro ⟨a, held, walkable⟩
    have inside : c ∈ floor.frame := frame ▸ Grid.mem_of_get? held
    rw [show (BreadthFirst.aroundWalls k).grid.get? c = _ from
      get?_of_walled floored walled inside] at held
    cases held
    exact ⟨of_decide_eq_true walkable, _, floored c inside, rfl⟩
  · intro ⟨off_walls, a, held, _⟩
    have inside : c ∈ floor.frame := Grid.mem_of_get? held
    exact ⟨_, get?_of_walled floored walled inside, decide_eq_true off_walls⟩

/-- A search around the walls goes where one on the open floor goes that is to avoid them, also from
a wall. -/
theorem map_coord_findPath_aroundWalls (frame : k.frame = floor.frame) (t : Trip) :
    ((BreadthFirst.aroundWalls k).findPath t).map Cell.coord =
      (BreadthFirst.findPath { grid := floor } (t.avoiding walls)).map Cell.coord := by
  refine BreadthFirst.map_coord_findPath_eq (positional_of_walled floored walled)
    (positional_of_floored floored) rfl rfl rfl ?_ (clear_aroundWalls_iff floored walled frame t)
  have occupied (c : Coord) : (k.get? c).isSome = (floor.get? c).isSome := by
    by_cases inside : c ∈ floor.frame
    · rw [get?_of_walled floored walled inside, floored c inside]
      rfl
    · rw [Grid.get?_of_not_mem inside, Grid.get?_of_not_mem (frame ▸ inside)]
  rw [BreadthFirst.Begins, BreadthFirst.Begins, BreadthFirst.aroundWalls, occupied, frame]
  exact Iff.rfl

end

/-- A floor with walls, wherever these are to be put. If the sides do not admit a grid, the fault of
the construction is reported; if they do and some wall lies outside, the fault of the first one that
does. Otherwise every slot holds a cell at its own position, walkable exactly where no wall is
listed, so that order and repetition do not count; and a search that does not enter walls visits,
for every trip, the positions that a search on open floor visits that is to avoid them as well. -/
theorem walledFloor_as_listed (s : Storage) (width height : UInt32) (walls : List Coord) :
    (openFloorIn .standard = openFloor ∧ walledFloorIn .standard = walledFloor) ∧
    (∀ e, Frame.Refused { width, height } s e →
      walledFloorIn s width height walls = .error (.grid width height e)) ∧
    ((∀ e, ¬ Frame.Refused { width, height } s e) →
      (∀ c, walls.find? (fun c => c ∉ ({ width, height } : Frame)) = some c →
        walledFloorIn s width height walls = .error (.wall (.outOfBounds c width height))) ∧
      ((∀ c ∈ walls, c ∈ ({ width, height } : Frame)) →
        ∃ floor k, openFloorIn s width height = .ok floor ∧
          walledFloorIn s width height walls = .ok k ∧
          k.frame = { width, height } ∧ k.Positional ∧
          (∀ c ∈ k.frame, ∃ a, k.get? c = some a ∧ (a.walkable = true ↔ c ∉ walls)) ∧
          (∀ others, (∀ c, c ∈ others ↔ c ∈ walls) →
            walledFloorIn s width height others = .ok k) ∧
          ∀ t, ((BreadthFirst.aroundWalls k).findPath t).map Cell.coord =
            (BreadthFirst.findPath { grid := floor } (t.avoiding walls)).map Cell.coord)) := by
  refine ⟨⟨rfl, rfl⟩, fun e refused => ?_, fun admitted => ?_⟩
  · rw [walledFloorIn, openFloorIn_of_refused refused]
    rfl
  · obtain ⟨floor, laid⟩ := exists_openFloorIn admitted
    have frame := frame_openFloorIn laid
    have floored (c : Coord) (hc : c ∈ floor.frame) := get?_openFloorIn laid hc
    have put (others : List Coord) : walledFloorIn s width height others =
        addWalls floor others := by
      rw [walledFloorIn, laid]
      rfl
    refine ⟨fun c first => ?_, fun inside => ?_⟩
    · rw [← frame] at first
      rw [put, addWalls_of_find? first, Grid.outOfBounds, frame]
    · rw [← frame] at inside
      obtain ⟨k, added, same_frame, walled⟩ := exists_addWalls inside
      refine ⟨floor, k, laid, (put walls).trans added, same_frame.trans frame,
        positional_of_walled floored walled, fun c hc => ?_, fun others same => ?_,
        map_coord_findPath_aroundWalls floored walled same_frame⟩
      · rw [same_frame] at hc
        exact ⟨_, get?_of_walled floored walled hc, decide_eq_true_iff⟩
      · obtain ⟨k', added', same_frame', walled'⟩ :=
          exists_addWalls fun c hc => inside c ((same c).1 hc)
        have equal : k' = k := by
          refine Grid.ext_get? (same_frame'.trans same_frame.symm) fun c => ?_
          rw [walled', walled]
          simp only [same]
        rw [put, added', equal]

/-- An empty side is reported before any wall, and of two walls outside the first. One wall listed
twice is one wall; and a search may set out from it, but not come back. -/
theorem walls_twice_listed :
    walledFloor 0 5 [⟨9, 9⟩] = .error (.grid 0 5 (.emptyGrid 0 5)) ∧
    walledFloor 4 3 [⟨1, 1⟩, ⟨4, 0⟩, ⟨0, -1⟩] =
      .error (.wall (.outOfBounds ⟨4, 0⟩ 4 3)) ∧
    ∃ k, walledFloor 4 3 [⟨1, 0⟩, ⟨1, 1⟩, ⟨1, 0⟩] = .ok k ∧
      walledFloor 4 3 [⟨1, 1⟩, ⟨1, 0⟩] = .ok k ∧
      ((BreadthFirst.aroundWalls k).findPath { source := ⟨1, 0⟩, target := ⟨3, 1⟩ }).map
        Cell.coord = [⟨2, 0⟩, ⟨3, 0⟩, ⟨3, 1⟩] ∧
      ((BreadthFirst.aroundWalls k).findPath { source := ⟨2, 0⟩, target := ⟨1, 0⟩ }).map
        Cell.coord = [] := by
  have admitted (e : Fault) : ¬ Frame.Refused { width := 4, height := 3 } .standard e := by
    intro refused
    exact absurd (Frame.exists_refused_iff.1 ⟨e, refused⟩) (by decide)
  obtain ⟨⟨-, same⟩, refused, -⟩ := walledFloor_as_listed .standard 0 5 [⟨9, 9⟩]
  obtain ⟨-, -, outside⟩ :=
    walledFloor_as_listed .standard 4 3 [⟨1, 1⟩, ⟨4, 0⟩, ⟨0, -1⟩]
  obtain ⟨-, -, inside⟩ :=
    walledFloor_as_listed .standard 4 3 [⟨1, 0⟩, ⟨1, 1⟩, ⟨1, 0⟩]
  obtain ⟨floor, k, laid, put, -, -, -, unordered, searched⟩ := (inside admitted).2 (by decide)
  have once (c : Coord) : c ∈ [⟨1, 1⟩, ⟨1, 0⟩] ↔
      c ∈ [⟨1, 0⟩, ⟨1, 1⟩, (⟨1, 0⟩ : Coord)] := by
    simp only [List.mem_cons, List.not_mem_nil, or_false]
    exact ⟨fun listed => Or.inr listed, fun listed => listed.elim Or.inr id⟩
  rw [same] at refused outside put unordered
  refine ⟨refused _ (.empty (Or.inl rfl)), (outside admitted).1 _ (by decide), k, put,
    unordered _ once, ?_, ?_⟩
  · rw [searched]
    cases laid
    decide +kernel
  · rw [searched]
    cases laid
    decide +kernel

end Terrain
end GridWalk
