import GridWalk.Proofs.Grid.Frame
import GridWalk.Proofs.Search.Course
import GridWalk.Proofs.Trip.Acceptance
/-! Courses and paths on positional grids. There a step leads to the position it aims at, different
steps lead to different positions, and so a path that the trip accepts and the search may walk is
the same thing as a course to the target. -/
namespace GridWalk

def Adjacency.headings (a : Adjacency) : Coord → List Coord → List ℕ
  | _, [] => []
  | prev, c :: rest => a.directions.findIdx (fun s => s.step prev = c) :: a.headings c rest

def Trip.courseOf {α : Type} [Cell α] (t : Trip) (path : List α) : List ℕ :=
  t.adjacency.headings t.source (path.map Cell.coord)

theorem Adjacency.length_headings (a : Adjacency) (prev : Coord) (cs : List Coord) :
    (a.headings prev cs).length = cs.length := by
  induction cs generalizing prev with
  | nil => rfl
  | cons c rest ih => simp [headings, ih]

theorem Trip.length_courseOf {α : Type} [Cell α] (t : Trip) (path : List α) :
    (t.courseOf path).length = path.length := by
  rw [courseOf, Adjacency.length_headings, List.length_map]

namespace BreadthFirst
variable {α : Type} [Cell α] {b : BreadthFirst α} {t : Trip} {c d prev : Coord}
  {u v w : List ℕ} {i : ℕ} {cs : List Coord} {path : List α}

def Clear (b : BreadthFirst α) (t : Trip) (c : Coord) : Prop :=
  t.Allows c ∧ ∃ a, b.grid.get? c = some a ∧ b.passable a = true

structure Answers (b : BreadthFirst α) (t : Trip) (path : List α) : Prop where
  ne_nil : path ≠ []
  occupied : ∀ a ∈ path, a ∈ b.grid.occupied
  passable : ∀ a ∈ path, b.passable a = true
  accepted : t.breach? b.grid path = none

theorem Answers.begins (h : b.Answers t path) : b.Begins t := by
  obtain ⟨ne, occupied, enters, -, last⟩ := (Trip.breach?_eq_none_iff h.ne_nil).1 h.accepted
  have target_mem : t.target ∈ path.map Cell.coord := by
    cases List.mem_cons.1 (List.mem_of_getLast? last) with
    | inl e => exact absurd e.symm ne
    | inr mem => exact mem
  obtain ⟨a, ha⟩ := Option.isSome_iff_exists.1 (enters _ target_mem).2.1
  exact ⟨Grid.mem_of_get? ha, ne, occupied⟩

section
variable (hg : b.grid.Positional)
include hg

theorem hop_iff_clear : b.hop t c i = some d ↔
    (∃ s, t.adjacency.directions[i]? = some s ∧ s.step c = d) ∧ b.Clear t d := by
  rw [hop_eq_some_iff]
  constructor
  · intro ⟨s, a, hs, ha, opens, hd⟩
    have coord_eq : Cell.coord a = s.step c := hg _ _ ha
    have allowed := opens.2.1
    rw [← hd, coord_eq]
    rw [coord_eq] at allowed
    exact ⟨⟨s, hs, rfl⟩, allowed, a, ha, opens.2.2⟩
  · intro ⟨⟨s, hs, step⟩, allowed, a, ha, passable⟩
    have coord_eq : Cell.coord a = d := hg _ _ ha
    have opens : b.Open t a := by
      rw [Open, coord_eq]
      exact ⟨Grid.mem_of_get? ha, allowed, passable⟩
    exact ⟨s, a, hs, by rw [step, ha], opens, coord_eq⟩

theorem adjacent_of_hop (h : b.hop t c i = some d) : t.adjacency.Adjacent c d := by
  obtain ⟨⟨s, hs, step⟩, -⟩ := (hop_iff_clear hg).1 h
  exact ⟨s, List.mem_of_getElem? hs, step⟩

/-- The place of a step is told by the positions it joins. -/
theorem findIdx_of_hop (h : b.hop t c i = some d) :
    t.adjacency.directions.findIdx (fun s => s.step c = d) = i := by
  have hd : d ∈ b.grid.frame := mem_frame_of_hop h
  obtain ⟨⟨s, hs, rfl⟩, -⟩ := (hop_iff_clear hg).1 h
  obtain ⟨hi, rfl⟩ := List.getElem?_eq_some_iff.1 hs
  rw [List.findIdx_eq hi]
  refine ⟨by simp, fun j hj => ?_⟩
  rw [decide_eq_false_iff_not]
  intro same
  have dir_eq := Direction.step_inj b.grid.valid hd same
  exact absurd (t.adjacency.nodup_directions.getElem_inj_iff.1 dir_eq) (Nat.ne_of_gt hj)

theorem hop_of_adjacent (h : t.adjacency.Adjacent c d) (hd : b.Clear t d) :
    b.hop t c (t.adjacency.directions.findIdx fun s => s.step c = d) = some d := by
  obtain ⟨s, hs, step⟩ := h
  refine (hop_iff_clear hg).2 ⟨?_, hd⟩
  have lt : t.adjacency.directions.findIdx (fun s => s.step c = d) <
      t.adjacency.directions.length := List.findIdx_lt_length.2 ⟨s, hs, by simpa using step⟩
  refine ⟨_, List.getElem?_eq_getElem lt, ?_⟩
  simpa using List.findIdx_getElem (w := lt)

/-- A course that can be followed is the course of its stops. -/
theorem headings_stops (h : b.follow t c w = some d) :
    t.adjacency.headings c (b.stops t c w) = w := by
  induction w generalizing c with
  | nil => rfl
  | cons i w ih =>
    rw [follow_cons, Option.bind_eq_some_iff] at h
    obtain ⟨x, hx, hw⟩ := h
    rw [stops_cons hx, Adjacency.headings, findIdx_of_hop hg hx, ih hw]

theorem clear_of_mem_stops (h : d ∈ b.stops t c w) : b.Clear t d := by
  obtain ⟨e, i, hop⟩ := exists_hop_of_mem_stops h
  exact ((hop_iff_clear hg).1 hop).2

/-- The steps between adjacent clear positions are a course that can be followed. -/
theorem follow_headings (chain : (c :: cs).IsChain t.adjacency.Adjacent)
    (clear : ∀ d ∈ cs, b.Clear t d) :
    b.follow t c (t.adjacency.headings c cs) = (c :: cs).getLast? ∧
      b.stops t c (t.adjacency.headings c cs) = cs := by
  induction cs generalizing c with
  | nil => exact ⟨rfl, rfl⟩
  | cons d cs ih =>
    rw [List.isChain_cons_cons] at chain
    rw [List.forall_mem_cons] at clear
    have hop := hop_of_adjacent hg chain.1 clear.1
    obtain ⟨leads, same⟩ := ih chain.2 clear.2
    rw [Adjacency.headings, follow_cons, stops_cons hop, hop, Option.bind_some,
      List.getLast?_cons_cons]
    exact ⟨leads, congrArg (d :: ·) same⟩

theorem get?_of_mem_occupied {a : α} (h : a ∈ b.grid.occupied) :
    b.grid.get? (Cell.coord a) = some a := by
  obtain ⟨c, hc⟩ := Grid.mem_occupied.1 h
  rwa [hg c a hc]

/-- An answer is the walk along its course. -/
theorem Answers.follow (h : b.Answers t path) :
    b.follow t t.source (t.courseOf path) = some t.target ∧
      b.stops t t.source (t.courseOf path) = path.map Cell.coord := by
  obtain ⟨-, -, enters, chain, last⟩ := (Trip.breach?_eq_none_iff h.ne_nil).1 h.accepted
  have clear : ∀ d ∈ path.map Cell.coord, b.Clear t d := by
    intro d hd
    obtain ⟨a, ha, rfl⟩ := List.mem_map.1 hd
    exact ⟨(enters _ hd).2.2, a, get?_of_mem_occupied hg (h.occupied a ha), h.passable a ha⟩
  rw [← last]
  exact follow_headings hg chain clear

end
end BreadthFirst
end GridWalk
