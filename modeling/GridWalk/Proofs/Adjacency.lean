import GridWalk.Proofs.Grid.Neighbourhood
/-! Adjacency of any two positions, up to the limits of 32 bits and at them. A step either leads to
distance 1 or stops where it began, which it does at a limit only; so adjacency is distance 1, and
at the limits a position is next to itself as well. -/
namespace GridWalk

/-- A column or row from which some step leads out of 32 bits. -/
def IsLimit (n : Int32) : Prop := n = Int32.minValue ∨ n = Int32.maxValue

instance (n : Int32) : Decidable (IsLimit n) := inferInstanceAs (Decidable (_ ∨ _))

theorem isLimit_iff {n : Int32} : IsLimit n ↔ n.toInt = -2147483648 ∨ n.toInt = 2147483647 := by
  rw [IsLimit, ← Int32.toInt_inj, ← Int32.toInt_inj]
  rfl

/-- One column or row further is where it should be, or at a limit from which nothing leads on. -/
theorem toInt_saturate_add {n : Int32} {k : Int} (low : -1 ≤ k) (high : k ≤ 1) :
    (saturate (n.toInt + k)).toInt = n.toInt + k ∨
      (saturate (n.toInt + k)).toInt = n.toInt ∧ IsLimit n := by
  have least : -2147483648 ≤ n.toInt := n.le_toInt
  have greatest : n.toInt < 2147483648 := n.toInt_lt
  rw [isLimit_iff, toInt_saturate]
  split
  · omega
  · split <;> omega

namespace Coord
variable {c : Coord}

def AtLimit (c : Coord) : Prop := IsLimit c.x ∨ IsLimit c.y

instance (c : Coord) : Decidable c.AtLimit := inferInstanceAs (Decidable (_ ∨ _))

end Coord

namespace Direction
variable {c : Coord}

theorem offset_bounds (s : Direction) : (-1 ≤ s.offset.1.toInt ∧ s.offset.1.toInt ≤ 1) ∧
    (-1 ≤ s.offset.2.toInt ∧ s.offset.2.toInt ≤ 1) := by
  cases s <;> decide

/-- At a limit one of the cardinal steps does not leave the position. -/
theorem exists_step_eq_self (h : c.AtLimit) : ∃ s ∈ cardinal, s.step c = c := by
  have stopped_low : saturate (Int32.minValue.toInt + (-1 : Int32).toInt) = Int32.minValue := by
    decide
  have stopped_high : saturate (Int32.maxValue.toInt + (1 : Int32).toInt) = Int32.maxValue := by
    decide
  have kept (n : Int32) : saturate (n.toInt + (0 : Int32).toInt) = n := by
    rw [Int32.toInt_zero, Int.add_zero, saturate_toInt]
  obtain ⟨x, y⟩ := c
  obtain (rfl | rfl) | (rfl | rfl) := h
  · exact ⟨left, by decide, congrArg₂ Coord.mk stopped_low (kept y)⟩
  · exact ⟨right, by decide, congrArg₂ Coord.mk stopped_high (kept y)⟩
  · exact ⟨up, by decide, congrArg₂ Coord.mk (kept x) stopped_low⟩
  · exact ⟨down, by decide, congrArg₂ Coord.mk (kept x) stopped_high⟩

theorem toInt_step (h : ¬ c.AtLimit) (s : Direction) :
    (s.step c).x.toInt = c.x.toInt + s.offset.1.toInt ∧
    (s.step c).y.toInt = c.y.toInt + s.offset.2.toInt := by
  obtain ⟨column_inside, row_inside⟩ := not_or.1 h
  obtain ⟨⟨left_bound, right_bound⟩, up_bound, down_bound⟩ := s.offset_bounds
  exact ⟨(toInt_saturate_add left_bound right_bound).resolve_right
      fun stopped => column_inside stopped.2,
    (toInt_saturate_add up_bound down_bound).resolve_right fun stopped => row_inside stopped.2⟩

theorem step_inj_of_not_atLimit (h : ¬ c.AtLimit) {s r : Direction} (same : s.step c = r.step c) :
    s = r := by
  obtain ⟨sx, sy⟩ := s.toInt_step h
  obtain ⟨rx, ry⟩ := r.toInt_step h
  rw [same] at sx sy
  exact offset_inj (by omega) (by omega)

theorem step_ne_self (h : ¬ c.AtLimit) (s : Direction) : s.step c ≠ c := by
  intro same
  obtain ⟨sx, sy⟩ := s.toInt_step h
  rw [same] at sx sy
  have still : s.offset.1.toInt = 0 ∧ s.offset.2.toInt = 0 := ⟨by omega, by omega⟩
  revert still
  cases s <;> decide

end Direction

namespace Adjacency
variable {a : Adjacency} {c d : Coord} {s : Direction}

def span : Adjacency → Int → Int → ℕ
  | four, dx, dy => dx.natAbs + dy.natAbs
  | eight, dx, dy => max dx.natAbs dy.natAbs

theorem distance_eq_span (a : Adjacency) (c d : Coord) :
    a.distance c d = a.span (d.x.toInt - c.x.toInt) (d.y.toInt - c.y.toInt) := by
  cases a <;> rfl

theorem span_offset (hs : s ∈ a.directions) : a.span s.offset.1.toInt s.offset.2.toInt = 1 := by
  revert hs
  cases a <;> cases s <;> decide

theorem mem_directions_of_mem_cardinal (hs : s ∈ Direction.cardinal) : s ∈ a.directions := by
  revert hs
  cases a <;> cases s <;> decide

theorem distance_step_eq_one (hs : s ∈ a.directions) (moved : s.step c ≠ c) :
    a.distance c (s.step c) = 1 := by
  have size := span_offset hs
  have column := toInt_saturate_add (n := c.x) s.offset_bounds.1.1 s.offset_bounds.1.2
  have row := toInt_saturate_add (n := c.y) s.offset_bounds.2.1 s.offset_bounds.2.2
  have apart : ¬ ((s.step c).x.toInt = c.x.toInt ∧ (s.step c).y.toInt = c.y.toInt) :=
    fun same => moved (Coord.ext_toInt same.1 same.2)
  -- A step that stops on one axis alone is a diagonal one; the other axis keeps it at distance 1.
  rw [distance_eq_span]
  simp only [Direction.step, Coord.move] at apart ⊢
  cases a with
  | four =>
    rw [span] at size ⊢
    omega
  | eight =>
    rw [span] at size ⊢
    omega

theorem adjacent_iff_distance_or_limit :
    a.Adjacent c d ↔ a.distance c d = 1 ∨ c = d ∧ c.AtLimit := by
  constructor
  · intro ⟨s, hs, e⟩
    subst e
    by_cases stays : s.step c = c
    · exact Or.inr ⟨stays.symm, by_contra fun inside => s.step_ne_self inside stays⟩
    · exact Or.inl (distance_step_eq_one hs stays)
  · intro h
    obtain near | ⟨same, limit⟩ := h
    · obtain ⟨s, hs, hx, hy⟩ := distance_eq_one_iff.1 near
      exact ⟨s, hs, s.step_eq_of_toInt hx hy⟩
    · obtain ⟨s, hs, stays⟩ := Direction.exists_step_eq_self limit
      exact ⟨s, mem_directions_of_mem_cardinal hs, stays.trans same⟩

theorem adjacent_comm : a.Adjacent c d ↔ a.Adjacent d c := by
  rw [adjacent_iff_distance_or_limit, adjacent_iff_distance_or_limit, distance_comm]
  refine or_congr_right ⟨?_, ?_⟩
  · intro ⟨same, limit⟩
    exact ⟨same.symm, same ▸ limit⟩
  · intro ⟨same, limit⟩
    exact ⟨same.symm, same ▸ limit⟩

theorem nodup_candidates (h : ¬ c.AtLimit) (a : Adjacency) : (a.candidates c).Nodup :=
  a.nodup_directions.map_on fun _ _ _ _ same => Direction.step_inj_of_not_atLimit h same

theorem not_mem_candidates_self (h : ¬ c.AtLimit) (a : Adjacency) : c ∉ a.candidates c := by
  rw [mem_candidates]
  intro ⟨s, _, same⟩
  exact s.step_ne_self h same

/-- Adjacency of any two positions. It is distance 1, along rows and columns together or along the
longer of the two; a position at a limit is next to itself as well. Hence it does not matter which
position is named first, cardinal steps lead nowhere that the eight steps do not lead, and away from
the limits the candidates are as many different positions as there are steps, without the position
itself. -/
theorem adjacent_everywhere (c d : Coord) :
    (four.Adjacent c d ↔
      (d.x.toInt - c.x.toInt).natAbs + (d.y.toInt - c.y.toInt).natAbs = 1 ∨
        c = d ∧ c.AtLimit) ∧
    (eight.Adjacent c d ↔
      max (d.x.toInt - c.x.toInt).natAbs (d.y.toInt - c.y.toInt).natAbs = 1 ∨
        c = d ∧ c.AtLimit) ∧
    (∀ a : Adjacency, a.Adjacent c d ↔ a.Adjacent d c) ∧
    (four.Adjacent c d → eight.Adjacent c d) ∧
    (¬ c.AtLimit → ∀ a : Adjacency,
      (a.candidates c).length = a.degree ∧ (a.candidates c).Nodup ∧ c ∉ a.candidates c) := by
  refine ⟨adjacent_iff_distance_or_limit, adjacent_iff_distance_or_limit, fun _ => adjacent_comm,
    ?_, fun inside a =>
      ⟨a.length_candidates c, nodup_candidates inside a, not_mem_candidates_self inside a⟩⟩
  intro ⟨s, _, leads⟩
  exact ⟨s, s.mem_all, leads⟩

/-- In the lower left corner of all positions three of the eight steps stop where they began, and
two diagonal ones end where a cardinal one does; one step off the edges no two steps end at the same
position. -/
theorem corner_adjacent :
    eight.Adjacent ⟨-2147483648, 2147483647⟩ ⟨-2147483648, 2147483647⟩ ∧
    eight.candidates ⟨-2147483648, 2147483647⟩ =
      [⟨-2147483648, 2147483647⟩, ⟨-2147483648, 2147483646⟩, ⟨-2147483647, 2147483647⟩,
        ⟨-2147483648, 2147483647⟩, ⟨-2147483648, 2147483646⟩, ⟨-2147483647, 2147483646⟩,
        ⟨-2147483647, 2147483647⟩, ⟨-2147483648, 2147483647⟩] ∧
    ¬ (⟨-2147483647, 2147483646⟩ : Coord).AtLimit ∧
    (eight.candidates ⟨-2147483647, 2147483646⟩).Nodup ∧
    four.Adjacent ⟨-2147483648, 2147483646⟩ ⟨-2147483647, 2147483646⟩ ∧
    eight.Adjacent ⟨-2147483648, 2147483646⟩ ⟨-2147483647, 2147483646⟩ := by
  have inside : ¬ (⟨-2147483647, 2147483646⟩ : Coord).AtLimit := by decide
  obtain ⟨-, corner, -⟩ :=
    adjacent_everywhere ⟨-2147483648, 2147483647⟩ ⟨-2147483648, 2147483647⟩
  obtain ⟨-, -, turned, -, distinct⟩ :=
    adjacent_everywhere ⟨-2147483647, 2147483646⟩ ⟨-2147483648, 2147483646⟩
  obtain ⟨-, -, -, more, -⟩ :=
    adjacent_everywhere ⟨-2147483648, 2147483646⟩ ⟨-2147483647, 2147483646⟩
  have left : four.Adjacent ⟨-2147483648, 2147483646⟩ ⟨-2147483647, 2147483646⟩ :=
    (turned four).1 (by decide)
  exact ⟨corner.2 (Or.inr ⟨rfl, by decide⟩), by decide, inside, (distinct inside eight).2.1,
    left, more left⟩

end Adjacency
end GridWalk
