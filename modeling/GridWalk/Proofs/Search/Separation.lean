import Mathlib.Data.ENat.Basic
import GridWalk.Proofs.Search.BestPath
/-! How far apart two positions are for a search: the length of the path it finds from one to the
other. On a positional grid courses can be walked back and joined end to end, so these lengths are a
metric on the clear positions, although the way back found need not be the way out. -/
namespace GridWalk

theorem Adjacency.Adjacent.symm {a : Adjacency} {f : Frame} {c d : Coord} (h : a.Adjacent c d)
    (valid : f.Valid) (hc : c ∈ f) (hd : d ∈ f) : a.Adjacent d c := by
  rw [adjacent_iff_distance valid hd] at h
  rw [adjacent_iff_distance valid hc, distance_comm, h]

namespace BreadthFirst
variable {α : Type} [Cell α] {b : BreadthFirst α} {t : Trip} {c d e : Coord} {u v w : List ℕ}
  {i n : ℕ}

/-- The length of the path found from `c` to `d`, infinite where none is found; it is 0 from a
position to itself, for which no path is ever returned. -/
def separation (b : BreadthFirst α) (t : Trip) (c d : Coord) : ℕ∞ :=
  if c = d then 0
  else
    match b.findPath (t.between c d) with
    | [] => ⊤
    | path => path.length

@[simp] theorem separation_self (b : BreadthFirst α) (t : Trip) (c : Coord) :
    b.separation t c c = 0 := if_pos rfl

theorem separation_of_findPath (apart : c ≠ d) (found : b.findPath (t.between c d) ≠ []) :
    b.separation t c d = (b.findPath (t.between c d)).length := by
  rw [separation, if_neg apart]
  split
  · contradiction
  · rfl

theorem separation_of_findPath_eq_nil (apart : c ≠ d) (lost : b.findPath (t.between c d) = []) :
    b.separation t c d = ⊤ := by
  rw [separation, if_neg apart, lost]

theorem separation_eq_zero_iff : b.separation t c d = 0 ↔ c = d := by
  constructor
  · intro zero
    by_contra apart
    by_cases lost : b.findPath (t.between c d) = []
    · simp [separation_of_findPath_eq_nil apart lost] at zero
    · rw [separation_of_findPath apart lost] at zero
      exact lost (by simpa using zero)
  · intro same
    rw [same, separation_self]

theorem mem_frame_of_follow (hc : c ∈ b.grid.frame) (h : b.follow t c w = some d) :
    d ∈ b.grid.frame := by
  induction w generalizing c with
  | nil =>
    cases h
    exact hc
  | cons i w ih =>
    rw [follow_cons, Option.bind_eq_some_iff] at h
    obtain ⟨x, hop, rest⟩ := h
    exact ih (mem_frame_of_hop hop) rest

theorem Best.length_le (h : b.Best t c w d) (hv : b.follow t c v = some d) :
    w.length ≤ v.length := by
  have le := h.least v hv
  rw [courseKey_le_iff] at le
  omega

omit [Cell α] in
theorem Clear.mem_frame (h : b.Clear t c) : c ∈ b.grid.frame := by
  obtain ⟨-, a, ha, -⟩ := h
  exact Grid.mem_of_get? ha

omit [Cell α] in
theorem Clear.isSome (h : b.Clear t c) : (b.grid.get? c).isSome := by
  obtain ⟨-, a, ha, -⟩ := h
  simp [ha]

section
variable (hg : b.grid.Positional)
include hg

/-- A step to a clear position from a clear position can be taken back. -/
theorem exists_hop_back (hc : b.Clear t c) (hop : b.hop t c i = some d) :
    ∃ j, b.hop t d j = some c := by
  have back : t.adjacency.Adjacent d c :=
    (adjacent_of_hop hg hop).symm b.grid.valid hc.mem_frame (mem_frame_of_hop hop)
  exact ⟨_, hop_of_adjacent hg back hc⟩

theorem exists_follow_back (hc : b.Clear t c) (h : b.follow t c w = some d) :
    ∃ v, v.length = w.length ∧ b.follow t d v = some c := by
  induction w generalizing c with
  | nil =>
    cases h
    exact ⟨[], rfl, rfl⟩
  | cons i w ih =>
    rw [follow_cons, Option.bind_eq_some_iff] at h
    obtain ⟨x, hop, rest⟩ := h
    obtain ⟨v, same, back⟩ := ih ((hop_iff_clear hg).1 hop).2 rest
    obtain ⟨j, last⟩ := exists_hop_back hg hc hop
    exact ⟨v ++ [j], by simp [same], follow_snoc_eq_some_iff.2 ⟨x, back, last⟩⟩

/-- The path found between the ends of a course is no longer than the course. -/
theorem separation_le_length (occupied : (b.grid.get? c).isSome) (h : b.follow t c w = some d) :
    b.separation t c d ≤ w.length := by
  by_cases same : c = d
  · simp [same]
  · obtain ⟨a, ha⟩ := Option.isSome_iff_exists.1 occupied
    have begins : b.Begins (t.between c d) :=
      ⟨mem_frame_of_follow (Grid.mem_of_get? ha) h, same, occupied⟩
    have leads :
        b.follow (t.between c d) (t.between c d).source w = some (t.between c d).target := h
    obtain ⟨v, best⟩ := exists_best begins leads
    have length_eq : (b.findPath (t.between c d)).length = v.length := by
      rw [← Trip.length_courseOf (t.between c d), courseOf_findPath hg begins best]
    rw [separation_of_findPath same (answers_of_best hg begins best).ne_nil, length_eq, Nat.cast_le]
    exact best.length_le leads

theorem exists_follow_of_separation (h : b.separation t c d = n) :
    ∃ w, w.length = n ∧ b.follow t c w = some d := by
  by_cases same : c = d
  · subst same
    rw [separation_self] at h
    exact ⟨[], by simpa using (Nat.cast_eq_zero.1 h.symm).symm, rfl⟩
  · by_cases lost : b.findPath (t.between c d) = []
    · rw [separation_of_findPath_eq_nil same lost] at h
      exact absurd h.symm (ENat.natCast_ne_top n)
    · rw [separation_of_findPath same lost, Nat.cast_inj] at h
      have leads := ((answers_of_findPath hg lost).follow hg).1
      exact ⟨_, (Trip.length_courseOf _ _).trans h, leads⟩

theorem separation_le_of_back (hc : b.Clear t c) (hd : b.Clear t d) :
    b.separation t d c ≤ b.separation t c d := by
  cases h : b.separation t c d with
  | top => exact le_top
  | coe n =>
    obtain ⟨w, length_eq, out⟩ := exists_follow_of_separation hg h
    obtain ⟨v, same, back⟩ := exists_follow_back hg hc out
    rw [← length_eq, ← same]
    exact separation_le_length hg hd.isSome back

theorem separation_triangle (hc : b.Clear t c) :
    b.separation t c e ≤ b.separation t c d + b.separation t d e := by
  cases first : b.separation t c d with
  | top => simp
  | coe m =>
    cases second : b.separation t d e with
    | top => simp
    | coe n =>
      obtain ⟨u, hu, out⟩ := exists_follow_of_separation hg first
      obtain ⟨v, hv, onward⟩ := exists_follow_of_separation hg second
      have joined : b.follow t c (u ++ v) = some e := by
        rw [follow_append, out, Option.bind_some, onward]
      rw [← hu, ← hv, ← Nat.cast_add, ← List.length_append]
      exact separation_le_length hg hc.isSome joined

end

/-- The lengths of the paths found are a metric on the clear positions: only a position itself is at
0, the way back is as long as the way out and found whenever that is, and no way by a third position
is shorter. -/
theorem separation_isMetric (b : BreadthFirst α) (hg : b.grid.Positional) (t : Trip) :
    (∀ c d, b.separation t c d = 0 ↔ c = d) ∧
    (∀ c d, b.Clear t c → b.Clear t d → b.separation t c d = b.separation t d c) ∧
    ∀ c d e, b.Clear t c → b.separation t c e ≤ b.separation t c d + b.separation t d e := by
  refine ⟨fun c d => separation_eq_zero_iff, fun c d hc hd => ?_,
    fun c d e => separation_triangle hg⟩
  exact le_antisymm (separation_le_of_back hg hd hc) (separation_le_of_back hg hc hd)

/-- The way across the courtyard and the way back go around different sides of its middle. -/
theorem crossing_separation : courtyard.Positional ∧
    (aroundWalls courtyard).findPath ((crossing .eight).between ⟨0, 0⟩ ⟨2, 2⟩) =
      [⟨⟨1, 0⟩, true⟩, ⟨⟨2, 1⟩, true⟩, ⟨⟨2, 2⟩, true⟩] ∧
    (aroundWalls courtyard).findPath ((crossing .eight).between ⟨2, 2⟩ ⟨0, 0⟩) =
      [⟨⟨1, 2⟩, true⟩, ⟨⟨0, 1⟩, true⟩, ⟨⟨0, 0⟩, true⟩] ∧
    (aroundWalls courtyard).separation (crossing .eight) ⟨0, 0⟩ ⟨2, 2⟩ =
      (aroundWalls courtyard).separation (crossing .eight) ⟨2, 2⟩ ⟨0, 0⟩ ∧
    (aroundWalls courtyard).separation (crossing .eight) ⟨0, 0⟩ ⟨2, 2⟩ ≤
      (aroundWalls courtyard).separation (crossing .eight) ⟨0, 0⟩ ⟨0, 2⟩ +
        (aroundWalls courtyard).separation (crossing .eight) ⟨0, 2⟩ ⟨2, 2⟩ := by
  have corner : (aroundWalls courtyard).Clear (crossing .eight) ⟨0, 0⟩ :=
    ⟨by decide, ⟨⟨0, 0⟩, true⟩, by decide +kernel, rfl⟩
  have opposite : (aroundWalls courtyard).Clear (crossing .eight) ⟨2, 2⟩ :=
    ⟨by decide, ⟨⟨2, 2⟩, true⟩, by decide +kernel, rfl⟩
  obtain ⟨-, back, detour⟩ :=
    separation_isMetric (aroundWalls courtyard) positional_courtyard (crossing .eight)
  exact ⟨positional_courtyard, by decide +kernel, by decide +kernel, back _ _ corner opposite,
    detour _ _ _ corner⟩

end BreadthFirst
end GridWalk
