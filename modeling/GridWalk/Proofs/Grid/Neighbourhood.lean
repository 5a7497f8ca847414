import Mathlib.Data.List.Nodup
import GridWalk.Grid.Neighbour
import GridWalk.Grid.View
import GridWalk.Proofs.Grid.Frame
/-! The occupants around a position, which may lie anywhere in 32 bits. On a positional grid they
are told by distance: steps that stop at the limits never end in a frame, so those that do are
exact, and no two of them end at the same position. -/
namespace GridWalk

namespace Adjacency
variable {a : Adjacency} {f : Frame} {c d : Coord}

/-- How far apart two positions are, in exact integers: along the rows and columns together, or
along the longer of the two where one step may change both. -/
def distance : Adjacency → Coord → Coord → ℕ
  | four, c, d => (d.x.toInt - c.x.toInt).natAbs + (d.y.toInt - c.y.toInt).natAbs
  | eight, c, d => max (d.x.toInt - c.x.toInt).natAbs (d.y.toInt - c.y.toInt).natAbs

theorem distance_self (a : Adjacency) (c : Coord) : a.distance c c = 0 := by
  cases a <;> simp [distance]

theorem distance_comm (a : Adjacency) (c d : Coord) : a.distance c d = a.distance d c := by
  cases a with
  | four =>
    rw [distance, distance]
    omega
  | eight =>
    rw [distance, distance]
    omega

/-- The displacements of length 1 are those of the directions. -/
theorem distance_eq_one_iff : a.distance c d = 1 ↔ ∃ s ∈ a.directions,
    d.x.toInt = c.x.toInt + s.offset.1.toInt ∧ d.y.toInt = c.y.toInt + s.offset.2.toInt := by
  have one : (1 : Int32).toInt = 1 := by decide
  have minus_one : (-1 : Int32).toInt = -1 := by decide
  have zero : (0 : Int32).toInt = 0 := by decide
  cases a with
  | four =>
    simp only [distance, directions, Direction.cardinal, List.mem_cons, List.not_mem_nil, or_false,
      exists_eq_or_imp, exists_eq_left, Direction.offset, one, minus_one, zero]
    omega
  | eight =>
    simp only [distance, directions, Direction.all, Direction.cardinal, List.cons_append,
      List.nil_append, List.mem_cons, List.not_mem_nil, or_false, exists_eq_or_imp, exists_eq_left,
      Direction.offset, one, minus_one, zero]
    omega

/-- Next to a position are, within a frame, the positions at distance 1. -/
theorem adjacent_iff_distance (h : f.Valid) (hd : d ∈ f) :
    a.Adjacent c d ↔ a.distance c d = 1 := by
  simp only [Adjacent, distance_eq_one_iff, h.step_eq_iff hd]

/-- Not so at the limits, which lie in no frame: there a position is next to itself. -/
example : four.Adjacent ⟨2147483647, 0⟩ ⟨2147483647, 0⟩ := by decide

end Adjacency

namespace Grid
variable {α : Type} {g : Grid α} {c d : Coord} {b : α}

def openings (g : Grid α) (adj : Adjacency) (c : Coord) : List Direction :=
  adj.directions.filter fun s => (g.neighbour c s).isSome

theorem nodup_map_openings (g : Grid α) (adj : Adjacency) (c : Coord) :
    ((g.openings adj c).map (·.step c)).Nodup := by
  -- Steps that stop at a limit may share their end, but it holds no occupant.
  refine (adj.nodup_directions.filter _).map_on fun s hs r _ same => ?_
  obtain ⟨a, ha⟩ := Option.isSome_iff_exists.1 (List.mem_filter.1 hs).2
  exact Direction.step_inj g.valid (mem_of_get? ha) same.symm

theorem filterMap_around (g : Grid α) (c : Coord) :
    (g.around c).filterMap id = g.neighboursWith c Adjacency.eight.candidates := by
  rw [around_eq_map, neighboursWith, Adjacency.candidates, List.filterMap_map, List.filterMap_map]
  rfl

variable [Cell α]

/-- The occupants met at some positions report the occupied ones among these. -/
theorem Positional.map_coord_filterMap (hg : g.Positional) (cs : List Coord) :
    (cs.filterMap g.get?).map Cell.coord = cs.filter fun d => (g.get? d).isSome := by
  induction cs with
  | nil => rfl
  | cons d rest ih =>
    cases hd : g.get? d with
    | none => rw [List.filterMap_cons_none hd, List.filter_cons_of_neg (by simp [hd]), ih]
    | some a =>
      rw [List.filterMap_cons_some hd, List.filter_cons_of_pos (by simp [hd]), List.map_cons, ih,
        hg d a hd]

theorem Positional.map_coord_neighboursWith (hg : g.Positional) (adj : Adjacency) (c : Coord) :
    (g.neighboursWith c adj.candidates).map Cell.coord = (g.openings adj c).map (·.step c) := by
  rw [neighboursWith, hg.map_coord_filterMap, Adjacency.candidates, List.filter_map]
  rfl

theorem Positional.mem_neighboursWith_iff (hg : g.Positional) (adj : Adjacency) :
    b ∈ g.neighboursWith c adj.candidates ↔
      b ∈ g.occupied ∧ adj.Adjacent c (Cell.coord b) := by
  rw [mem_neighboursWith, mem_occupied]
  constructor
  · intro ⟨d, hd, hb⟩
    rw [hg d b hb, ← Adjacency.mem_candidates]
    exact ⟨⟨d, hb⟩, hd⟩
  · intro ⟨⟨d, hb⟩, adjacent⟩
    rw [hg d b hb, ← Adjacency.mem_candidates] at adjacent
    exact ⟨d, adjacent, hb⟩

theorem Positional.mem_neighboursWith_iff_distance (hg : g.Positional) (adj : Adjacency)
    (hb : g.get? d = some b) :
    b ∈ g.neighboursWith c adj.candidates ↔ adj.distance c d = 1 := by
  rw [hg.mem_neighboursWith_iff, hg d b hb,
    Adjacency.adjacent_iff_distance g.valid (mem_of_get? hb), mem_occupied]
  exact and_iff_right ⟨d, hb⟩

/-- What a query for neighbours lists: the occupants next to the position, each once, in the order
of the directions. They are the occupants at distance 1, so never the one of the position itself,
and of two occupants each is listed around the other or neither is. -/
theorem neighboursWith_exact (g : Grid α) (hg : g.Positional) (adj : Adjacency) (c : Coord) :
    (∃ ds, List.Sublist ds adj.directions ∧
      (g.neighboursWith c adj.candidates).map Cell.coord = ds.map (·.step c)) ∧
    (g.neighboursWith c adj.candidates).Nodup ∧
    (∀ b, b ∈ g.neighboursWith c adj.candidates ↔
      b ∈ g.occupied ∧ adj.Adjacent c (Cell.coord b)) ∧
    (∀ d b, g.get? d = some b →
      (b ∈ g.neighboursWith c adj.candidates ↔ adj.distance c d = 1)) ∧
    (∀ a, g.get? c = some a → a ∉ g.neighboursWith c adj.candidates) ∧
    (∀ d a b, g.get? c = some a → g.get? d = some b →
      (b ∈ g.neighboursWith c adj.candidates ↔ a ∈ g.neighboursWith d adj.candidates)) ∧
    (g.around c).filterMap id = g.neighboursWith c Adjacency.eight.candidates := by
  have listed := hg.map_coord_neighboursWith adj c
  refine ⟨⟨_, List.filter_sublist, listed⟩, ?_, fun b => hg.mem_neighboursWith_iff adj,
    fun d b => hg.mem_neighboursWith_iff_distance adj, fun a ha => ?_, fun d a b ha hb => ?_,
    g.filterMap_around c⟩
  · have distinct := g.nodup_map_openings adj c
    rw [← listed] at distinct
    exact distinct.of_map
  · rw [hg.mem_neighboursWith_iff_distance adj ha, Adjacency.distance_self]
    exact Nat.zero_ne_one
  · rw [hg.mem_neighboursWith_iff_distance adj hb, hg.mem_neighboursWith_iff_distance adj ha,
      Adjacency.distance_comm]

def pond : Grid Tile :=
  (Grid.blank { width := 3, height := 2 } ⟨by decide, by decide, by decide, by decide⟩).recast
    fun c => if c = ⟨1, 0⟩ then none else some ⟨c⟩

theorem positional_pond : pond.Positional := by
  refine Grid.positional_recast _ fun c a ha => ?_
  split at ha
  · contradiction
  · cases ha
    rfl

theorem pond_neighbours : pond.Positional ∧
    pond.neighboursWith ⟨1, 1⟩ Adjacency.eight.candidates =
      [⟨⟨0, 1⟩⟩, ⟨⟨2, 1⟩⟩, ⟨⟨0, 0⟩⟩, ⟨⟨2, 0⟩⟩] ∧
    (pond.around ⟨1, 1⟩).filterMap id =
      [⟨⟨0, 1⟩⟩, ⟨⟨2, 1⟩⟩, ⟨⟨0, 0⟩⟩, ⟨⟨2, 0⟩⟩] ∧
    (∀ d b, pond.get? d = some b →
      (b ∈ pond.neighboursWith ⟨1, 1⟩ Adjacency.eight.candidates ↔
        Adjacency.eight.distance ⟨1, 1⟩ d = 1)) ∧
    (⟨⟨1, 1⟩⟩ : Tile) ∉ pond.neighboursWith ⟨1, 1⟩ Adjacency.eight.candidates := by
  have listed : pond.neighboursWith ⟨1, 1⟩ Adjacency.eight.candidates =
      [⟨⟨0, 1⟩⟩, ⟨⟨2, 1⟩⟩, ⟨⟨0, 0⟩⟩, ⟨⟨2, 0⟩⟩] := by decide +kernel
  obtain ⟨-, -, -, near, own, -, accessors⟩ :=
    neighboursWith_exact pond positional_pond .eight ⟨1, 1⟩
  exact ⟨positional_pond, listed, accessors.trans listed, near,
    own ⟨⟨1, 1⟩⟩ (by decide +kernel)⟩

end Grid
end GridWalk
