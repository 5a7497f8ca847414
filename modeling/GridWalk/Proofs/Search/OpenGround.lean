import GridWalk.Proofs.Grid.Faults
import GridWalk.Proofs.Grid.Generator
import GridWalk.Proofs.Search.Separation
import GridWalk.Terrain
/-! Searches on open ground, where every slot of the grid may be stepped on. No step comes nearer to
the target by more than one, and from every position some step within the frame comes nearer by one,
so the paths found are as long as the distance between their ends. -/
namespace GridWalk

def nearer (m n : Int32) : Int32 :=
  saturate <|
    if m.toInt < n.toInt then m.toInt + 1 else if n.toInt < m.toInt then m.toInt - 1 else m.toInt

theorem toInt_nearer (m n : Int32) : (nearer m n).toInt =
    if m.toInt < n.toInt then m.toInt + 1
    else if n.toInt < m.toInt then m.toInt - 1
    else m.toInt := by
  have m_low := m.le_toInt
  have m_high := m.toInt_lt
  have n_low := n.le_toInt
  have n_high := n.toInt_lt
  rw [nearer, toInt_saturate]
  split_ifs <;> omega

/-- One step leads as far as there is to go, and leaves one less. -/
theorem gap_nearer (m n : Int32) :
    ((nearer m n).toInt - m.toInt).natAbs = min 1 (n.toInt - m.toInt).natAbs ∧
      (n.toInt - (nearer m n).toInt).natAbs = (n.toInt - m.toInt).natAbs - 1 := by
  rw [toInt_nearer]
  split_ifs <;> omega

namespace Adjacency
variable {a : Adjacency} {f : Frame} {c d e : Coord} {n : ℕ}

/-- A position next to `c` on the way to `d`. By cardinal steps the way goes along the row first. -/
def toward : Adjacency → Coord → Coord → Coord
  | four, c, d => if c.x = d.x then ⟨c.x, nearer c.y d.y⟩ else ⟨nearer c.x d.x, c.y⟩
  | eight, c, d => ⟨nearer c.x d.x, nearer c.y d.y⟩

theorem distance_toward (h : a.distance c d = n + 1) :
    a.distance c (a.toward c d) = 1 ∧ a.distance (a.toward c d) d = n := by
  obtain ⟨x_gone, x_left⟩ := gap_nearer c.x d.x
  obtain ⟨y_gone, y_left⟩ := gap_nearer c.y d.y
  cases a with
  | four =>
    simp only [distance, toward] at h ⊢
    by_cases same_column : c.x = d.x
    · rw [if_pos same_column]
      rw [same_column, Int.sub_self, Int.natAbs_zero, Nat.zero_add] at h ⊢
      simp [y_gone, y_left, h]
    · have columns_ne : (d.x.toInt - c.x.toInt).natAbs ≠ 0 := fun gap =>
        same_column (Int32.toInt_inj.1 (Int.sub_eq_zero.1 (Int.natAbs_eq_zero.1 gap)).symm)
      rw [if_neg same_column]
      simp only [x_gone, x_left, Int.sub_self, Int.natAbs_zero]
      generalize (d.x.toInt - c.x.toInt).natAbs = columns,
        (d.y.toInt - c.y.toInt).natAbs = rows at h columns_ne ⊢
      omega
  | eight =>
    simp only [distance, toward, x_gone, x_left, y_gone, y_left] at h ⊢
    generalize (d.x.toInt - c.x.toInt).natAbs = columns,
      (d.y.toInt - c.y.toInt).natAbs = rows at h ⊢
    omega

theorem toward_mem (a : Adjacency) (hc : c ∈ f) (hd : d ∈ f) : a.toward c d ∈ f := by
  rw [Frame.mem_iff] at hc hd ⊢
  have x_near := toInt_nearer c.x d.x
  have y_near := toInt_nearer c.y d.y
  have column_within : 0 ≤ (nearer c.x d.x).toInt ∧ (nearer c.x d.x).toInt < f.width.toNat := by
    rw [x_near]
    split_ifs <;> omega
  have row_within : 0 ≤ (nearer c.y d.y).toInt ∧ (nearer c.y d.y).toInt < f.height.toNat := by
    rw [y_near]
    split_ifs <;> omega
  cases a with
  | four =>
    rw [toward]
    split
    · exact ⟨hc.1, row_within⟩
    · exact ⟨column_within, hc.2⟩
  | eight => exact ⟨column_within, row_within⟩

theorem distance_triangle (a : Adjacency) (c d e : Coord) :
    a.distance c e ≤ a.distance c d + a.distance d e := by
  have one_axis (k m n : Int) : (n - k).natAbs ≤ (m - k).natAbs + (n - m).natAbs := by
    rw [← sub_add_sub_cancel n m k, add_comm (m - k).natAbs]
    exact Int.natAbs_add_le _ _
  have columns := one_axis c.x.toInt d.x.toInt e.x.toInt
  have rows := one_axis c.y.toInt d.y.toInt e.y.toInt
  cases a with
  | four => exact (Nat.add_le_add columns rows).trans_eq (Nat.add_add_add_comm ..)
  | eight =>
    exact max_le (columns.trans (Nat.add_le_add (le_max_left ..) (le_max_left ..)))
      (rows.trans (Nat.add_le_add (le_max_right ..) (le_max_right ..)))

theorem eq_of_distance_eq_zero (h : a.distance c d = 0) : c = d := by
  cases a with
  | four =>
    rw [distance] at h
    exact Coord.ext_toInt (by omega) (by omega)
  | eight =>
    rw [distance] at h
    exact Coord.ext_toInt (by omega) (by omega)

end Adjacency

namespace BreadthFirst
variable {α : Type} [Cell α] {b : BreadthFirst α} {t : Trip} {c d : Coord} {w : List ℕ}

section
variable (hg : b.grid.Positional)
include hg

/-- A course is at least as long as the distance that it covers. -/
theorem distance_le_length (h : b.follow t c w = some d) :
    t.adjacency.distance c d ≤ w.length := by
  induction w generalizing c with
  | nil =>
    cases h
    rw [Adjacency.distance_self]
    exact Nat.zero_le _
  | cons i w ih =>
    rw [follow_cons, Option.bind_eq_some_iff] at h
    obtain ⟨x, hop, rest⟩ := h
    have one_step : t.adjacency.distance c x = 1 :=
      (Adjacency.adjacent_iff_distance b.grid.valid (mem_frame_of_hop hop)).1
        (adjacent_of_hop hg hop)
    calc t.adjacency.distance c d
        ≤ t.adjacency.distance c x + t.adjacency.distance x d := Adjacency.distance_triangle ..
      _ ≤ 1 + w.length := Nat.add_le_add one_step.le (ih rest)
      _ = (i :: w).length := Nat.add_comm _ _

variable (clear : ∀ c ∈ b.grid.frame, b.Clear t c)
include clear

/-- Where all is clear, some course covers a distance without a detour. -/
theorem exists_follow_of_distance (hc : c ∈ b.grid.frame) (hd : d ∈ b.grid.frame) :
    ∃ w, w.length = t.adjacency.distance c d ∧ b.follow t c w = some d := by
  generalize hn : t.adjacency.distance c d = n
  induction n generalizing c with
  | zero =>
    rw [Adjacency.eq_of_distance_eq_zero hn]
    exact ⟨[], rfl, rfl⟩
  | succ n ih =>
    obtain ⟨one_step, left_over⟩ := Adjacency.distance_toward hn
    have within := t.adjacency.toward_mem hc hd
    have next_to := (Adjacency.adjacent_iff_distance b.grid.valid within).2 one_step
    obtain ⟨w, length_eq, leads⟩ := ih within left_over
    have hop := hop_of_adjacent hg next_to (clear _ within)
    exact ⟨_ :: w, congrArg Nat.succ length_eq,
      by rw [follow_cons, hop, Option.bind_some, leads]⟩

theorem separation_eq_distance (hc : c ∈ b.grid.frame) (hd : d ∈ b.grid.frame) :
    b.separation t c d = t.adjacency.distance c d := by
  obtain ⟨w, length_eq, leads⟩ := exists_follow_of_distance hg clear hc hd
  have upper := separation_le_length hg (clear c hc).isSome leads
  rw [length_eq] at upper
  obtain ⟨n, found⟩ :=
    ENat.ne_top_iff_exists.1 (ne_top_of_le_ne_top (ENat.natCast_ne_top _) upper)
  obtain ⟨v, same, leads'⟩ := exists_follow_of_separation hg found.symm
  refine le_antisymm upper ?_
  rw [← found, ← same, Nat.cast_le]
  exact distance_le_length hg leads'

/-- Between different positions a path is found, as long as the distance. -/
theorem findPath_of_clear (hs : t.source ∈ b.grid.frame) (ht : t.target ∈ b.grid.frame)
    (apart : t.source ≠ t.target) :
    b.findPath t ≠ [] ∧ (b.findPath t).length = t.adjacency.distance t.source t.target := by
  have reached := separation_eq_distance hg clear hs ht
  have found : b.findPath t ≠ [] := by
    intro lost
    rw [separation_of_findPath_eq_nil apart lost] at reached
    exact ENat.natCast_ne_top _ reached.symm
  rw [separation_of_findPath apart found, Nat.cast_inj] at reached
  exact ⟨found, reached⟩

end
end BreadthFirst

namespace Terrain
variable {s : Storage} {width height : UInt32} {g : Grid Floor} {c : Coord}

theorem openFloorIn_of_refused {e : Fault} (h : Frame.Refused { width, height } s e) :
    openFloorIn s width height = .error (.grid width height e) := by
  rw [openFloorIn, Grid.ofFnIn, Id.run, Grid.build_eq_error_iff.2 h]
  rfl

theorem openFloorIn_eq_ok_iff : openFloorIn s width height = .ok g ↔
    Grid.ofFnIn s { width, height } (fun c => some ⟨c, true⟩) = .ok g := by
  rw [openFloorIn]
  cases Grid.ofFnIn s { width, height } (fun c => some (⟨c, true⟩ : Floor)) with
  | ok floor => simp [Except.mapError]
  | error e => simp [Except.mapError]

theorem frame_openFloorIn (h : openFloorIn s width height = .ok g) : g.frame = { width, height } :=
  Grid.frame_of_ofFnIn (openFloorIn_eq_ok_iff.1 h)

theorem get?_openFloorIn (h : openFloorIn s width height = .ok g) (hc : c ∈ g.frame) :
    g.get? c = some ⟨c, true⟩ := by
  rw [frame_openFloorIn h] at hc
  exact Grid.get?_of_ofFnIn (openFloorIn_eq_ok_iff.1 h) hc

theorem exists_openFloorIn (h : ∀ e, ¬ Frame.Refused { width, height } s e) :
    ∃ floor, openFloorIn s width height = .ok floor := by
  cases built : Grid.ofFnIn s { width, height } (fun c => some (⟨c, true⟩ : Floor)) with
  | ok floor => exact ⟨floor, openFloorIn_eq_ok_iff.2 built⟩
  | error e => exact absurd (Grid.build_eq_error_iff.1 built) (h e)

/-- A grid that is open floor everywhere is positional. -/
theorem positional_of_floored (floored : ∀ c ∈ g.frame, g.get? c = some ⟨c, true⟩) :
    g.Positional := by
  intro c a held
  rw [floored c (Grid.mem_of_get? held)] at held
  cases held
  rfl

theorem positional_openFloorIn (h : openFloorIn s width height = .ok g) : g.Positional :=
  positional_of_floored fun _ => get?_openFloorIn h

/-- On open floor, in whatever storage it is laid, a path is found between any two positions, as
long as the distance between them. -/
theorem findPath_openFloor (laid : openFloorIn s width height = .ok g) (t : Trip)
    (free : ∀ c, c ∉ t.busy)
    (hs : t.source ∈ ({ width, height } : Frame)) (ht : t.target ∈ ({ width, height } : Frame))
    (apart : t.source ≠ t.target) :
    BreadthFirst.findPath { grid := g } t ≠ [] ∧
    (BreadthFirst.findPath { grid := g } t).length =
      match t.adjacency with
      | .four =>
        (t.target.x.toInt - t.source.x.toInt).natAbs +
          (t.target.y.toInt - t.source.y.toInt).natAbs
      | .eight =>
        max (t.target.x.toInt - t.source.x.toInt).natAbs
          (t.target.y.toInt - t.source.y.toInt).natAbs := by
  let b : BreadthFirst Floor := { grid := g }
  rw [← frame_openFloorIn laid] at hs ht
  have clear (c : Coord) (hc : c ∈ b.grid.frame) : b.Clear t c :=
    ⟨free c, _, get?_openFloorIn laid hc, rfl⟩
  obtain ⟨found, length_eq⟩ :=
    BreadthFirst.findPath_of_clear (positional_openFloorIn laid) clear hs ht apart
  refine ⟨found, length_eq.trans ?_⟩
  cases t.adjacency with
  | four => rfl
  | eight => rfl

/-- Across the floor to the left and down, by cardinal steps and by all eight. -/
theorem floor_crossed : ∃ g, openFloor 4 3 = .ok g ∧
    (BreadthFirst.findPath { grid := g }
      { source := ⟨3, 0⟩, target := ⟨0, 2⟩ }).length = 5 ∧
    (BreadthFirst.findPath { grid := g }
      { source := ⟨3, 0⟩, target := ⟨0, 2⟩, adjacency := .eight }).length = 3 := by
  obtain ⟨g, laid⟩ : ∃ g, openFloor 4 3 = .ok g := ⟨_, rfl⟩
  have free (c : Coord) : c ∉ (∅ : Obstacles) := List.not_mem_nil
  obtain ⟨-, cardinal⟩ :=
    findPath_openFloor laid { source := ⟨3, 0⟩, target := ⟨0, 2⟩ } free
      (by decide) (by decide) (by decide)
  obtain ⟨-, diagonal⟩ :=
    findPath_openFloor laid { source := ⟨3, 0⟩, target := ⟨0, 2⟩, adjacency := .eight } free
      (by decide) (by decide) (by decide)
  exact ⟨g, laid, cardinal, diagonal⟩

end Terrain
end GridWalk
