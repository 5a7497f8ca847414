import Mathlib.Data.List.Forall2
import GridWalk.Proofs.Search.Trail
import GridWalk.Proofs.Trip.Acceptance
/-! What a path found stands on where cells may report to be anywhere. The search goes by what cells
report and returns what the slots hold, so a cell returned need not be passable, nor at its place;
its slot is one that a passable cell beside the slot before points to. -/
namespace GridWalk

theorem Grid.forall₂_filterMap {α : Type} {g : Grid α} {cs : List Coord}
    (occupied : ∀ c ∈ cs, (g.get? c).isSome) :
    List.Forall₂ (fun c a => g.get? c = some a) cs (cs.filterMap g.get?) := by
  induction cs with
  | nil => exact List.Forall₂.nil
  | cons c cs ih =>
    rw [List.forall_mem_cons] at occupied
    obtain ⟨a, ha⟩ := Option.isSome_iff_exists.1 occupied.1
    rw [List.filterMap_cons_some ha]
    exact List.Forall₂.cons ha (ih occupied.2)

namespace BreadthFirst
variable {α : Type} [Cell α] {b : BreadthFirst α} {t : Trip} {c d : Coord} {w : List ℕ}
  {i : ℕ} {path : List α} {slots : List ℕ}

def PointsTo (b : BreadthFirst α) (t : Trip) (c d : Coord) : Prop :=
  ∃ e ∈ t.adjacency.candidates c, ∃ a, b.grid.get? e = some a ∧ b.passable a = true ∧
    Cell.coord a = d

theorem pointsTo_of_hop (h : b.hop t c i = some d) : b.PointsTo t c d := by
  obtain ⟨s, a, hs, ha, opens, hd⟩ := hop_eq_some_iff.1 h
  exact ⟨s.step c, Adjacency.mem_candidates.2 ⟨s, List.mem_of_getElem? hs, rfl⟩, a, ha,
    opens.2.2, hd⟩

theorem allows_of_mem_stops (h : d ∈ b.stops t c w) : t.Allows d := by
  obtain ⟨e, i, hop⟩ := exists_hop_of_mem_stops h
  obtain ⟨s, a, -, -, opens, rfl⟩ := hop_eq_some_iff.1 hop
  exact opens.2.1

structure Footing (b : BreadthFirst α) (t : Trip) (path : List α) (slots : List ℕ) : Prop where
  holds : List.Forall₂ (fun i a => b.grid.cells[i]? = some (some a)) slots path
  distinct : slots.Nodup
  arrives : ∃ i, slots.getLast? = some i ∧ b.grid.frame.index? t.target = some i
  avoids_source : ∀ i ∈ slots, b.grid.frame.index? t.source ≠ some i
  avoids_busy : ∀ i ∈ slots, b.grid.frame.coordAt i ∉ t.busy
  pointed : (t.source :: slots.map b.grid.frame.coordAt).IsChain (b.PointsTo t)

/-- Where a path has its footing, the target's slot is occupied and not busy. -/
theorem Footing.target_free (h : b.Footing t path slots) :
    b.grid.Holds t.target ∧ t.target ∉ t.busy := by
  obtain ⟨i, last, ht⟩ := h.arrives
  have mem : i ∈ slots := List.mem_of_getLast? last
  have inside : t.target ∈ b.grid.frame := by
    by_contra outside
    rw [Frame.index?, if_neg outside] at ht
    cases ht
  rw [Frame.index?_of_mem inside, Option.some.injEq] at ht
  subst ht
  obtain ⟨n, hn⟩ := List.get_of_mem mem
  have held := h.holds.get n.2 (h.holds.length_eq ▸ n.2)
  rw [Fin.eta, hn, Grid.getElem?_cells_index inside, Option.some.injEq] at held
  have free := h.avoids_busy _ mem
  rw [Frame.coordAt_index inside] at free
  exact ⟨⟨inside, _, held⟩, free⟩

/-- The occupants on the best course stand on the slots of its stops. -/
theorem Best.footing (hb : b.Begins t) (hw : b.Best t t.source w t.target)
    (occupied : ∀ d ∈ b.stops t t.source w, (b.grid.get? d).isSome) :
    b.Footing t ((b.stops t t.source w).filterMap b.grid.get?)
      ((b.stops t t.source w).map b.grid.frame.index) := by
  have inside : ∀ d ∈ b.stops t t.source w, d ∈ b.grid.frame :=
    fun d => mem_frame_of_mem_stops
  have distinct := List.nodup_cons.1 hw.nodup_stops
  obtain ⟨chain, last⟩ := isChain_stops (fun c i d => pointsTo_of_hop) hw.leads
  refine ⟨?_, ?_, ?_, ?_, ?_, ?_⟩
  · rw [List.forall₂_map_left_iff]
    refine (Grid.forall₂_filterMap occupied).imp fun c a hc => ?_
    rw [Grid.getElem?_cells_index (Grid.mem_of_get? hc), hc]
  · exact distinct.2.map_on fun c hc d hd => Frame.index_inj (inside c hc) (inside d hd)
  -- The course has stops, or it would leave the source for itself.
  · have moved : b.stops t t.source w ≠ [] := by
      intro none
      rw [none, List.getLast?_singleton, Option.some.injEq] at last
      exact hb.2.1 last
    rw [List.getLast?_cons_of_ne_nil moved] at last
    exact ⟨_, by rw [List.getLast?_map, last, Option.map_some], Frame.index?_of_mem hb.1⟩
  · intro i hi source
    obtain ⟨d, hd, rfl⟩ := List.mem_map.1 hi
    rw [Frame.index?_of_mem hb.source_mem, Option.some.injEq] at source
    exact distinct.1 (Frame.index_inj hb.source_mem (inside d hd) source ▸ hd)
  · intro i hi
    obtain ⟨d, hd, rfl⟩ := List.mem_map.1 hi
    rw [Frame.coordAt_index (inside d hd)]
    exact allows_of_mem_stops hd
  · rwa [Frame.map_coordAt_index inside]

theorem exists_footing (found : b.findPath t ≠ []) :
    b.Begins t ∧ ∃ slots, b.Footing t (b.findPath t) slots := by
  obtain ⟨hb, w, hw⟩ := exists_best_of_findPath found
  rw [findPath_of_best hb hw] at found ⊢
  by_cases occupied : ∀ d ∈ b.stops t t.source w, (b.grid.get? d).isSome
  · rw [if_pos occupied]
    exact ⟨hb, _, hw.footing hb occupied⟩
  · rw [if_neg occupied] at found
    contradiction

/-- Whatever cells report, a path found has its footing: distinct slots that hold its cells, none of
them busy or the source's, the last one the target's, each pointed to from beside the one before. So
nothing is found where an end of the trip is outside, empty or both ends are one, or the target is
busy. -/
theorem findPath_footing (b : BreadthFirst α) (t : Trip) :
    (b.findPath t ≠ [] → b.grid.Holds t.source ∧ t.source ≠ t.target ∧
      ∃ slots, b.Footing t (b.findPath t) slots) ∧
    (¬ b.grid.Holds t.target ∨ t.target ∈ t.busy ∨ ¬ b.grid.Holds t.source ∨
      t.source = t.target →
      b.findPath t = []) := by
  have stands (found : b.findPath t ≠ []) : b.grid.Holds t.source ∧ t.source ≠ t.target ∧
      ∃ slots, b.Footing t (b.findPath t) slots := by
    obtain ⟨⟨-, apart, occupied⟩, footing⟩ := exists_footing found
    exact ⟨Grid.holds_iff_isSome.2 occupied, apart, footing⟩
  refine ⟨stands, fun hindrance => ?_⟩
  by_contra found
  obtain ⟨source_held, apart, slots, footing⟩ := stands found
  obtain ⟨target_held, free⟩ := footing.target_free
  rcases hindrance with empty | busy | empty | same
  · exact empty target_held
  · exact free busy
  · exact empty source_held
  · exact apart same

def signposts : Grid Floor :=
  (Grid.blank { width := 5, height := 1 } ⟨by decide, by decide, by decide, by decide⟩).recast
    fun c => some <|
      if c = ⟨1, 0⟩ then ⟨⟨3, 0⟩, true⟩
      else if c = ⟨2, 0⟩ then ⟨⟨4, 0⟩, true⟩
      else ⟨c, c = ⟨0, 0⟩⟩

/-- The search jumps where the signposts point, and returns the walls it finds there; no path leads
past the last of them. -/
theorem signposts_footing :
    (aroundWalls signposts).findPath { source := ⟨0, 0⟩, target := ⟨4, 0⟩ } =
      [.wall ⟨3, 0⟩, .wall ⟨4, 0⟩] ∧
    signposts.Holds ⟨0, 0⟩ ∧
    (∃ slots, (aroundWalls signposts).Footing { source := ⟨0, 0⟩, target := ⟨4, 0⟩ }
      [.wall ⟨3, 0⟩, .wall ⟨4, 0⟩] slots) ∧
    (aroundWalls signposts).findPath { source := ⟨0, 0⟩, target := ⟨5, 0⟩ } = [] := by
  have returned : (aroundWalls signposts).findPath { source := ⟨0, 0⟩, target := ⟨4, 0⟩ } =
      [.wall ⟨3, 0⟩, .wall ⟨4, 0⟩] := by decide +kernel
  have stands :=
    (findPath_footing (aroundWalls signposts) { source := ⟨0, 0⟩, target := ⟨4, 0⟩ }).1
  rw [returned] at stands
  obtain ⟨held, -, footing⟩ := stands (List.cons_ne_nil _ _)
  have outside : ¬ signposts.Holds ⟨5, 0⟩ := by
    rw [Grid.holds_iff_isSome]
    decide +kernel
  have past :=
    (findPath_footing (aroundWalls signposts) { source := ⟨0, 0⟩, target := ⟨5, 0⟩ }).2
  exact ⟨returned, held, footing, past (Or.inl outside)⟩

end BreadthFirst
end GridWalk
