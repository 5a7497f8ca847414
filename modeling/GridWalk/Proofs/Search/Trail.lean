import GridWalk.Proofs.Grid.Frame
import GridWalk.Proofs.Search.Sweep
/-! What a search returns: the occupants of the slots on the best course to the target. The size of
the grid is room enough for the search to end by itself and for the trail to reach the source. -/
namespace GridWalk.BreadthFirst
variable {α : Type} [Cell α] {b : BreadthFirst α} {t : Trip} {c : Coord} {v w : List ℕ}
  {i n : ℕ} {done order : List Coord} {marks : Grid Mark} {s : Sweep}

theorem Charted.length_le (h : b.Charted t order marks) : order.length ≤ b.grid.size :=
  Frame.length_le_area h.nodup fun _ hc => h.mem_frame hc

/-- A search that may look around as many positions as the grid has slots ends at the target, or
where no course leads to the target. -/
theorem Swept.run (h : b.Swept t done s) (hn : done.length + n = b.grid.size) :
    (∃ marks, b.run t n s = some marks ∧ b.Arrived t marks) ∨
    (b.run t n s = none ∧ ∀ w, b.follow t t.source w ≠ some t.target) := by
  induction n generalizing done s with
  | zero =>
    have room := h.charted.length_le
    rw [List.length_append] at room
    have hf : s.frontier.toList = [] := List.length_eq_zero_iff.1 (by omega)
    exact Or.inr ⟨rfl, h.unreached hf⟩
  | succ n ih =>
    rw [BreadthFirst.run]
    cases h.step with
    | inl ended =>
      obtain ⟨hs, hf⟩ := ended
      rw [hs]
      exact Or.inr ⟨rfl, h.unreached hf⟩
    | inr going =>
      cases going with
      | inl met =>
        obtain ⟨marks, hs, arrived⟩ := met
        rw [hs]
        exact Or.inl ⟨marks, rfl, arrived⟩
      | inr going =>
        obtain ⟨p, s', hs, h'⟩ := going
        rw [hs]
        have hn' : (done ++ [p]).length + n = b.grid.size := by
          rw [List.length_append, List.length_singleton]
          omega
        exact ih h' hn'

/-- Where the last step of the best course was made from, the position was met from. -/
theorem Charted.came_of_best (h : b.Charted t order marks) (hw : b.Best t t.source (w ++ [i]) c)
    (hc : c ∈ order) :
    ∃ p, marks.get? c = some (.cameFrom p) ∧ p ∈ order ∧ b.Best t t.source w p := by
  cases hm : marks.get? c with
  | none => exact absurd hm ((h.mem_order c).1 hc)
  | some mark =>
    cases mark with
    | start =>
      rw [(h.start_iff c).1 hm] at hw
      exact absurd (hw.unique best_nil) (by simp)
    | cameFrom p =>
      obtain ⟨hp, w', i', hw', hi'⟩ := h.came c p hm
      obtain ⟨rfl, -⟩ := List.append_inj' (hi'.unique hw) rfl
      exact ⟨p, rfl, hp, hw'⟩

/-- The trail from a position met on course `w`: the occupants of the stops on it, or nothing if one
of these slots is empty. -/
theorem Charted.trail (h : b.Charted t order marks) (hw : b.Best t t.source w c) (hc : c ∈ order)
    (hn : w.length < n) (path : List α) :
    b.trail marks n c path =
      if ∀ d ∈ b.stops t t.source w, (b.grid.get? d).isSome then
        (b.stops t t.source w).filterMap b.grid.get? ++ path
      else [] := by
  induction w using List.reverseRecOn generalizing c n path with
  | nil =>
    obtain ⟨m, rfl⟩ : ∃ m, n = m + 1 := ⟨n - 1, by omega⟩
    have hm : marks.get? c = some .start := by
      rw [h.start_iff]
      exact (Option.some.inj hw.leads).symm
    simp [BreadthFirst.trail, hm, stops]
  | append_singleton w i ih =>
    obtain ⟨m, rfl⟩ : ∃ m, n = m + 1 := ⟨n - 1, by omega⟩
    have hlen : w.length < m := by
      rw [List.length_append, List.length_singleton] at hn
      omega
    obtain ⟨p, came, hp, hw'⟩ := h.came_of_best hw hc
    obtain ⟨p', leads, hop⟩ := follow_snoc_eq_some_iff.1 hw.leads
    rw [BreadthFirst.trail, came, stops_snoc leads hop]
    cases ha : b.grid.get? c with
    | none => simp [ha]
    | some a =>
      simp only [ih hw' hp hlen, List.forall_mem_append, List.forall_mem_singleton, ha,
        Option.isSome_some, and_true, List.filterMap_append, List.filterMap_cons_some ha,
        List.filterMap_nil, List.append_assoc, List.singleton_append]

omit [Cell α] in
theorem Begins.source_mem (hb : b.Begins t) : t.source ∈ b.grid.frame := by
  obtain ⟨a, ha⟩ := Option.isSome_iff_exists.1 hb.2.2
  exact Grid.mem_of_get? ha

theorem run_start (hb : b.Begins t) :
    (∃ marks, b.run t b.grid.size (.start b.grid.frame b.grid.valid t.source) = some marks ∧
      b.Arrived t marks) ∨
    (b.run t b.grid.size (.start b.grid.frame b.grid.valid t.source) = none ∧
      ∀ w, b.follow t t.source w ≠ some t.target) := by
  have started : b.Swept t [] (.start b.grid.frame b.grid.valid t.source) :=
    Swept.start hb.source_mem hb.2.1
  exact started.run (by simp)

/-- Where some course leads to the target, one is best. -/
theorem exists_best (hb : b.Begins t) (hv : b.follow t t.source v = some t.target) :
    ∃ w, b.Best t t.source w t.target := by
  cases run_start hb with
  | inl met =>
    obtain ⟨marks, -, order, hc, ht⟩ := met
    exact hc.best ht
  | inr ended => exact absurd hv (ended.2 v)

theorem length_lt_size (hb : b.Begins t) (hw : b.Best t t.source w t.target) :
    w.length < b.grid.size := by
  have stops_mem : ∀ d ∈ t.source :: b.stops t t.source w, d ∈ b.grid.frame := by
    rw [List.forall_mem_cons]
    exact ⟨hb.source_mem, fun d => mem_frame_of_mem_stops⟩
  have room := Frame.length_le_area hw.nodup_stops stops_mem
  rw [List.length_cons, length_stops hw.leads] at room
  exact room

/-- The search returns the occupants on the best course to the target, or nothing if a slot on it is
empty. -/
theorem findPath_of_best (hb : b.Begins t) (hw : b.Best t t.source w t.target) :
    b.findPath t =
      if ∀ d ∈ b.stops t t.source w, (b.grid.get? d).isSome then
        (b.stops t t.source w).filterMap b.grid.get?
      else [] := by
  rw [findPath, if_pos hb]
  cases run_start hb with
  | inl met =>
    obtain ⟨marks, hr, order, hc, ht⟩ := met
    rw [hr]
    simpa using hc.trail hw ht (length_lt_size hb hw) []
  | inr ended => exact absurd hw.leads (ended.2 w)

/-- A search that returns something had a best course to follow. -/
theorem exists_best_of_findPath (h : b.findPath t ≠ []) :
    b.Begins t ∧ ∃ w, b.Best t t.source w t.target := by
  by_cases hb : b.Begins t
  · cases run_start hb with
    | inl met =>
      obtain ⟨marks, -, order, hc, ht⟩ := met
      exact ⟨hb, hc.best ht⟩
    | inr ended => simp [findPath, hb, ended.1] at h
  · simp [findPath, hb] at h

end GridWalk.BreadthFirst
