import GridWalk.Proofs.Grid.Numbering
/-! What is seen of a grid as a whole. The slots, the occupants and the occupants with their
positions are listed along the rows, and each list is told by what the grid holds at single
positions. Main statement: all listings of a grid that was built and changed agree with access by
position, and with each other. -/
namespace GridWalk

namespace Coord
variable {c d : Coord}

theorem Precedes.ne (h : c.Precedes d) : c ≠ d := by
  intro same
  subst same
  simp [Precedes, Int32.lt_irrefl] at h

end Coord

/-- The rows are read from top to bottom, and each of them from left to right. -/
theorem Frame.pairwise_places {f : Frame} (h : f.Valid) : f.places.Pairwise Coord.Precedes := by
  rw [places_eq_map, List.pairwise_map]
  refine List.pairwise_lt_range.imp_of_mem fun {i j} hi hj before => ?_
  have hi' := List.mem_range.1 hi
  have hj' := List.mem_range.1 hj
  rwa [← index_lt_index_iff (coordAt_mem h hi') (coordAt_mem h hj'), index_coordAt h hi',
    index_coordAt h hj']

namespace Grid
variable {α σ : Type} {f : Frame} {g : Grid α} {c : Coord} {a : α} {i : ℕ}

@[simp] theorem length_cells (g : Grid α) : g.cells.length = g.frame.area := by
  simp [cells]

theorem getElem_cells (h : i < g.cells.length) : g.cells[i] = g.get? (g.frame.coordAt i) := by
  rw [get?_coordAt (by simpa using h)]
  rfl

theorem cells_eq_map (g : Grid α) : g.cells = g.frame.places.map g.get? := by
  refine List.ext_getElem (by simp) fun i h _ => ?_
  rw [getElem_cells h, List.getElem_map, Frame.getElem_places]

theorem zipIdx_cells (g : Grid α) :
    g.cells.zipIdx = (List.range g.frame.area).map fun i => (g.get? (g.frame.coordAt i), i) := by
  refine List.ext_getElem (by simp) fun i h _ => ?_
  rw [List.getElem_zipIdx, getElem_cells, List.getElem_map, List.getElem_range, Nat.zero_add]

theorem entries_eq_filterMap (g : Grid α) :
    g.entries = g.frame.places.filterMap fun c => (g.get? c).map (c, ·) := by
  rw [entries, zipIdx_cells, Frame.places_eq_map, List.filterMap_map, List.filterMap_map]
  rfl

theorem occupied_eq_filterMap (g : Grid α) : g.occupied = g.frame.places.filterMap g.get? := by
  rw [occupied, cells_eq_map, List.filterMap_map]
  rfl

theorem get_eq_ok_iff {o : Option α} : g.get c = .ok o ↔ c ∈ g.frame ∧ g.get? c = o := by
  rw [get]
  by_cases h : c ∈ g.frame
  · simp [h]
  · simp [h]

theorem mem_entries_iff : (c, a) ∈ g.entries ↔ g.get c = .ok (some a) := by
  rw [entries_eq_filterMap, List.mem_filterMap, get_eq_ok_iff]
  constructor
  · intro ⟨d, mem, found⟩
    obtain ⟨b, held, same⟩ := Option.map_eq_some_iff.1 found
    cases same
    exact ⟨(Frame.mem_places g.valid).1 mem, held⟩
  · intro ⟨mem, held⟩
    exact ⟨c, (Frame.mem_places g.valid).2 mem, by rw [held, Option.map_some]⟩

theorem map_fst_entries (g : Grid α) :
    g.entries.map Prod.fst = g.frame.places.filter fun c => (g.get? c).isSome := by
  rw [entries_eq_filterMap]
  induction g.frame.places with
  | nil => rfl
  | cons c rest ih =>
    cases hc : g.get? c with
    | none => simp [hc, ih]
    | some a => simp [hc, ih]

theorem map_snd_entries (g : Grid α) : g.entries.map Prod.snd = g.occupied := by
  rw [entries_eq_filterMap, occupied_eq_filterMap, List.map_filterMap]
  simp [Function.comp_def]

theorem ascending_entries (g : Grid α) : (g.entries.map Prod.fst).Pairwise Coord.Precedes := by
  rw [map_fst_entries]
  exact (Frame.pairwise_places g.valid).sublist List.filter_sublist

theorem occupiedCount_eq_length (g : Grid α) : g.occupiedCount = g.occupied.length := by
  rw [occupiedCount, occupied, List.length_filterMap_eq_countP, cells, Vector.countP_toList]
  rfl

theorem foldl_eq_foldl_cells {β : Type} (g : Grid α) (step : β → Option α → β)
    (start : β) : g.foldl step start = g.cells.foldl step start :=
  (Vector.foldl_toList step).symm

theorem Positional.map_coord_occupied [Cell α] (hg : g.Positional) :
    g.occupied.map Cell.coord = g.entries.map Prod.fst := by
  rw [← map_snd_entries, List.map_map]
  refine List.map_congr_left fun p hp => ?_
  exact hg p.1 p.2 (get_eq_ok_iff.1 (mem_entries_iff.1 hp)).2

structure ViewsAgree (g : Grid α) : Prop where
  length_cells : g.cells.length = g.size
  cell_at : ∀ i < g.size, ∃ c, g.frame.coordAt? i = some c ∧ g.cells[i]? = some (g.get? c)
  slots : g.memory.slots.toList = g.cells
  stored : g.stored.toList = g.cells
  collected : g.collected.toList = g.cells
  visits : ∀ {β : Type} (step : β → Option α → β) (start : β),
    g.foldl step start = g.cells.foldl step start
  visited : g.foldl Array.push #[] = g.cells.toArray
  entries_memory : g.memory.entries = .ok g.entries
  mem_entries : ∀ c a, (c, a) ∈ g.entries ↔ g.get c = .ok (some a)
  ascending : (g.entries.map Prod.fst).Pairwise Coord.Precedes
  once : (g.entries.map Prod.fst).Nodup
  occupied : g.occupied = g.entries.map Prod.snd
  length_entries : g.entries.length = g.occupiedCount
  length_occupied : g.occupied.length = g.occupiedCount
  positional : ∀ [Cell α], g.Positional →
    g.occupied.map Cell.coord = g.entries.map Prod.fst ∧ (g.occupied.map Cell.coord).Nodup

theorem viewsAgree (g : Grid α) : g.ViewsAgree := by
  have once : (g.entries.map Prod.fst).Nodup := g.ascending_entries.imp Coord.Precedes.ne
  exact
  { length_cells := by simp [size]
    cell_at := fun i hi => by
      have below : i < g.frame.area := by simpa [size] using hi
      refine ⟨g.frame.coordAt i, if_pos below, ?_⟩
      rw [List.getElem?_eq_getElem (by simpa using below), getElem_cells]
    slots := rfl
    stored := rfl
    collected := rfl
    visits := g.foldl_eq_foldl_cells
    visited := by simp [foldl_eq_foldl_cells]
    entries_memory := g.entries_memory
    mem_entries := fun _ _ => mem_entries_iff
    ascending := g.ascending_entries
    once := once
    occupied := g.map_snd_entries.symm
    length_entries := by rw [occupiedCount_eq_length, ← map_snd_entries, List.length_map]
    length_occupied := g.occupiedCount_eq_length.symm
    positional := fun hg => ⟨hg.map_coord_occupied, by rwa [hg.map_coord_occupied]⟩ }

/-- A grid that was built, after any run of changes, shows the same in all listings. -/
theorem BuiltFrom.views_agree_after_run (h : g.BuiltFrom f)
    (changes : List (Change σ α)) (t : σ) :
    ∃ answers k t', (Change.run g changes).run t = ((answers, k), t') ∧ k.frame = f ∧
      k.ViewsAgree := by
  obtain ⟨answers, k, t', ran, frame_eq⟩ := h.exists_run changes t
  exact ⟨answers, k, t', ran, frame_eq, k.viewsAgree⟩

/-- Two tiles on a grid of six slots, put there against the order of the rows. -/
theorem sown_views_agree : ∃ (g k : Grid Tile) (answers : List (Except Fault (Option Tile))),
    Grid.empty 3 2 = .ok g ∧
    (Change.run g [.edit (.set ⟨1, 1⟩ (some ⟨⟨1, 1⟩⟩)),
      .edit (.set ⟨3, 0⟩ (some ⟨⟨3, 0⟩⟩)),
      .edit (.set ⟨0, 1⟩ (some ⟨⟨0, 1⟩⟩)),
      .edit (.set ⟨2, 0⟩ (some ⟨⟨2, 0⟩⟩)), .edit (.take ⟨0, 1⟩)]).run () =
        ((answers, k), ()) ∧
    k.entries = [(⟨2, 0⟩, ⟨⟨2, 0⟩⟩), (⟨1, 1⟩, ⟨⟨1, 1⟩⟩)] ∧
    k.occupied = [⟨⟨2, 0⟩⟩, ⟨⟨1, 1⟩⟩] ∧
    k.occupiedCount = 2 ∧ k.cells.length = 6 ∧
    k.get ⟨2, 0⟩ = .ok (some ⟨⟨2, 0⟩⟩) ∧ k.Positional ∧
    k.occupied.map Cell.coord = [⟨2, 0⟩, ⟨1, 1⟩] := by
  obtain ⟨g, built⟩ : ∃ g : Grid Tile, Grid.empty 3 2 = .ok g := ⟨_, rfl⟩
  obtain ⟨answers, k, t, ran, frame_eq, views⟩ :=
    BuiltFrom.views_agree_after_run (.empty rfl built)
      [.edit (.set ⟨1, 1⟩ (some ⟨⟨1, 1⟩⟩)),
        .edit (.set ⟨3, 0⟩ (some ⟨⟨3, 0⟩⟩)),
        .edit (.set ⟨0, 1⟩ (some ⟨⟨0, 1⟩⟩)),
        .edit (.set ⟨2, 0⟩ (some ⟨⟨2, 0⟩⟩)), .edit (.take ⟨0, 1⟩)] ()
  have listed : k.entries = [(⟨2, 0⟩, ⟨⟨2, 0⟩⟩), (⟨1, 1⟩, ⟨⟨1, 1⟩⟩)] := by
    cases built
    cases ran
    decide +kernel
  have positional : k.Positional := by
    intro c a held
    have entry := (views.mem_entries c a).2 (get_eq_ok_iff.2 ⟨mem_of_get? held, held⟩)
    rw [listed] at entry
    simp only [List.mem_cons, Prod.mk.injEq, List.not_mem_nil, or_false] at entry
    obtain ⟨rfl, rfl⟩ | ⟨rfl, rfl⟩ := entry
    · rfl
    · rfl
  exact ⟨g, k, answers, built, ran, listed, by rw [views.occupied, listed]; rfl,
    by rw [← views.length_entries, listed]; rfl, by rw [length_cells, frame_eq]; rfl,
    (views.mem_entries _ _).1 (by simp [listed]), positional,
    by rw [(views.positional positional).1, listed]; rfl⟩

end Grid
end GridWalk
