import GridWalk.Proofs.Grid.Faults
import GridWalk.Proofs.Grid.Generator
/-! Grids that cannot be told apart. Grids compare slot by slot, in whatever way their cells
compare; main statements: two grids are equal exactly where their frames are and every position
reads the same, and a grid built anew from what is read of another one is equal to it. -/
namespace GridWalk
variable {α σ τ : Type}

def Memory.same [BEq α] (r q : Memory α) : Bool := r.slots == q.slots && r.frame == q.frame

namespace Grid
variable {f f' : Frame} {g g' : Grid α} {s : Storage} {generator : Coord → StateM σ (Option α)}
  {t : σ}

theorem getElem_memory {i : Nat} (h : i < g.memory.slots.size) :
    g.memory.slots[i] = g.get? (g.frame.coordAt i) := by
  rw [get?_coordAt (by simpa using h)]
  rfl

theorem same_memory_iff [BEq α] : g.memory.same g'.memory = true ↔
    g.frame = g'.frame ∧ ∀ c, (g.get? c == g'.get? c) = true := by
  have slots_iff : (g.memory.slots == g'.memory.slots) = true ↔
      ∃ _ : g.memory.slots.size = g'.memory.slots.size, ∀ i (_ : i < g.memory.slots.size),
        (g.memory.slots[i] == g'.memory.slots[i]) = true := Array.isEqv_iff_rel
  rw [Memory.same, Bool.and_eq_true, slots_iff, beq_iff_eq, frame_memory, frame_memory]
  constructor
  · intro ⟨⟨_, equal⟩, frame_eq⟩
    refine ⟨frame_eq, fun c => ?_⟩
    by_cases h : c ∈ g.frame
    · have below : g.frame.index c < g.memory.slots.size := by
        rw [size_memory]
        exact Frame.index_lt_area h
      have found := equal _ below
      rwa [getElem_memory, getElem_memory, ← frame_eq, Frame.coordAt_index h] at found
    · rw [get?_of_not_mem h, get?_of_not_mem (by rwa [← frame_eq])]
      rfl
  · intro ⟨frame_eq, equal⟩
    refine ⟨⟨by rw [size_memory, size_memory, frame_eq], fun i h => ?_⟩, frame_eq⟩
    rw [getElem_memory, getElem_memory, ← frame_eq]
    exact equal _

theorem eq_iff_get? : g = g' ↔ g.frame = g'.frame ∧ ∀ c, g.get? c = g'.get? c :=
  ⟨fun h => ⟨by rw [h], fun _ => by rw [h]⟩,
    fun ⟨frame_eq, equal⟩ => ext_get? frame_eq equal⟩

/-- A grid built from the frame of another one by a generator whose answers are like what is held
there, is like it at every position. -/
theorem exists_copy (like : Option α → Option α → Prop) (none_like : like none none)
    (room : s.grants g.frame.area = true)
    (answers : ∀ c u, like ((generator c).run u).1 (g.get? c)) (t : σ) :
    ∃ copy t', (build s g.frame generator).run t = (.ok copy, t') ∧ copy.frame = g.frame ∧
      ∀ c, like (copy.get? c) (g.get? c) := by
  obtain ⟨copy, t', built⟩ := exists_build_eq_ok g.valid room generator t
  have frame_eq : copy.frame = g.frame := frame_of_build built
  refine ⟨copy, t', built, frame_eq, fun c => ?_⟩
  by_cases h : c ∈ g.frame
  · obtain ⟨u, answer⟩ := exists_answer_of_build built h
    rw [← answer]
    exact answers c u
  · rw [get?_of_not_mem h, get?_of_not_mem (by rwa [frame_eq])]
    exact none_like

/-- Of two grids that were built and changed, the frames and what is read at the positions tell
whether they are equal. From what is read of one of them, by a generator that answers with copies of
it, an equal grid is built wherever there is room for its slots. -/
theorem BuiltFrom.told_by_positions_after_runs [BEq α] (h : g.BuiltFrom f) (h' : g'.BuiltFrom f')
    (changes : List (Change σ α)) (t : σ) (changes' : List (Change τ α)) (t' : τ) :
    ∃ answers k u answers' k' u', (Change.run g changes).run t = ((answers, k), u) ∧
      k.frame = f ∧
      (Change.run g' changes').run t' = ((answers', k'), u') ∧ k'.frame = f' ∧
      (k.config = f ∧ k'.config = f') ∧
      (k.memory.same k'.memory = true ↔ f = f' ∧ ∀ c, (k.get? c == k'.get? c) = true) ∧
      (k = k' ↔ f = f' ∧ ∀ c, k.get? c = k'.get? c) ∧
      ∀ s : Storage, s.grants f.area = true →
      ∀ {υ : Type} (generator : Coord → StateM υ (Option α)) (v : υ),
        ((∀ c w, ((generator c).run w).1 = k.get? c) →
          ∃ v', (build s f generator).run v = (.ok k, v')) ∧
        ((∀ c w, (((generator c).run w).1 == k.get? c) = true) →
          ∃ copy v', (build s f generator).run v = (.ok copy, v') ∧
            copy.memory.same k.memory = true) := by
  obtain ⟨answers, k, u, ran, rfl⟩ := h.exists_run changes t
  obtain ⟨answers', k', u', ran', rfl⟩ := h'.exists_run changes' t'
  refine ⟨answers, k, u, answers', k', u', ran, rfl, ran', rfl,
    ⟨k.config_eq_frame, k'.config_eq_frame⟩, same_memory_iff, eq_iff_get?,
    fun s room υ generator v => ⟨fun exact_answers => ?_, fun equal_answers => ?_⟩⟩
  · obtain ⟨copy, v', built, frame_eq, equal⟩ := exists_copy (· = ·) rfl room exact_answers v
    rw [ext_get? frame_eq equal] at built
    exact ⟨v', built⟩
  · obtain ⟨copy, v', built, frame_eq, equal⟩ :=
      exists_copy (fun o p => (o == p) = true) rfl room equal_answers v
    exact ⟨copy, v', built, same_memory_iff.2 ⟨frame_eq, equal⟩⟩

def copying (g : Grid α) (c : Coord) : StateM Nat (Option α) := fun n => (g.get? c, n + 1)

/-- An empty grid that is filled in two slots, and a full one of which all other slots are
emptied. -/
theorem filled_equal_emptied :
    ∃ (g g' k k' : Grid Nat) (answers answers' : List (Except Fault (Option Nat))),
    Grid.empty 3 2 = .ok g ∧
    ofFn { width := 3, height := 2 } (fun c => some (if c = ⟨1, 0⟩ then 4 else 5)) = .ok g' ∧
    (Change.run g [.edit (.set ⟨2, 1⟩ (some 5)), .edit (.set ⟨3, 0⟩ (some 9)),
      .edit (.set ⟨1, 0⟩ (some 4))]).run () = ((answers, k), ()) ∧
    (Change.run g' [.edit (.take ⟨0, 0⟩), .edit (.take ⟨2, 0⟩), .edit (.take ⟨0, 1⟩),
      .edit (.take ⟨1, 1⟩)]).run () = ((answers', k'), ()) ∧
    k.memory.same k'.memory = true ∧ (∀ c, k.get? c = k'.get? c) ∧
    ∃ n, (build .standard { width := 3, height := 2 } (copying k)).run 0 = (.ok k, n) := by
  obtain ⟨g, built⟩ : ∃ g : Grid Nat, Grid.empty 3 2 = .ok g := ⟨_, rfl⟩
  obtain ⟨g', built'⟩ : ∃ g' : Grid Nat, ofFn { width := 3, height := 2 }
    (fun c => some (if c = ⟨1, 0⟩ then 4 else 5)) = .ok g' := ⟨_, rfl⟩
  obtain ⟨answers, k, u, answers', k', u', ran, -, ran', -, -, -, told, copied⟩ :=
    BuiltFrom.told_by_positions_after_runs (.empty rfl built) (.filled (build_of_ofFnIn built'))
      [.edit (.set ⟨2, 1⟩ (some 5)), .edit (.set ⟨3, 0⟩ (some 9)),
        .edit (.set ⟨1, 0⟩ (some 4))] ()
      [.edit (.take ⟨0, 0⟩), .edit (.take ⟨2, 0⟩), .edit (.take ⟨0, 1⟩),
        .edit (.take ⟨1, 1⟩)] ()
  have outcome : k = k' ∧ k.memory.same k'.memory = true := by
    cases built
    cases built'
    cases ran
    cases ran'
    decide +kernel
  exact ⟨g, g', k, k', answers, answers', built, built', ran, ran', outcome.2,
    (told.1 outcome.1).2, (copied .standard (by decide) (copying k) 0).1 fun _ _ => rfl⟩

end Grid
end GridWalk
