import GridWalk.Proofs.Grid.Memory
/-! What holds of a grid from its construction on, through any run of changes: the extents are those
it was built with, there is one slot for each position, and in memory no operation on it meets a
trap. -/
namespace GridWalk
variable {α σ : Type}

/-- Each operation in memory runs to its end and does what it does on the grid. -/
structure Memory.Serves (r : Memory α) (g : Grid α) : Prop where
  frame : r.frame = g.frame
  cells : r.slots.toList = g.cells
  isWithin : ∀ c, r.isWithin c = decide (c ∈ g.frame)
  index? : ∀ c, r.index? c = .ok ((g.frame.index? c).map UInt64.ofNat)
  coordAt? : ∀ i, r.coordAt? i = .ok (g.frame.coordAt? i.toNat)
  get? : ∀ c, r.get? c = .ok (g.get? c)
  get : ∀ c, r.get c = .ok (g.get c)
  change : ∀ {σ : Type} (x : Change σ α),
    r.change x = steady ((fun p => (p.1, p.2.memory)) <$> x.apply g)
  entries : r.entries = .ok g.entries
  neighboursWith : ∀ c reach, r.neighboursWith c reach = .ok (g.neighboursWith c reach)
  neighbour : ∀ c (d : Direction), r.get? (d.step c) = .ok (g.neighbour c d)
  coordOfPixel? : ∀ px py, r.coordOfPixel? px py = .ok (g.frame.coordOfPixel? px py)
  ofPixel? : ∀ px py, r.ofPixel? px py = .ok (g.ofPixel? px py)
  sample : ∀ {ρ : Type} [Chance ρ],
    (r.sample : StateT ρ (Except Trap) (Option α)) = steady g.sample

namespace Grid
variable {f : Frame} {g : Grid α}

theorem serves_memory (g : Grid α) : g.memory.Serves g where
  frame := rfl
  cells := rfl
  isWithin := isWithin_memory g
  index? := index?_memory g
  coordAt? := coordAt?_memory g
  get? := get?_memory g
  get := get_memory g
  change := change_memory g
  entries := entries_memory g
  neighboursWith := neighboursWith_memory g
  neighbour c d := get?_memory g (d.step c)
  coordOfPixel? := coordOfPixel?_memory g
  ofPixel? := ofPixel?_memory g
  sample := sample_memory g

theorem frame_of_build {s : Storage} {generator : Coord → StateM σ (Option α)} {t t' : σ}
    (h : (build s f generator).run t = (.ok g, t')) : g.frame = f := by
  rw [build] at h
  cases admitted : f.admit s with
  | error e =>
    rw [admitted] at h
    cases h
  | ok valid =>
    rw [admitted] at h
    cases h
    rfl

inductive BuiltFrom (f : Frame) (g : Grid α) : Prop where
  | filled {σ : Type} {s : Storage} {generator : Coord → StateM σ (Option α)} {t t' : σ}
      (h : (Grid.build s f generator).run t = (.ok g, t'))
  | sized {σ : Type} {s : Storage} {width height cellWidth cellHeight : UInt32}
      {generator : Coord → StateM σ (Option α)} {t t' : σ}
      (hf : f = Frame.withCellSize { width, height } cellWidth cellHeight)
      (h : (Grid.buildSized s width height cellWidth cellHeight generator).run t = (.ok g, t'))
  | empty {s : Storage} {width height : UInt32} (hf : f = { width, height })
      (h : Grid.emptyIn s width height = .ok g)

namespace BuiltFrom

/-- Every construction is one from a frame by a generator. -/
theorem exists_build (h : g.BuiltFrom f) :
    ∃ (σ : Type) (s : Storage) (generator : Coord → StateM σ (Option α)) (t t' : σ),
      (Grid.build s f generator).run t = (.ok g, t') := by
  cases h with
  | filled h => exact ⟨_, _, _, _, _, h⟩
  | sized hf h =>
    subst hf
    exact ⟨_, _, _, _, _, h⟩
  | @empty s _ _ hf h =>
    subst hf
    exact ⟨Unit, s, fun _ => pure none, (), (), Prod.ext h rfl⟩

theorem frame_eq (h : g.BuiltFrom f) : g.frame = f := by
  obtain ⟨_, _, _, _, _, built⟩ := h.exists_build
  exact frame_of_build built

/-- Changes do not alter the extents that a grid was built with. -/
theorem exists_run (h : g.BuiltFrom f) (changes : List (Change σ α)) (t : σ) :
    ∃ answers k t', (Change.run g changes).run t = ((answers, k), t') ∧ k.frame = f :=
  ⟨_, _, _, rfl, (Change.frame_run g changes t).trans h.frame_eq⟩

/-- The construction that gives the grid gives its memory, and meets no trap. -/
theorem exists_build_memory (h : g.BuiltFrom f) :
    ∃ (σ : Type) (s : Storage) (generator : Coord → StateM σ (Option α)) (t t' : σ),
      (Memory.build s f generator).run t = .ok (.ok g.memory, t') := by
  obtain ⟨σ, s, generator, t, t', built⟩ := h.exists_build
  refine ⟨σ, s, generator, t, t', ?_⟩
  rw [build_memory, run_steady, StateT.run_map, built]
  rfl

/-- Every construction in memory meets no trap and does what the construction of a grid does, so
that what it gives is the memory of a grid. As to a grid that was built, and whatever was done to it
since: the extents are those of the construction, there is one slot for each position, and nothing
that is asked of the memory meets a trap. -/
theorem serves_after_run (h : g.BuiltFrom f) (changes : List (Change σ α)) (t : σ) :
    (∀ {τ : Type} (s : Storage) (f' : Frame) (generator : Coord → StateM τ (Option α)),
      Memory.build s f' generator = steady (Except.map memory <$> build s f' generator)) ∧
    (∃ (τ : Type) (s : Storage) (generator : Coord → StateM τ (Option α)) (t₀ t₁ : τ),
      (Memory.build s f generator).run t₀ = .ok (.ok g.memory, t₁)) ∧
    ∃ answers k t', (Change.run g changes).run t = ((answers, k), t') ∧
      (g.memory.run changes).run t = .ok ((answers, k.memory), t') ∧
      k.frame = f ∧ k.config = f ∧
      (1 ≤ f.width.toNat ∧ f.width.toNat ≤ 2147483647) ∧
      (1 ≤ f.height.toNat ∧ f.height.toNat ≤ 2147483647) ∧
      k.memory.slots.size = f.width.toNat * f.height.toNat ∧
      k.memory.Serves k := by
  obtain ⟨answers, k, t', ran⟩ :
      ∃ answers k t', (Change.run g changes).run t = ((answers, k), t') := ⟨_, _, _, rfl⟩
  have frame_kept : k.frame = f := by
    have kept := Change.frame_run g changes t
    rw [ran] at kept
    exact kept.trans h.frame_eq
  have ran_memory : (g.memory.run changes).run t = .ok ((answers, k.memory), t') := by
    rw [run_memory, run_steady, StateT.run_map, ran]
    rfl
  have valid := k.valid
  have size_eq := k.size_memory
  rw [frame_kept] at valid size_eq
  exact ⟨build_memory, h.exists_build_memory, answers, k, t', ran, ran_memory, frame_kept,
    k.config_eq_frame.trans frame_kept, ⟨valid.width_pos, valid.width_le⟩,
    ⟨valid.height_pos, valid.height_le⟩, size_eq, k.serves_memory⟩

theorem serves_after_refill :
    ∃ g : Grid Nat, Grid.empty 3 2 = .ok g ∧
    ∃ answers k t', (Change.run g [.edit (.set ⟨1, 1⟩ (some 7)), .edit (.take ⟨3, 0⟩),
        .refill fun _ n => (some n, n + 1), .edit (.overwrite ⟨2, 1⟩ Nat.succ)]).run 0 =
          ((answers, k), t') ∧
      answers = [.ok none, .error (.outOfBounds ⟨3, 0⟩ 3 2), .ok none, .ok (some 5)] ∧
      k.memory.slots.toList = [some 0, some 1, some 2, some 3, some 4, some 6] ∧ t' = 6 ∧
      k.memory.Serves k := by
  obtain ⟨g, built⟩ : ∃ g : Grid Nat, Grid.empty 3 2 = .ok g := ⟨_, rfl⟩
  obtain ⟨-, -, answers, k, t', ran, -, -, -, -, -, -, serves⟩ :=
    serves_after_run (.empty rfl built) [.edit (.set ⟨1, 1⟩ (some 7)), .edit (.take ⟨3, 0⟩),
        .refill fun _ n => (some n, n + 1), .edit (.overwrite ⟨2, 1⟩ Nat.succ)] 0
  cases built
  have outcome := ran
  cases outcome
  exact ⟨_, rfl, _, _, _, ran, by decide +kernel, by decide +kernel, by decide +kernel, serves⟩

end BuiltFrom
end Grid
end GridWalk
