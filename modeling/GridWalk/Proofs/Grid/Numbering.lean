import GridWalk.Proofs.Grid.Faults
/-! The numbers of slots. The positions of a frame and the numbers below its area belong to each
other one to one, and of two positions the one that is read first, row by row, has the smaller
number. In memory both are computed on words, and the same holds there. -/
namespace GridWalk

namespace Coord
variable {c d : Coord}

def Precedes (c d : Coord) : Prop := c.y < d.y ∨ c.y = d.y ∧ c.x < d.x

theorem precedes_or_eq_or_precedes (c d : Coord) : c.Precedes d ∨ c = d ∨ d.Precedes c := by
  simp only [Precedes, Int32.lt_iff_toInt_lt, ← Int32.toInt_inj]
  by_cases same : c.x.toInt = d.x.toInt ∧ c.y.toInt = d.y.toInt
  · exact Or.inr (Or.inl (ext_toInt same.1 same.2))
  · omega

end Coord

namespace Frame
variable {f : Frame} {c d : Coord} {i : ℕ}

theorem index_lt_of_precedes (hc : c ∈ f) (h : c.Precedes d) (hd : d ∈ f) :
    f.index c < f.index d := by
  obtain ⟨⟨cx, -⟩, cy, -⟩ := id hc
  obtain ⟨⟨dx, -⟩, dy, -⟩ := id hd
  simp only [Coord.Precedes, Int32.lt_iff_toInt_lt] at h
  obtain above | ⟨same_row, further_left⟩ := h
  · -- The numbers of an earlier row all come before those of a later one.
    have next_row : c.y.toNatClampNeg + 1 ≤ d.y.toNatClampNeg := by
      rw [← Int32.toNat_toInt, ← Int32.toNat_toInt]
      omega
    calc f.index c < (c.y.toNatClampNeg + 1) * f.width.toNat := index_lt_next_row hc
      _ ≤ d.y.toNatClampNeg * f.width.toNat := Nat.mul_le_mul_right _ next_row
      _ ≤ f.index d := Nat.le_add_right _ _
  · have columns : c.x.toNatClampNeg < d.x.toNatClampNeg := by
      rw [← Int32.toNat_toInt, ← Int32.toNat_toInt]
      omega
    rw [index, index, same_row]
    exact Nat.add_lt_add_left columns _

theorem index_lt_index_iff (hc : c ∈ f) (hd : d ∈ f) :
    f.index c < f.index d ↔ c.Precedes d := by
  refine ⟨fun h => ?_, fun h => index_lt_of_precedes hc h hd⟩
  obtain before | same | after := c.precedes_or_eq_or_precedes d
  · exact before
  · rw [same] at h
    exact absurd h (Nat.lt_irrefl _)
  · exact absurd h (Nat.lt_asymm (index_lt_of_precedes hd after hc))

theorem index?_eq_some_iff : f.index? c = some i ↔ c ∈ f ∧ f.index c = i := by
  rw [index?]
  by_cases h : c ∈ f
  · simp [h]
  · simp [h]

theorem coordAt?_eq_some_iff : f.coordAt? i = some c ↔ i < f.area ∧ f.coordAt i = c := by
  rw [coordAt?]
  by_cases h : i < f.area
  · simp [h]
  · simp [h]

theorem Valid.index?_eq_some_iff_coordAt? (h : f.Valid) :
    f.index? c = some i ↔ f.coordAt? i = some c := by
  rw [index?_eq_some_iff, coordAt?_eq_some_iff]
  constructor
  · intro ⟨mem, numbered⟩
    rw [← numbered]
    exact ⟨index_lt_area mem, coordAt_index mem⟩
  · intro ⟨below, found⟩
    rw [← found]
    exact ⟨coordAt_mem h below, index_coordAt h below⟩

structure Numbered (f : Frame) : Prop where
  isSome_index? : ∀ c, (f.index? c).isSome = true ↔
    (0 ≤ c.x.toInt ∧ c.x.toInt < f.width.toNat) ∧
    (0 ≤ c.y.toInt ∧ c.y.toInt < f.height.toNat)
  isSome_coordAt? : ∀ i, (f.coordAt? i).isSome = true ↔ i < f.width.toNat * f.height.toNat
  index?_iff_coordAt? : ∀ c i, f.index? c = some i ↔ f.coordAt? i = some c
  lt_iff_precedes : ∀ c d i j, f.index? c = some i → f.index? d = some j →
    (i < j ↔ c.Precedes d)

theorem Valid.numbered (h : f.Valid) : f.Numbered where
  isSome_index? c := by
    rw [← mem_iff, index?]
    split
    · next inside => simp [inside]
    · next outside => simp [outside]
  isSome_coordAt? i := by
    rw [← area, coordAt?]
    split
    · next below => simp [below]
    · next beyond => simp [beyond]
  index?_iff_coordAt? _ _ := h.index?_eq_some_iff_coordAt?
  lt_iff_precedes c d i j hc hd := by
    obtain ⟨mem_c, rfl⟩ := index?_eq_some_iff.1 hc
    obtain ⟨mem_d, rfl⟩ := index?_eq_some_iff.1 hd
    exact index_lt_index_iff mem_c mem_d

end Frame

namespace Grid
variable {α σ : Type} {f : Frame} {g : Grid α} {c d : Coord} {i j : UInt64}

/-- The word found for a position is its number. -/
theorem index?_memory_eq_some_iff :
    g.memory.index? c = .ok (some i) ↔ g.frame.index? c = some i.toNat := by
  rw [index?_memory, Except.ok.injEq, Option.map_eq_some_iff]
  constructor
  · intro ⟨n, numbered, word⟩
    obtain ⟨mem, rfl⟩ := Frame.index?_eq_some_iff.1 numbered
    rw [← word, g.valid.toNat_index mem]
    exact numbered
  · intro numbered
    exact ⟨i.toNat, numbered, UInt64.ofNat_toNat⟩

theorem index?_memory_iff_coordAt? :
    g.memory.index? c = .ok (some i) ↔ g.memory.coordAt? i = .ok (some c) := by
  rw [index?_memory_eq_some_iff, g.valid.index?_eq_some_iff_coordAt?, coordAt?_memory,
    Except.ok.injEq]

theorem word_lt_iff_precedes (hc : g.memory.index? c = .ok (some i))
    (hd : g.memory.index? d = .ok (some j)) : i < j ↔ c.Precedes d := by
  rw [index?_memory_eq_some_iff] at hc hd
  rw [UInt64.lt_iff_toNat_lt, g.valid.numbered.lt_iff_precedes c d _ _ hc hd]

/-- The numbering of the slots of a grid that was built, after any run of changes. It is kept from
the construction on, and it takes positions and numbers to each other along the rows. The words by
which it is computed in memory, over all 32-bit positions and all 64-bit numbers, say the same
without a trap. -/
theorem BuiltFrom.numbered_after_run (h : g.BuiltFrom f) (changes : List (Change σ α)) (t : σ) :
    ∃ answers k t', (Change.run g changes).run t = ((answers, k), t') ∧ k.frame = f ∧
      f.Numbered ∧
      (∀ c, k.memory.index? c = .ok ((f.index? c).map UInt64.ofNat)) ∧
      (∀ i, k.memory.coordAt? i = .ok (f.coordAt? i.toNat)) ∧
      (∀ c i, k.memory.index? c = .ok (some i) ↔ k.memory.coordAt? i = .ok (some c)) ∧
      ∀ c d i j, k.memory.index? c = .ok (some i) → k.memory.index? d = .ok (some j) →
        (i < j ↔ c.Precedes d) := by
  obtain ⟨answers, k, t', ran, rfl⟩ := h.exists_run changes t
  exact ⟨answers, k, t', ran, rfl, k.valid.numbered, k.index?_memory, k.coordAt?_memory,
    fun _ _ => index?_memory_iff_coordAt?, fun _ _ _ _ => word_lt_iff_precedes⟩

/-- The last slot of the largest frame has a number that takes 62 bits, and no position or number
beyond it is taken for another one. -/
theorem largest_numbered : ∃ (g k : Grid ℕ) (answers : List (Except Fault (Option ℕ))),
    g.BuiltFrom { width := 2147483647, height := 2147483647 } ∧
    (Change.run g [.edit (.take ⟨0, 0⟩), .edit (.set ⟨5, -1⟩ (some 3))]).run () =
      ((answers, k), ()) ∧
    k.memory.index? ⟨2147483646, 2147483646⟩ = .ok (some 4611686014132420608) ∧
    k.memory.coordAt? 4611686014132420608 = .ok (some ⟨2147483646, 2147483646⟩) ∧
    k.memory.index? ⟨-1, 1⟩ = .ok none ∧ k.memory.index? ⟨2147483647, 0⟩ = .ok none ∧
    k.memory.coordAt? 4611686014132420609 = .ok none ∧
    ((2147483646 : UInt64) < 2147483647 ↔ (⟨2147483646, 0⟩ : Coord).Precedes ⟨0, 1⟩) := by
  obtain ⟨g, built⟩ := exists_builtFrom ℕ (f := { width := 2147483647, height := 2147483647 })
    ⟨by decide, by decide, by decide, by decide⟩
  obtain ⟨answers, k, t, ran, -, -, number, place, inverse, order⟩ :=
    built.numbered_after_run [.edit (.take ⟨0, 0⟩), .edit (.set ⟨5, -1⟩ (some 3))] ()
  have last : k.memory.index? ⟨2147483646, 2147483646⟩ = .ok (some 4611686014132420608) :=
    (number _).trans (by decide +kernel)
  have row_end : k.memory.index? ⟨2147483646, 0⟩ = .ok (some 2147483646) :=
    (number _).trans (by decide +kernel)
  have row_start : k.memory.index? ⟨0, 1⟩ = .ok (some 2147483647) :=
    (number _).trans (by decide +kernel)
  exact ⟨g, k, answers, built, ran, last, (inverse _ _).1 last,
    (number _).trans (by decide +kernel), (number _).trans (by decide +kernel),
    (place _).trans (by decide +kernel), order _ _ _ _ row_end row_start⟩

end Grid
end GridWalk
