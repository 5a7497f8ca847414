import GridWalk.Proofs.Search.Course
/-! The state of a breadth-first search. Positions are met in the order of their best courses, and
at each moment the positions met are those to which the courses up to some point lead. Nothing is
assumed on where cells report to be. -/
namespace GridWalk.BreadthFirst
variable {α : Type} [Cell α] {b : BreadthFirst α} {t : Trip} {c d p : Coord} {u v w : List ℕ}
  {i : ℕ} {a : α} {order : List Coord} {marks : Grid Mark} {s : Sweep}

/-- Both positions can be reached, and the best course to `c` comes before the best one to `d`. -/
def Before (b : BreadthFirst α) (t : Trip) (c d : Coord) : Prop :=
  ∃ u v, b.Best t t.source u c ∧ b.Best t t.source v d ∧ courseKey u < courseKey v

theorem Before.key_lt (h : b.Before t c d) (hu : b.Best t t.source u c)
    (hv : b.Best t t.source v d) : courseKey u < courseKey v := by
  obtain ⟨u', v', hu', hv', lt⟩ := h
  rwa [hu.unique hu', hv.unique hv']

theorem Before.ne (h : b.Before t c d) : c ≠ d := by
  intro e
  obtain ⟨u, v, hu, hv, lt⟩ := h
  subst e
  rw [hu.unique hv] at lt
  exact lt_irrefl _ lt

/-- The marks of the positions in `order`: the source is where the search began, every other
position was met from its predecessor on a best course. -/
structure Charted (b : BreadthFirst α) (t : Trip) (order : List Coord) (marks : Grid Mark) :
    Prop where
  frame : marks.frame = b.grid.frame
  mem_order : ∀ c, c ∈ order ↔ marks.get? c ≠ none
  start_iff : ∀ c, marks.get? c = some .start ↔ c = t.source
  came : ∀ c p, marks.get? c = some (.cameFrom p) →
    p ∈ order ∧ ∃ w i, b.Best t t.source w p ∧ b.Best t t.source (w ++ [i]) c
  sorted : order.Pairwise (b.Before t)

theorem Charted.best (h : b.Charted t order marks) (hc : c ∈ order) :
    ∃ w, b.Best t t.source w c := by
  cases hm : marks.get? c with
  | none => exact absurd hm ((h.mem_order c).1 hc)
  | some m =>
    cases m with
    | start =>
      rw [(h.start_iff c).1 hm]
      exact ⟨[], best_nil⟩
    | cameFrom p =>
      obtain ⟨-, w, i, -, hw⟩ := h.came c p hm
      exact ⟨w ++ [i], hw⟩

theorem Charted.source_mem (h : b.Charted t order marks) : t.source ∈ order := by
  rw [h.mem_order, (h.start_iff _).2 rfl]
  simp

theorem Charted.nodup (h : b.Charted t order marks) : order.Nodup :=
  h.sorted.imp Before.ne

theorem Charted.mem_frame (h : b.Charted t order marks) (hc : c ∈ order) :
    c ∈ b.grid.frame := by
  obtain ⟨m, hm⟩ := Option.ne_none_iff_exists'.1 ((h.mem_order c).1 hc)
  rw [← h.frame]
  exact Grid.mem_of_get? hm

/-- The search steps to open cells whose positions it has not met. -/
theorem Charted.admits_iff (h : b.Charted t order marks) :
    b.Admits t marks a ↔ b.Open t a ∧ Cell.coord a ∉ order := by
  rw [h.mem_order, not_not]
  constructor
  · intro ⟨inside, unmarked, allowed, passable⟩
    exact ⟨⟨inside, allowed, passable⟩, unmarked⟩
  · intro ⟨⟨inside, allowed, passable⟩, unmarked⟩
    exact ⟨inside, unmarked, allowed, passable⟩

/-- A new position, which all those met so far come before, is met from `p`. -/
theorem Charted.mark (h : b.Charted t order s.marks) (hp : p ∈ order)
    (hw : b.Best t t.source w p) (hc : b.Best t t.source (w ++ [i]) c) (new : c ∉ order)
    (hf : c ∈ b.grid.frame) (before : ∀ q ∈ order, b.Before t q c) :
    b.Charted t (order ++ [c]) (s.mark p c).marks := by
  have get_mark (q : Coord) : (s.mark p c).marks.get? q =
      if q = c then some (.cameFrom p) else s.marks.get? q :=
    Sweep.get?_marks_mark (by rwa [h.frame])
  have source_ne : t.source ≠ c := fun e => new (e ▸ h.source_mem)
  refine ⟨h.frame, fun q => ?_, fun q => ?_, fun q r hq => ?_, ?_⟩
  · by_cases hq : q = c
    · simp [get_mark, hq]
    · rw [get_mark, if_neg hq, ← h.mem_order]
      simp [hq]
  · by_cases hq : q = c
    · simp [get_mark, hq, Ne.symm source_ne]
    · rw [get_mark, if_neg hq, h.start_iff]
  · by_cases hqc : q = c
    · subst hqc
      rw [get_mark, if_pos rfl, Option.some.injEq, Mark.cameFrom.injEq] at hq
      subst hq
      exact ⟨List.mem_append_left _ hp, w, i, hw, hc⟩
    · rw [get_mark, if_neg hqc] at hq
      obtain ⟨hr, best⟩ := h.came q r hq
      exact ⟨List.mem_append_left _ hr, best⟩
  · rw [List.pairwise_append]
    refine ⟨h.sorted, List.pairwise_singleton _ _, fun q hq x hx => ?_⟩
    rw [List.mem_singleton.1 hx]
    exact before q hq

/-- The positions in `order` are those to which the courses before `w` lead. -/
def Complete (b : BreadthFirst α) (t : Trip) (w : List ℕ) (order : List Coord) : Prop :=
  ∀ c, c ∈ order ↔ ∃ v, b.follow t t.source v = some c ∧ courseKey v < courseKey w

/-- The next course is best for a position that none before it leads to. -/
theorem Complete.best (h : b.Complete t w order) (hw : b.follow t t.source w = some c)
    (new : c ∉ order) : b.Best t t.source w c := by
  refine ⟨hw, fun v hv => ?_⟩
  by_contra lt
  exact new ((h c).2 ⟨v, hv, lt_of_not_ge lt⟩)

theorem Complete.key_lt (h : b.Complete t w order) (hc : c ∈ order)
    (hv : b.Best t t.source v c) : courseKey v < courseKey w := by
  obtain ⟨u, hu, lt⟩ := (h c).1 hc
  exact lt_of_le_of_lt (hv.least u hu) lt

/-- Looking in one more direction adds where that step leads, if anywhere. -/
theorem Complete.advance (h : b.Complete t (w ++ [i]) order) (hw : b.follow t t.source w = some p)
    {order' : List Coord} (ho : ∀ c, c ∈ order' ↔ c ∈ order ∨ b.hop t p i = some c) :
    b.Complete t (w ++ [i + 1]) order' := by
  have hop_iff (c : Coord) : b.hop t p i = some c ↔ b.follow t t.source (w ++ [i]) = some c := by
    rw [follow_snoc_eq_some_iff, hw]
    simp
  intro c
  rw [ho, h c, hop_iff]
  simp only [courseKey_lt_append_succ]
  constructor
  · intro h
    cases h with
    | inl h =>
      obtain ⟨v, hv, lt⟩ := h
      exact ⟨v, hv, Or.inl lt⟩
    | inr hc => exact ⟨w ++ [i], hc, Or.inr rfl⟩
  · intro ⟨v, hv, key⟩
    cases key with
    | inl lt => exact Or.inl ⟨v, hv, lt⟩
    | inr last =>
      subst last
      exact Or.inr hv

def Arrived (b : BreadthFirst α) (t : Trip) (marks : Grid Mark) : Prop :=
  ∃ order, b.Charted t order marks ∧ t.target ∈ order

/-- What holds between two directions of a survey from `p`: the courses before `w ++ [i]` are done,
where `w` is the best one to `p`. -/
structure Surveying (b : BreadthFirst α) (t : Trip) (p : Coord) (w : List ℕ) (i : ℕ)
    (order : List Coord) (marks : Grid Mark) : Prop where
  charted : b.Charted t order marks
  complete : b.Complete t (w ++ [i]) order
  best : b.Best t t.source w p
  mem : p ∈ order
  unmet : t.target ∉ order

/-- The `i`-th direction shows nothing new. -/
theorem Surveying.skip (h : b.Surveying t p w i order marks)
    (old : ∀ c, b.hop t p i = some c → c ∈ order) :
    b.Surveying t p w (i + 1) order marks := by
  refine ⟨h.charted, h.complete.advance h.best.leads fun c => ?_, h.best, h.mem, h.unmet⟩
  exact ⟨Or.inl, fun hc => hc.elim id (old c)⟩

theorem Surveying.charted_mark (h : b.Surveying t p w i order s.marks)
    (hop : b.hop t p i = some c) (new : c ∉ order) :
    b.Charted t (order ++ [c]) (s.mark p c).marks := by
  have leads : b.follow t t.source (w ++ [i]) = some c :=
    follow_snoc_eq_some_iff.2 ⟨p, h.best.leads, hop⟩
  have best : b.Best t t.source (w ++ [i]) c := h.complete.best leads new
  refine h.charted.mark h.mem h.best best new (mem_frame_of_hop hop) fun q hq => ?_
  obtain ⟨v, hv⟩ := h.charted.best hq
  exact ⟨v, w ++ [i], hv, best, h.complete.key_lt hq hv⟩

/-- The `i`-th direction shows a new position, which is not the target. -/
theorem Surveying.mark (h : b.Surveying t p w i order s.marks) (hop : b.hop t p i = some c)
    (new : c ∉ order) (ne : c ≠ t.target) :
    b.Surveying t p w (i + 1) (order ++ [c]) (s.mark p c).marks := by
  refine ⟨h.charted_mark hop new, h.complete.advance h.best.leads fun d => ?_, h.best,
    List.mem_append_left _ h.mem, ?_⟩
  · rw [hop, List.mem_append, List.mem_singleton, Option.some.injEq, eq_comm (a := c)]
  · rw [List.mem_append, List.mem_singleton]
    intro ht
    cases ht with
    | inl ht => exact h.unmet ht
    | inr e => exact ne e.symm

end GridWalk.BreadthFirst
