import GridWalk.Proofs.Search.Exploration
/-! The search as a whole. Between two of its steps every position reached before the front of the
frontier has been looked around; so the search meets the target on a best course, and gives up only
where no course leads to the target. -/
namespace GridWalk.BreadthFirst
variable {α : Type} [Cell α] {b : BreadthFirst α} {t : Trip} {c p : Coord} {v w : List ℕ}
  {done order : List Coord} {s : Sweep}

/-- How a survey from `p` may end: at the target, or with all directions seen and the new positions
added to the frontier in the order in which they were met. -/
def Surveyed (b : BreadthFirst α) (t : Trip) (p : Coord) (w : List ℕ)
    (order frontier : List Coord) : Progress → Prop
  | .searching s => ∃ new, b.Surveying t p w t.adjacency.degree (order ++ new) s.marks ∧
      s.frontier.toList = frontier ++ new
  | .arrived marks => b.Arrived t marks
  | .exhausted => False

theorem Surveyed.of_append {frontier : List Coord} {r : Progress}
    (h : b.Surveyed t p w (order ++ [c]) (frontier ++ [c]) r) :
    b.Surveyed t p w order frontier r := by
  cases r with
  | searching s =>
    obtain ⟨new, hs, hf⟩ := h
    exact ⟨c :: new, by rwa [List.append_cons], by rwa [List.append_cons]⟩
  | arrived marks => exact h
  | exhausted => exact h

/-- A survey of the directions in `rest`, after those in `seen`. -/
theorem Surveying.survey {seen rest : List Direction} (hd : t.adjacency.directions = seen ++ rest)
    (h : b.Surveying t p w seen.length order s.marks) :
    b.Surveyed t p w order s.frontier.toList
      (b.survey t p ((rest.map (·.step p)).filterMap b.grid.get?) s) := by
  induction rest generalizing seen order s with
  | nil =>
    have all_seen : seen.length = t.adjacency.degree := by
      rw [Adjacency.degree, hd, List.append_nil]
    rw [all_seen] at h
    exact ⟨[], by rwa [List.append_nil], (List.append_nil _).symm⟩
  | cons x rest ih =>
    have hx : t.adjacency.directions[seen.length]? = some x := by simp [hd]
    have hd' : t.adjacency.directions = (seen ++ [x]) ++ rest := by rw [hd, List.append_cons]
    have hlen : (seen ++ [x]).length = seen.length + 1 := by simp
    -- Nothing new in this direction: the sweep stays as it is.
    have skip (old : ∀ c, b.hop t p seen.length = some c → c ∈ order) :
        b.Surveyed t p w order s.frontier.toList
          (b.survey t p ((rest.map (·.step p)).filterMap b.grid.get?) s) := by
      refine ih hd' ?_
      rw [hlen]
      exact h.skip old
    cases ha : b.grid.get? (x.step p) with
    | none =>
      rw [List.map_cons, List.filterMap_cons_none ha]
      refine skip fun c hc => ?_
      rw [hop_of_empty hx ha] at hc
      cases hc
    | some a =>
      rw [List.map_cons, List.filterMap_cons_some ha, BreadthFirst.survey]
      by_cases admits : b.Admits t s.marks a
      · rw [if_pos admits]
        obtain ⟨opens, new⟩ := h.charted.admits_iff.1 admits
        have hop : b.hop t p seen.length = some (Cell.coord a) :=
          (hop_iff_of_occupant hx ha).2 ⟨opens, rfl⟩
        by_cases ht : Cell.coord a = t.target
        · rw [if_pos ht]
          exact ⟨_, h.charted_mark hop new, by simp [ht]⟩
        · rw [if_neg ht]
          have marked := h.mark hop new ht
          rw [← hlen] at marked
          have next := ih hd' (s := (s.mark p (Cell.coord a)).push (Cell.coord a)) marked
          rw [Sweep.push, Queue.toList_push] at next
          exact next.of_append
      · rw [if_neg admits]
        refine skip fun c hc => ?_
        obtain ⟨opens, rfl⟩ := (hop_iff_of_occupant hx ha).1 hc
        by_contra new
        exact admits (h.charted.admits_iff.2 ⟨opens, new⟩)

/-- What holds between two steps of the search: `done` are the positions looked around so far. -/
structure Swept (b : BreadthFirst α) (t : Trip) (done : List Coord) (s : Sweep) : Prop where
  charted : b.Charted t (done ++ s.frontier.toList) s.marks
  closed : ∀ c ∈ done, ∀ i d, b.hop t c i = some d → d ∈ done ++ s.frontier.toList
  near : ∀ c ∈ done ++ s.frontier.toList, ∀ p ∈ s.frontier.toList, ∀ v w,
    b.Best t t.source v c → b.Best t t.source w p → courseKey v < courseKey (w ++ [0])
  unmet : t.target ∉ done ++ s.frontier.toList

theorem Swept.start (hs : t.source ∈ b.grid.frame) (ht : t.source ≠ t.target) :
    b.Swept t [] (.start b.grid.frame b.grid.valid t.source) := by
  have get_start (c : Coord) :
      (Sweep.start b.grid.frame b.grid.valid t.source).marks.get? c =
        if c = t.source then some .start else none :=
    Sweep.get?_marks_start b.grid.valid hs
  constructor
  · refine ⟨rfl, fun c => ?_, fun c => ?_, fun c p hc => ?_, List.pairwise_singleton _ _⟩
    · rw [get_start]
      simp [Sweep.start]
    · simp [get_start]
    · simp [get_start] at hc
  · simp
  · intro c hc p hp v w hv hw
    rw [List.mem_singleton.1 hc] at hv
    rw [hv.unique best_nil]
    exact courseKey_nil_lt w 0
  · simpa [Sweep.start] using Ne.symm ht

/-- A position whose best course comes before that of the front of the frontier has been looked
around: in the frontier it would be the front itself, or come after it. -/
theorem Swept.mem_done (h : b.Swept t done s) {rest : List Coord}
    (hf : s.frontier.toList = p :: rest) (hp : b.Best t t.source w p)
    (hc : b.Best t t.source v c) (met : c ∈ done ++ s.frontier.toList)
    (lt : courseKey v < courseKey w) : c ∈ done := by
  have sorted := h.charted.sorted
  rw [hf] at met sorted
  cases List.mem_append.1 met with
  | inl finished => exact finished
  | inr waiting =>
    cases List.mem_cons.1 waiting with
    | inl front =>
      subst front
      rw [hc.unique hp] at lt
      exact absurd lt (lt_irrefl _)
    | inr behind =>
      have before : b.Before t p c :=
        List.rel_of_pairwise_cons (List.pairwise_append.1 sorted).2.1 behind
      exact absurd lt (lt_asymm (before.key_lt hp hc))

/-- The positions met are those to which courses before the front of the frontier lead. -/
theorem Swept.complete (h : b.Swept t done s) {rest : List Coord}
    (hf : s.frontier.toList = p :: rest) (hw : b.Best t t.source w p) :
    b.Complete t (w ++ [0]) (done ++ s.frontier.toList) := by
  intro c
  constructor
  · intro hc
    obtain ⟨v, hv⟩ := h.charted.best hc
    exact ⟨v, hv.leads, h.near c hc p (by simp [hf]) v w hv hw⟩
  · intro ⟨v, hv, lt⟩
    induction v using List.reverseRecOn generalizing c with
    | nil =>
      cases hv
      exact h.charted.source_mem
    | append_singleton v i ih =>
      obtain ⟨e, he, hop⟩ := follow_snoc_eq_some_iff.1 hv
      have v_lt : courseKey v < courseKey w := by
        cases courseKey_append_lt_iff.1 lt with
        | inl lt => exact lt
        | inr last => exact absurd last.2 (Nat.not_lt_zero i)
      have met : e ∈ done ++ s.frontier.toList :=
        ih e he (v_lt.trans (courseKey_lt_append w 0))
      obtain ⟨m, hm⟩ := h.charted.best met
      have m_lt : courseKey m < courseKey w := lt_of_le_of_lt (hm.least v he) v_lt
      exact h.closed e (h.mem_done hf hw hm met m_lt) i c hop

/-- With nothing left to look around, every position that can be reached has been met. -/
theorem Swept.met_of_frontier_nil (h : b.Swept t done s) (hf : s.frontier.toList = [])
    (hv : b.follow t t.source v = some c) : c ∈ done := by
  have all_done : done ++ s.frontier.toList = done := by rw [hf, List.append_nil]
  induction v using List.reverseRecOn generalizing c with
  | nil =>
    cases hv
    exact all_done ▸ h.charted.source_mem
  | append_singleton v i ih =>
    obtain ⟨e, he, hop⟩ := follow_snoc_eq_some_iff.1 hv
    exact all_done ▸ h.closed e (ih he) i c hop

theorem Swept.unreached (h : b.Swept t done s) (hf : s.frontier.toList = []) (w : List ℕ) :
    b.follow t t.source w ≠ some t.target := fun hw =>
  h.unmet (List.mem_append_left _ (h.met_of_frontier_nil hf hw))

/-- After a survey of all directions from `p`, the search has looked around `p` as well. -/
theorem Surveying.finish
    (h : b.Surveying t p w t.adjacency.degree (done ++ [p] ++ s.frontier.toList) s.marks) :
    b.Swept t (done ++ [p]) s := by
  have parts := List.pairwise_append.1 h.charted.sorted
  refine ⟨h.charted, fun c hc i d hop => ?_, fun c hc q hq v x hv hx => ?_, h.unmet⟩
  · obtain ⟨m, hm⟩ := h.charted.best (List.mem_append_left _ hc)
    have leads : b.follow t t.source (m ++ [i]) = some d :=
      follow_snoc_eq_some_iff.2 ⟨c, hm.leads, hop⟩
    refine (h.complete d).2 ⟨m ++ [i], leads, courseKey_append_lt_iff.2 ?_⟩
    cases List.mem_append.1 hc with
    | inl hc =>
      have before : b.Before t c p := (List.pairwise_append.1 parts.1).2.2 c hc p (by simp)
      exact Or.inl (before.key_lt hm h.best)
    | inr hc =>
      rw [List.mem_singleton.1 hc] at hm
      exact Or.inr ⟨hm.unique h.best, lt_degree_of_hop hop⟩
  · have before : b.Before t p q := parts.2.2 p (by simp) q hq
    calc courseKey v < courseKey (w ++ [t.adjacency.degree]) := h.complete.key_lt hc hv
      _ < courseKey (x ++ [0]) := courseKey_append_lt_iff.2 (Or.inl (before.key_lt h.best hx))

/-- A step either ends the search, with nothing left to look around or at the target, or it looks
around one more position. -/
theorem Swept.step (h : b.Swept t done s) :
    (b.step t s = .exhausted ∧ s.frontier.toList = []) ∨
    (∃ marks, b.step t s = .arrived marks ∧ b.Arrived t marks) ∨
    ∃ p s', b.step t s = .searching s' ∧ b.Swept t (done ++ [p]) s' := by
  cases hp : s.frontier.pop? with
  | none => exact Or.inl ⟨by simp [BreadthFirst.step, hp], Queue.pop?_eq_none_iff.1 hp⟩
  | some front =>
    obtain ⟨p, frontier⟩ := front
    have step_eq : b.step t s =
        b.survey t p (b.grid.neighboursWith p t.adjacency.candidates) { s with frontier } := by
      simp only [BreadthFirst.step, hp]
    have hf : s.frontier.toList = p :: frontier.toList := Queue.toList_of_pop? hp
    have mem : p ∈ done ++ s.frontier.toList := by simp [hf]
    obtain ⟨w, hw⟩ := h.charted.best mem
    have start : b.Surveying t p w 0 (done ++ s.frontier.toList) s.marks :=
      ⟨h.charted, h.complete hf hw, hw, mem, h.unmet⟩
    have result : b.Surveyed t p w (done ++ s.frontier.toList) frontier.toList (b.step t s) := by
      rw [step_eq]
      exact start.survey (s := { s with frontier }) (List.nil_append _).symm
    cases hr : b.step t s with
    | searching s' =>
      rw [hr] at result
      obtain ⟨new, hs', hf'⟩ := result
      have order_eq : done ++ s.frontier.toList ++ new = done ++ [p] ++ s'.frontier.toList := by
        rw [hf, hf']
        simp
      rw [order_eq] at hs'
      exact Or.inr (Or.inr ⟨p, s', rfl, hs'.finish⟩)
    | arrived marks =>
      rw [hr] at result
      exact Or.inr (Or.inl ⟨marks, rfl, result⟩)
    | exhausted =>
      rw [hr] at result
      exact result.elim

end GridWalk.BreadthFirst
