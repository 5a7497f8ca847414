import GridWalk.Proofs.Search.Ledger
import GridWalk.Proofs.Search.Trail
/-! The search ends on every grid, wherever its cells report to be. No slot enters the queue twice,
so the queue is served at most once for each slot; and each slot but the source was met from one
that was met before it, so the way back from the target ends at the source. -/
namespace GridWalk.BreadthFirst
variable {α : Type} [Cell α] {b : BreadthFirst α} {t : Trip} {c p : Coord}
  {done order : List Coord} {s : Sweep} {m : Ledger} {marks : Grid Mark} {cells : List α}
  {w : List ℕ} {i n : ℕ}

/-- Serving the queue by slot numbers has come out as a step of the search did, and without a
trap. -/
def Agrees (r : Except Trap (Option (Bool × Ledger))) : Progress → Prop
  | .searching s => ∃ m, r = .ok (some (false, m)) ∧ m.Shows s.marks ∧ m.queue = s.frontier
  | .arrived marks => ∃ m, r = .ok (some (true, m)) ∧ m.Shows marks
  | .exhausted => r = .ok none

/-- A cell that reports to be in the grid is passed over unless the search may step to it. -/
theorem passed_over_eq {a : α} (inside : Cell.coord a ∈ b.grid.frame) :
    ((marks.get? (Cell.coord a)).isSome || !decide (t.Allows (Cell.coord a)) || !b.passable a) =
      !decide (b.Admits t marks a) := by
  cases h : marks.get? (Cell.coord a) <;> simp [Admits, inside, h]

theorem scan_agrees (ht : t.target ∈ b.grid.frame) (hf : s.marks.frame = b.grid.frame)
    (hm : m.Shows s.marks) (hq : m.queue = s.frontier) :
    Agrees (some <$> b.scan t (b.grid.frame.index t.target) p cells m) (b.survey t p cells s) := by
  induction cells generalizing m s with
  | nil => exact ⟨m, rfl, hm, hq⟩
  | cons a rest ih =>
    rw [survey]
    by_cases inside : Cell.coord a ∈ b.grid.frame
    · have met := hm.visited (Cell.coord a) (by rwa [hf])
      rw [hf] at met
      rw [scan, Frame.index?_of_mem inside]
      simp only [load_eq_ok_iff.2 met, ok_bind, passed_over_eq inside]
      by_cases admits : b.Admits t s.marks a
      · rw [if_pos admits, if_neg (by simp [admits])]
        obtain ⟨m', marked, hq', he', shows, now_met⟩ :=
          hm.mark (c := Cell.coord a) (by rwa [hf]) p
        rw [hf] at marked now_met
        rw [marked, ok_bind]
        by_cases arrived : Cell.coord a = t.target
        · rw [if_pos arrived, if_pos (by rw [arrived])]
          exact ⟨m', rfl, shows⟩
        · have other : b.grid.frame.index (Cell.coord a) ≠ b.grid.frame.index t.target :=
            fun e => arrived (Frame.index_inj inside ht e)
          -- What has entered the queue had been met before, and this slot had not.
          have new : b.grid.frame.index (Cell.coord a) ∉ m'.entered := by
            intro old
            rw [he'] at old
            have was_met := hm.entered_met _ old
            rw [met, admits.2.1] at was_met
            cases was_met
          rw [if_neg arrived, if_neg other]
          exact ih hf (shows.enter new now_met _) (by rw [Ledger.enter, Sweep.push, hq', hq]; rfl)
      · rw [if_neg admits, if_pos (by simp [admits])]
        exact ih hf hm hq
    · rw [if_neg fun admits => inside admits.1, scan, Frame.index?, if_neg inside]
      exact ih hf hm hq

theorem serve_agrees (ht : t.target ∈ b.grid.frame) (hf : s.marks.frame = b.grid.frame)
    (hm : m.Shows s.marks) (hq : m.queue = s.frontier) :
    Agrees (b.serve t (b.grid.frame.index t.target) m) (b.step t s) := by
  rw [serve, step, hq]
  cases s.frontier.pop? with
  | none => exact rfl
  | some front =>
    exact scan_agrees (s := { s with frontier := front.2 }) ht hf (hm.set_queue front.2) rfl

/-- The outward loop ends by itself, after at most as many turns as there are slots still to be
served, and as the search does. -/
theorem Swept.seeks (h : b.Swept t done s) (ht : t.target ∈ b.grid.frame) (hm : m.Shows s.marks)
    (hq : m.queue = s.frontier) (hn : done.length + n = b.grid.size) :
    ∃ k found m' marks, k ≤ n ∧ b.Seeks t (b.grid.frame.index t.target) k m found m' ∧
      m'.Shows marks ∧ marks.frame = b.grid.frame ∧
      b.run t n s = if found then some marks else none := by
  induction n generalizing done s m with
  | zero =>
    -- As many positions have been served as there are slots, so that none is left in the queue.
    have room := h.charted.length_le
    rw [List.length_append] at room
    have hf : s.frontier.toList = [] := List.length_eq_zero_iff.1 (by omega)
    have agrees := serve_agrees ht h.charted.frame hm hq
    rw [BreadthFirst.step, Queue.pop?_eq_none_iff.2 hf] at agrees
    exact ⟨0, false, m, s.marks, Nat.le_refl 0, .dry agrees, hm, h.charted.frame, rfl⟩
  | succ n ih =>
    have agrees := serve_agrees ht h.charted.frame hm hq
    rw [BreadthFirst.run]
    cases h.step with
    | inl ended =>
      rw [ended.1] at agrees ⊢
      exact ⟨0, false, m, s.marks, Nat.zero_le _, .dry agrees, hm, h.charted.frame, rfl⟩
    | inr going =>
      cases going with
      | inl met =>
        obtain ⟨marks, hs, order, charted, -⟩ := met
        rw [hs] at agrees ⊢
        obtain ⟨m', served, shows⟩ := agrees
        exact ⟨1, true, m', marks, by omega, .met served, shows, charted.frame, rfl⟩
      | inr going =>
        obtain ⟨p, s', hs, h'⟩ := going
        rw [hs] at agrees ⊢
        obtain ⟨m', served, shows, hq'⟩ := agrees
        have hn' : (done ++ [p]).length + n = b.grid.size := by
          rw [List.length_append, List.length_singleton]
          omega
        obtain ⟨k, found, k', marks, le, rest, ended⟩ := ih h' shows hq' hn'
        exact ⟨k + 1, found, k', marks, by omega, .next served rest, ended⟩

/-- A position met on a course of some steps does not have the slot of the source. -/
theorem Charted.index_ne (h : b.Charted t order marks) (hw : b.Best t t.source (w ++ [i]) c)
    (hc : c ∈ order) : b.grid.frame.index c ≠ b.grid.frame.index t.source := by
  intro same
  rw [Frame.index_inj (h.mem_frame hc) (h.mem_frame h.source_mem) same] at hw
  exact absurd (hw.unique best_nil) (by simp)

theorem Charted.visited_eq (h : b.Charted t order marks) (hm : m.Shows marks) (hc : c ∈ order) :
    m.visited[b.grid.frame.index c]? = some true := by
  have met := hm.visited c (by rw [h.frame]; exact h.mem_frame hc)
  rwa [h.frame, Option.isSome_iff_ne_none.2 ((h.mem_order c).1 hc)] at met

theorem Charted.parent_eq (h : b.Charted t order marks) (hm : m.Shows marks) (hc : c ∈ order)
    (came : marks.get? c = some (.cameFrom p)) (hp : p ∈ order) :
    m.parent[b.grid.frame.index c]? = some (some (b.grid.frame.index p)) := by
  have from_parent := hm.parent c (by rw [h.frame]; exact h.mem_frame hc)
  rwa [came, h.frame, Option.bind_some, Mark.parent?,
    Frame.index?_of_mem (h.mem_frame hp)] at from_parent

/-- The parents lead back from a position met on course `w` in as many steps as the course has. -/
theorem Charted.leadsBack (h : b.Charted t order marks) (hm : m.Shows marks)
    (hw : b.Best t t.source w c) (hc : c ∈ order) :
    m.LeadsBack (b.grid.frame.index t.source) w.length (b.grid.frame.index c) := by
  induction w using List.reverseRecOn generalizing c with
  | nil =>
    cases hw.leads
    exact .source
  | append_singleton w i ih =>
    obtain ⟨p, came, hp, hw'⟩ := h.came_of_best hw hc
    rw [List.length_append, List.length_singleton]
    exact .step (h.index_ne hw hc) (h.visited_eq hm hc) (h.parent_eq hm hc came hp) (ih hw' hp)

theorem Charted.retrace (h : b.Charted t order marks) (out : List α) (hm : m.Shows marks)
    (hc : c ∈ order) (came : marks.get? c = some (.cameFrom p)) (hp : p ∈ order) :
    b.retrace m.parent (b.grid.frame.index c) out =
      .ok ((b.grid.get? c).map fun a => (b.grid.frame.index p, out ++ [a])) := by
  rw [BreadthFirst.retrace, load_eq_ok_iff.2 (h.parent_eq hm hc came hp),
    Frame.coordAt?_index (h.mem_frame hc), Option.bind_some, ok_bind]
  cases b.grid.get? c <;> rfl

/-- The way back from a position met on course `w` collects the trail, and takes no more steps than
the course has. -/
theorem Charted.unwinds (h : b.Charted t order marks) (out : List α) (hm : m.Shows marks)
    (hw : b.Best t t.source w c) (hc : c ∈ order) (hn : w.length < n) :
    ∃ k ≤ w.length,
      b.Unwinds m.parent (b.grid.frame.index t.source) k (b.grid.frame.index c) out
        (b.trail marks n c out.reverse) := by
  induction w using List.reverseRecOn generalizing c n out with
  | nil =>
    obtain ⟨n, rfl⟩ : ∃ k, n = k + 1 := ⟨n - 1, by omega⟩
    cases hw.leads
    rw [BreadthFirst.trail, (h.start_iff _).2 rfl]
    exact ⟨0, Nat.le_refl 0, .source⟩
  | append_singleton w i ih =>
    obtain ⟨n, rfl⟩ : ∃ k, n = k + 1 := ⟨n - 1, by omega⟩
    rw [List.length_append, List.length_singleton] at hn ⊢
    obtain ⟨p, came, hp, hw'⟩ := h.came_of_best hw hc
    have retraced := h.retrace out hm hc came hp
    have ne := h.index_ne hw hc
    rw [BreadthFirst.trail, came]
    cases ha : b.grid.get? c with
    | none =>
      rw [ha] at retraced
      exact ⟨1, by omega, .broken ne retraced⟩
    | some a =>
      rw [ha] at retraced
      have short : w.length < n := by omega
      obtain ⟨k, le, back⟩ := ih (out ++ [a]) hw' hp short
      rw [List.reverse_append, List.reverse_singleton, List.singleton_append] at back
      exact ⟨k + 1, by omega, .next ne retraced back⟩

/-- From a target that has been met the way back ends, with the trail collected. -/
theorem Arrived.unwinds (h : b.Arrived t marks) (hb : b.Begins t) (hm : m.Shows marks) :
    ∃ steps ≤ b.grid.size - 1,
      m.LeadsBack (b.grid.frame.index t.source) steps (b.grid.frame.index t.target) ∧
      ∃ back ≤ steps, b.Unwinds m.parent (b.grid.frame.index t.source) back
        (b.grid.frame.index t.target) [] (b.trail marks b.grid.size t.target []) := by
  obtain ⟨order, charted, met⟩ := h
  obtain ⟨w, hw⟩ := charted.best met
  have short := length_lt_size hb hw
  obtain ⟨back, le, unwinds⟩ := charted.unwinds [] hm hw met short
  exact ⟨w.length, by omega, charted.leadsBack hm hw met, back, le, unwinds⟩

def strewn : BreadthFirst Tile where
  grid :=
    (Grid.blank { width := 3, height := 1 } ⟨by decide, by decide, by decide, by decide⟩).recast
    fun c => some ⟨if c = ⟨1, 0⟩ then ⟨2, 0⟩ else ⟨7, 7⟩⟩

/-- On every grid the search by slot numbers comes to its end. It serves the queue at most once for
each slot, no slot enters the queue twice, and where it meets the target the parents lead back to
the source. -/
theorem findPath_ends (b : BreadthFirst α) (t : Trip) :
    (¬ b.Begins t → b.findPath t = []) ∧
    (b.Begins t → ∃ src dst m turns found k,
      b.grid.frame.index? t.source = some src ∧ b.grid.frame.index? t.target = some dst ∧
      Ledger.start b.grid.size src t.source = .ok m ∧
      b.Seeks t dst turns m found k ∧
      (∀ turns' found' k', b.Seeks t dst turns' m found' k' →
        turns' = turns ∧ found' = found ∧ k' = k) ∧
      turns ≤ b.grid.size ∧ k.Fits b.grid.size ∧
      (found = false → b.findPath t = []) ∧
      (found = true → ∃ steps ≤ b.grid.size - 1, k.LeadsBack src steps dst ∧
        ∃ back ≤ steps, b.Unwinds k.parent src back dst [] (b.findPath t) ∧
          ∀ back' path, b.Unwinds k.parent src back' dst [] path → path = b.findPath t)) := by
  refine ⟨fun idle => by rw [findPath, if_neg idle], fun hb => ?_⟩
  obtain ⟨ht, ne, occupied⟩ := id hb
  obtain ⟨a, ha⟩ := Option.isSome_iff_exists.1 occupied
  have hs : t.source ∈ b.grid.frame := Grid.mem_of_get? ha
  obtain ⟨m, started, hq, shows⟩ := Ledger.Shows.start b.grid.valid hs
  obtain ⟨turns, found, k, marks, le, seeks, shows', frame_eq, ran⟩ :=
    (Swept.start hs ne).seeks ht shows hq (Nat.zero_add _)
  have size_eq : marks.size = b.grid.size := congrArg Frame.area frame_eq
  have fits := shows'.fits
  rw [size_eq] at fits
  refine ⟨_, _, m, turns, found, k, Frame.index?_of_mem hs, Frame.index?_of_mem ht, started,
    seeks, fun turns' found' k' other => seeks.unique other, le, fits, fun lost => ?_,
    fun met => ?_⟩
  · rw [lost] at ran
    rw [findPath, if_pos hb, ran]
    rfl
  · rw [met, if_pos rfl] at ran
    cases run_start hb with
    | inr ended =>
      rw [ended.1] at ran
      cases ran
    | inl arrived =>
      obtain ⟨marks', ran', arrived⟩ := arrived
      rw [ran] at ran'
      cases ran'
      have found_eq : b.findPath t = b.trail marks b.grid.size t.target [] := by
        rw [findPath, if_pos hb, ran]
      obtain ⟨steps, short, leads, back, back_le, unwinds⟩ := arrived.unwinds hb shows'
      rw [← found_eq] at unwinds
      exact ⟨steps, short, leads, back, back_le, unwinds,
        fun back' path other => (unwinds.unique other).2⟩

/-- The cell beside the source reports to be at the target, where the cell in turn reports to be
nowhere. -/
theorem strewn_ends :
    strewn.findPath { source := ⟨0, 0⟩, target := ⟨2, 0⟩ } = [⟨⟨7, 7⟩⟩] ∧
    ∃ (k : Ledger) (steps : ℕ), k.Fits 3 ∧ steps ≤ 2 ∧ k.LeadsBack 0 steps 2 ∧
      ∃ back, strewn.Unwinds k.parent 0 back 2 [] [⟨⟨7, 7⟩⟩] := by
  have returned :
      strewn.findPath { source := ⟨0, 0⟩, target := ⟨2, 0⟩ } = [⟨⟨7, 7⟩⟩] := by
    decide +kernel
  obtain ⟨src, dst, m, turns, found, k, hsrc, hdst, -, -, -, -, fits, lost, met⟩ :=
    (findPath_ends strewn { source := ⟨0, 0⟩, target := ⟨2, 0⟩ }).2 (by decide +kernel)
  cases hsrc
  cases hdst
  cases found with
  | false =>
    rw [lost rfl] at returned
    cases returned
  | true =>
    obtain ⟨steps, le, leads, back, -, unwinds, -⟩ := met rfl
    rw [returned] at unwinds
    exact ⟨returned, k, steps, fits, le, leads, back, unwinds⟩

end GridWalk.BreadthFirst
