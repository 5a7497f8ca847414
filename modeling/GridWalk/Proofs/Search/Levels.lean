import Mathlib.Data.ENat.Lattice
import Mathlib.Logic.Relation
import GridWalk.Proofs.Search.Separation
import GridWalk.Proofs.Search.Termination
/-! The levels of a search. A position is as deep as the fewest steps that lead to it. Whenever the
queue is about to be served, it holds positions of at most two depths, one after the other; whatever
is no deeper than its front has been met; and the parents lead back from each slot that has been met
in as many steps as it is deep. -/
namespace GridWalk.BreadthFirst
variable {α : Type}

inductive Reaches (b : BreadthFirst α) (t : Trip) : Coord → ℕ → Prop where
  | source : b.Reaches t t.source 0
  | step {c d : Coord} {n : ℕ} (rest : b.Reaches t c n) (adjacent : t.adjacency.Adjacent c d)
      (clear : b.Clear t d) : b.Reaches t d (n + 1)

/-- The fewest steps that lead from the source to `c`, infinite where none do. -/
noncomputable def depth (b : BreadthFirst α) (t : Trip) (c : Coord) : ℕ∞ :=
  ⨅ (n : ℕ) (_ : b.Reaches t c n), (n : ℕ∞)

variable [Cell α] {b : BreadthFirst α} {t : Trip} {c d : Coord} {done : List Coord} {s s' : Sweep}
  {m m' : Ledger} {v w : List ℕ} {i n dst : ℕ}

section
variable (hg : b.grid.Positional)
include hg

theorem reaches_iff :
    b.Reaches t c n ↔ ∃ w, w.length = n ∧ b.follow t t.source w = some c := by
  constructor
  · intro reaches
    induction reaches with
    | source => exact ⟨[], rfl, rfl⟩
    | step rest adjacent clear ih =>
      obtain ⟨w, length_eq, leads⟩ := ih
      exact ⟨w ++ [_], by simp [length_eq],
        follow_snoc_eq_some_iff.2 ⟨_, leads, hop_of_adjacent hg adjacent clear⟩⟩
  · intro ⟨w, length_eq, leads⟩
    subst length_eq
    induction w using List.reverseRecOn generalizing c with
    | nil =>
      cases leads
      exact .source
    | append_singleton w i ih =>
      obtain ⟨d, before, hop⟩ := follow_snoc_eq_some_iff.1 leads
      rw [List.length_append, List.length_singleton]
      exact .step (ih before) (adjacent_of_hop hg hop) ((hop_iff_clear hg).1 hop).2

/-- A best course is as long as the position it leads to is deep. -/
theorem Best.depth_eq (h : b.Best t t.source w c) : b.depth t c = w.length := by
  refine le_antisymm (iInf₂_le _ ((reaches_iff hg).2 ⟨w, rfl, h.leads⟩))
    (le_iInf₂ fun n reaches => ?_)
  obtain ⟨v, length_eq, leads⟩ := (reaches_iff hg).1 reaches
  rw [← length_eq, Nat.cast_le]
  exact h.length_le leads

theorem exists_follow_of_depth_le (h : b.depth t c ≤ n) :
    ∃ v, v.length ≤ n ∧ b.follow t t.source v = some c := by
  have below : b.depth t c < (n + 1 : ℕ) := lt_of_le_of_lt h (Nat.cast_lt.2 (Nat.lt_succ_self n))
  simp only [depth, iInf_lt_iff] at below
  obtain ⟨k, reaches, lt⟩ := below
  obtain ⟨v, length_eq, leads⟩ := (reaches_iff hg).1 reaches
  exact ⟨v, length_eq ▸ Nat.le_of_lt_succ (Nat.cast_lt.1 lt), leads⟩

theorem Before.depth_le (h : b.Before t c d) : b.depth t c ≤ b.depth t d := by
  obtain ⟨u, v, hu, hv, lt⟩ := h
  rw [courseKey_lt_iff] at lt
  rw [hu.depth_eq hg, hv.depth_eq hg, Nat.cast_le]
  omega

end

/-- What the tables and the queue hold of the depths. From front to back the queue gets no
shallower, and nowhere deeper than its front by more than one; its positions have been met, and so
has every slot no deeper than its front. From a slot that has been met the parents lead back to the
source in as many steps as it is deep, each to a slot less deep by one. The target has not been
met. -/
structure Levelled (b : BreadthFirst α) (t : Trip) (src dst : ℕ) (m : Ledger) : Prop where
  rising : m.queue.toList.Pairwise fun c d => b.depth t c ≤ b.depth t d
  narrow : ∀ c ∈ m.queue.toList.head?, ∀ d ∈ m.queue.toList, b.depth t d ≤ b.depth t c + 1
  queued : ∀ c ∈ m.queue.toList, m.visited[b.grid.frame.index c]? = some true
  filled : ∀ c ∈ m.queue.toList.head?, ∀ i < b.grid.size,
    b.depth t (b.grid.frame.coordAt i) ≤ b.depth t c → m.visited[i]? = some true
  led : ∀ i, m.visited[i]? = some true →
    ∃ n : ℕ, b.depth t (b.grid.frame.coordAt i) = n ∧ m.LeadsBack src n i
  falling : ∀ i, m.visited[i]? = some true → i ≠ src →
    ∃ p, m.parent[i]? = some (some p) ∧
    m.visited[p]? = some true ∧
    b.depth t (b.grid.frame.coordAt p) + 1 = b.depth t (b.grid.frame.coordAt i)
  unmet : m.visited[dst]? = some false

/-- A slot that the tables say has been met is that of a position which the search has met. -/
theorem Charted.exists_of_visited {order : List Coord} {marks : Grid Mark}
    (h : b.Charted t order marks) (hm : m.Shows marks) (met : m.visited[i]? = some true) :
    ∃ c ∈ order, b.grid.frame.index c = i ∧ b.grid.frame.coordAt i = c := by
  have below : i < b.grid.frame.area := by
    rw [← h.frame, ← show m.visited.size = marks.frame.area from hm.visited_size]
    exact (Array.getElem?_eq_some_iff.1 met).1
  have inside := Frame.coordAt_mem b.grid.valid below
  have index_eq := Frame.index_coordAt b.grid.valid below
  have marked := hm.visited (b.grid.frame.coordAt i) (by rwa [h.frame])
  rw [h.frame, index_eq, met, Option.some.injEq, eq_comm, Option.isSome_iff_ne_none,
    ← h.mem_order] at marked
  exact ⟨_, marked, index_eq, rfl⟩

/-- Between two steps of a search the tables and the queue have the depths right. -/
theorem Swept.levelled (h : b.Swept t done s) (hg : b.grid.Positional)
    (ht : t.target ∈ b.grid.frame) (hm : m.Shows s.marks) (hq : m.queue = s.frontier) :
    b.Levelled t (b.grid.frame.index t.source) (b.grid.frame.index t.target) m := by
  have met_of_queued (c : Coord) (hc : c ∈ s.frontier.toList) : c ∈ done ++ s.frontier.toList :=
    List.mem_append_right _ hc
  constructor
  case rising =>
    rw [hq]
    exact (List.pairwise_append.1 h.charted.sorted).2.1.imp fun before => before.depth_le hg
  case narrow =>
    intro c hc d hd
    rw [hq] at hc hd
    have front := List.mem_of_mem_head? hc
    obtain ⟨w, hw⟩ := h.charted.best (met_of_queued c front)
    obtain ⟨v, hv⟩ := h.charted.best (met_of_queued d hd)
    have near := h.near d (met_of_queued d hd) c front v w hv hw
    rw [courseKey_lt_iff, List.length_append, List.length_singleton] at near
    rw [hw.depth_eq hg, hv.depth_eq hg, ← Nat.cast_succ, Nat.cast_le]
    omega
  case queued =>
    intro c hc
    rw [hq] at hc
    exact h.charted.visited_eq hm (met_of_queued c hc)
  case filled =>
    intro c hc i hi shallow
    rw [hq] at hc
    obtain ⟨w, hw⟩ := h.charted.best (met_of_queued c (List.mem_of_mem_head? hc))
    obtain ⟨rest, hf⟩ := List.head?_eq_some_iff.1 hc
    rw [hw.depth_eq hg] at shallow
    obtain ⟨v, le, leads⟩ := exists_follow_of_depth_le hg shallow
    -- No longer than the best course to the front, `v` comes before all those that go on from it.
    have before : courseKey v < courseKey (w ++ [0]) := by
      rw [courseKey_lt_iff, List.length_append, List.length_singleton]
      exact Or.inl (Nat.lt_succ_of_le le)
    rw [← Frame.index_coordAt b.grid.valid hi]
    exact h.charted.visited_eq hm ((h.complete hf hw _).2 ⟨v, leads, before⟩)
  case led =>
    intro i met
    obtain ⟨c, hc, index_eq, coord_eq⟩ := h.charted.exists_of_visited hm met
    obtain ⟨w, hw⟩ := h.charted.best hc
    rw [coord_eq, ← index_eq]
    exact ⟨w.length, hw.depth_eq hg, h.charted.leadsBack hm hw hc⟩
  case falling =>
    intro i met elsewhere
    obtain ⟨c, hc, index_eq, coord_eq⟩ := h.charted.exists_of_visited hm met
    obtain ⟨w, hw⟩ := h.charted.best hc
    cases w using List.reverseRecOn with
    | nil =>
      cases hw.leads
      exact absurd index_eq.symm elsewhere
    | append_singleton w j =>
      obtain ⟨p, came, hp, hw'⟩ := h.charted.came_of_best hw hc
      rw [coord_eq, ← index_eq]
      refine ⟨_, h.charted.parent_eq hm hc came hp, h.charted.visited_eq hm hp, ?_⟩
      rw [Frame.coordAt_index (h.charted.mem_frame hp), hw.depth_eq hg, hw'.depth_eq hg,
        List.length_append, List.length_singleton, Nat.cast_succ]
  case unmet =>
    have marked := hm.visited t.target (by rwa [h.charted.frame])
    have new : s.marks.get? t.target = none := by
      by_contra met
      exact h.unmet ((h.charted.mem_order _).2 met)
    rwa [new, h.charted.frame] at marked

/-- The loop comes round: the queue has been served, and the target has not been met. -/
def Turn (b : BreadthFirst α) (t : Trip) (dst : ℕ) (m m' : Ledger) : Prop :=
  b.serve t dst m = .ok (some (false, m'))

def Advance (b : BreadthFirst α) (t : Trip) (s s' : Sweep) : Prop := b.step t s = .searching s'

structure Records (b : BreadthFirst α) (t : Trip) (m : Ledger) (s : Sweep) : Prop where
  swept : ∃ done, b.Swept t done s
  shows : m.Shows s.marks
  queue_eq : m.queue = s.frontier

/-- Where serving the queue has not met the target, the step of the search has not ended it. -/
theorem Agrees.searching {r : Progress} (h : Agrees (.ok (some (false, m))) r) :
    ∃ s, r = .searching s ∧ m.Shows s.marks ∧ m.queue = s.frontier := by
  cases r with
  | searching s =>
    obtain ⟨k, same, shows, queue_eq⟩ := h
    cases same
    exact ⟨s, rfl, shows, queue_eq⟩
  | arrived marks =>
    obtain ⟨k, other, -⟩ := h
    cases other
  | exhausted => cases h

theorem Swept.advance (h : b.Swept t done s) (advances : b.Advance t s s') :
    ∃ done', b.Swept t done' s' := by
  rw [Advance] at advances
  cases h.step with
  | inl ended => simp [ended.1] at advances
  | inr going =>
    cases going with
    | inl met =>
      obtain ⟨marks, arrived, -⟩ := met
      simp [arrived] at advances
    | inr going =>
      obtain ⟨p, s'', searching, swept⟩ := going
      rw [searching, Progress.searching.injEq] at advances
      exact ⟨_, advances ▸ swept⟩

theorem Records.agrees (h : b.Records t m s) (ht : t.target ∈ b.grid.frame) :
    Agrees (b.serve t (b.grid.frame.index t.target) m) (b.step t s) := by
  obtain ⟨done, swept⟩ := h.swept
  exact serve_agrees ht swept.charted.frame h.shows h.queue_eq

theorem Records.of_advance (h : b.Records t m s) (ht : t.target ∈ b.grid.frame)
    (advances : b.Advance t s s') :
    ∃ m', b.Turn t (b.grid.frame.index t.target) m m' ∧ b.Records t m' s' := by
  obtain ⟨done, swept⟩ := h.swept
  have agrees := h.agrees ht
  rw [show b.step t s = .searching s' from advances] at agrees
  obtain ⟨m', turns, shows, queue_eq⟩ := agrees
  exact ⟨m', turns, swept.advance advances, shows, queue_eq⟩

theorem Records.of_turn (h : b.Records t m s) (ht : t.target ∈ b.grid.frame)
    (turns : b.Turn t (b.grid.frame.index t.target) m m') :
    ∃ s', b.Advance t s s' ∧ b.Records t m' s' := by
  obtain ⟨done, swept⟩ := h.swept
  have agrees := h.agrees ht
  rw [show b.serve t _ m = _ from turns] at agrees
  obtain ⟨s', advances, shows, queue_eq⟩ := agrees.searching
  exact ⟨s', advances, swept.advance advances, shows, queue_eq⟩

theorem Records.start (hb : b.Begins t) :
    ∃ m, Ledger.start b.grid.size (b.grid.frame.index t.source) t.source = .ok m ∧
      b.Records t m (.start b.grid.frame b.grid.valid t.source) := by
  obtain ⟨m, started, queue_eq, shows⟩ := Ledger.Shows.start b.grid.valid hb.source_mem
  exact ⟨m, started, ⟨[], .start hb.source_mem hb.2.1⟩, shows, queue_eq⟩

/-- However often the loop has come round, the ledger is that of the search after as many steps. -/
theorem Records.of_turns (h : b.Records t m s) (ht : t.target ∈ b.grid.frame)
    (turns : Relation.ReflTransGen (b.Turn t (b.grid.frame.index t.target)) m m') :
    ∃ s', b.Records t m' s' := by
  induction turns with
  | refl => exact ⟨s, h⟩
  | tail _ turn ih =>
    obtain ⟨s', records⟩ := ih
    obtain ⟨s'', -, next⟩ := records.of_turn ht turn
    exact ⟨s'', next⟩

theorem Records.of_advances (h : b.Records t m s) (ht : t.target ∈ b.grid.frame)
    (advances : Relation.ReflTransGen (b.Advance t) s s') :
    ∃ m', Relation.ReflTransGen (b.Turn t (b.grid.frame.index t.target)) m m' ∧
      b.Records t m' s' := by
  induction advances with
  | refl => exact ⟨m, .refl, h⟩
  | tail _ advance ih =>
    obtain ⟨m', turns, records⟩ := ih
    obtain ⟨m'', turn, next⟩ := records.of_advance ht advance
    exact ⟨m'', turns.tail turn, next⟩

/-- On a positional grid the depths are right whenever the queue is about to be served; and each
state that the search passes through is that of a ledger whose queue is about to be served. -/
theorem levelled_at_each_turn (b : BreadthFirst α) (hg : b.grid.Positional) (t : Trip)
    (hb : b.Begins t) :
    ∃ src dst m, b.grid.frame.index? t.source = some src ∧
      b.grid.frame.index? t.target = some dst ∧
      Ledger.start b.grid.size src t.source = .ok m ∧
      (∀ k, Relation.ReflTransGen (b.Turn t dst) m k → b.Levelled t src dst k) ∧
      ∀ s, Relation.ReflTransGen (b.Advance t) (.start b.grid.frame b.grid.valid t.source) s →
        ∃ k, Relation.ReflTransGen (b.Turn t dst) m k ∧ k.Shows s.marks ∧
          k.queue = s.frontier := by
  obtain ⟨m, started, records⟩ := Records.start hb
  refine ⟨_, _, m, Frame.index?_of_mem hb.source_mem, Frame.index?_of_mem hb.1, started,
    fun k turns => ?_, fun s advances => ?_⟩
  · obtain ⟨s, ⟨done, swept⟩, shows, queue_eq⟩ := records.of_turns hb.1 turns
    exact swept.levelled hg hb.1 shows queue_eq
  · obtain ⟨k, turns, reached⟩ := records.of_advances hb.1 advances
    exact ⟨k, turns, reached.shows, reached.queue_eq⟩

def servedOnce : Ledger where
  visited := #[true, true, false, true, false, false, false, false, false]
  parent := #[none, some 0, none, some 0, none, none, none, none, none]
  queue := ⟨[], [⟨0, 1⟩, ⟨1, 0⟩]⟩
  entered := [0, 1, 3]

def servedTwice : Ledger where
  visited := #[true, true, false, true, false, true, false, false, false]
  parent := #[none, some 0, none, some 0, none, some 1, none, none, none]
  queue := ⟨[⟨0, 1⟩], [⟨2, 1⟩]⟩
  entered := [0, 1, 3, 5]

/-- Served twice in the courtyard, the queue holds one position a step away from the source and one
two steps away, and the parents lead back from the latter by way of the slot beside the source. -/
theorem crossing_levelled :
    courtyard.Positional ∧ (aroundWalls courtyard).Begins (crossing .eight) ∧
    ∃ m, Ledger.start 9 0 ⟨0, 0⟩ = .ok m ∧
      Relation.ReflTransGen ((aroundWalls courtyard).Turn (crossing .eight) 8) m servedTwice ∧
      servedTwice.queue.toList = [⟨0, 1⟩, ⟨2, 1⟩] ∧
      (aroundWalls courtyard).Levelled (crossing .eight) 0 8 servedTwice ∧
      (aroundWalls courtyard).depth (crossing .eight) ⟨2, 1⟩ = 2 := by
  have begins : (aroundWalls courtyard).Begins (crossing .eight) := by decide +kernel
  obtain ⟨src, dst, m, source, target, started, levelled, -⟩ :=
    levelled_at_each_turn (aroundWalls courtyard) positional_courtyard (crossing .eight) begins
  cases source
  cases target
  have first : (aroundWalls courtyard).Turn (crossing .eight) 8 m servedOnce := by
    cases started
    rfl
  have second : (aroundWalls courtyard).Turn (crossing .eight) 8 servedOnce servedTwice := rfl
  have turns := (Relation.ReflTransGen.single first).tail second
  have level := levelled servedTwice turns
  obtain ⟨n, deep, back⟩ := level.led 5 rfl
  have two_steps : n = 2 := by
    cases back with
    | step _ _ from_parent rest =>
      cases from_parent
      cases rest with
      | step _ _ from_parent rest =>
        cases from_parent
        cases rest with
        | source => rfl
        | step ne => exact absurd rfl ne
  rw [two_steps] at deep
  exact ⟨positional_courtyard, begins, m, started, turns, rfl, level, deep⟩

end GridWalk.BreadthFirst
