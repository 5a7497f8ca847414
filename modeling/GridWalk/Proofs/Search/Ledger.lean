import GridWalk.Proofs.Grid.Frame
import GridWalk.Proofs.Trap
import GridWalk.Search.BreadthFirst
/-! The search by slot numbers: tables of the slots met and of where each was met from, a queue, and
two loops, out from the source and back from the target, that nothing bounds. A loop that looks for
a slot which the tables do not have does not come to an end. -/
namespace GridWalk

/-- What the search writes down of the slots. The slots that have entered the queue are kept for the
record; no step depends on them. -/
structure Ledger where
  visited : Array Bool
  parent : Array (Option Nat)
  queue : Queue Coord
  entered : List Nat

namespace Ledger

def start (size src : Nat) (source : Coord) : Except Trap Ledger := do
  let visited ← store (Array.replicate size false) src true
  return ⟨visited, Array.replicate size none, .singleton source, [src]⟩

def mark (m : Ledger) (i : Nat) (prev : Option Nat) : Except Trap Ledger := do
  let visited ← store m.visited i true
  let parent ← store m.parent i prev
  return { m with visited, parent }

def enter (m : Ledger) (i : Nat) (c : Coord) : Ledger :=
  { m with queue := m.queue.push c, entered := m.entered ++ [i] }

structure Fits (m : Ledger) (size : Nat) : Prop where
  visited_size : m.visited.size = size
  parent_size : m.parent.size = size
  nodup : m.entered.Nodup
  entered_lt : ∀ i ∈ m.entered, i < size

inductive LeadsBack (m : Ledger) (src : Nat) : Nat → Nat → Prop where
  | source : m.LeadsBack src 0 src
  | step {i p n : Nat} (ne : i ≠ src) (met : m.visited[i]? = some true)
      (from_parent : m.parent[i]? = some (some p)) (rest : m.LeadsBack src n p) :
      m.LeadsBack src (n + 1) i

end Ledger

namespace BreadthFirst
variable {α : Type}

section
variable [Cell α]

def scan (b : BreadthFirst α) (t : Trip) (dst : Nat) (prev : Coord) :
    List α → Ledger → Except Trap (Bool × Ledger)
  | [], m => return (false, m)
  | a :: rest, m =>
    match b.grid.frame.index? (Cell.coord a) with
    | none => b.scan t dst prev rest m
    | some i => do
      if (← load m.visited i) || ! decide (t.Allows (Cell.coord a)) || ! b.passable a then
        b.scan t dst prev rest m
      else
        let m ← m.mark i (b.grid.frame.index? prev)
        if i = dst then return (true, m) else b.scan t dst prev rest (m.enter i (Cell.coord a))

def serve (b : BreadthFirst α) (t : Trip) (dst : Nat) (m : Ledger) :
    Except Trap (Option (Bool × Ledger)) :=
  match m.queue.pop? with
  | none => return none
  | some (c, queue) =>
    some <$> b.scan t dst c (b.grid.neighboursWith c t.adjacency.candidates) { m with queue }

inductive Seeks (b : BreadthFirst α) (t : Trip) (dst : Nat) :
    Nat → Ledger → Bool → Ledger → Prop where
  | dry {m : Ledger} (h : b.serve t dst m = .ok none) : b.Seeks t dst 0 m false m
  | met {m k : Ledger} (h : b.serve t dst m = .ok (some (true, k))) : b.Seeks t dst 1 m true k
  | next {n : Nat} {m m' k : Ledger} {found : Bool} (h : b.serve t dst m = .ok (some (false, m')))
      (rest : b.Seeks t dst n m' found k) : b.Seeks t dst (n + 1) m found k

/-- There is only one way to serve the queue to its end. -/
theorem Seeks.unique {b : BreadthFirst α} {t : Trip} {dst n n' : Nat} {m k k' : Ledger}
    {found found' : Bool} (h : b.Seeks t dst n m found k) (h' : b.Seeks t dst n' m found' k') :
    n' = n ∧ found' = found ∧ k' = k := by
  induction h generalizing n' with
  | dry served =>
    cases h' with
    | dry => exact ⟨rfl, rfl, rfl⟩
    | met served' => simp [served] at served'
    | next served' => simp [served] at served'
  | met served =>
    cases h' with
    | dry served' => simp [served] at served'
    | met served' =>
      rw [served] at served'
      cases served'
      exact ⟨rfl, rfl, rfl⟩
    | next served' => simp [served] at served'
  | next served rest ih =>
    cases h' with
    | dry served' => simp [served] at served'
    | met served' => simp [served] at served'
    | next served' rest' =>
      rw [served] at served'
      cases served'
      obtain ⟨rfl, rfl, rfl⟩ := ih rest'
      exact ⟨rfl, rfl, rfl⟩

end

def retrace (b : BreadthFirst α) (parent : Array (Option Nat)) (i : Nat) (out : List α) :
    Except Trap (Option (Nat × List α)) := do
  match (b.grid.frame.coordAt? i).bind b.grid.get?, ← load parent i with
  | some a, some p => return some (p, out ++ [a])
  | _, _ => return none

inductive Unwinds (b : BreadthFirst α) (parent : Array (Option Nat)) (src : Nat) :
    Nat → Nat → List α → List α → Prop where
  | source {out : List α} : b.Unwinds parent src 0 src out out.reverse
  | broken {i : Nat} {out : List α} (ne : i ≠ src) (h : b.retrace parent i out = .ok none) :
      b.Unwinds parent src 1 i out []
  | next {n i p : Nat} {out out' path : List α} (ne : i ≠ src)
      (h : b.retrace parent i out = .ok (some (p, out')))
      (rest : b.Unwinds parent src n p out' path) :
      b.Unwinds parent src (n + 1) i out path

/-- There is only one way back. -/
theorem Unwinds.unique {b : BreadthFirst α} {parent : Array (Option Nat)} {src n n' i : Nat}
    {out path path' : List α} (h : b.Unwinds parent src n i out path)
    (h' : b.Unwinds parent src n' i out path') : n' = n ∧ path' = path := by
  induction h generalizing n' with
  | source =>
    cases h' with
    | source => exact ⟨rfl, rfl⟩
    | broken ne => exact absurd rfl ne
    | next ne => exact absurd rfl ne
  | broken ne stopped =>
    cases h' with
    | source => exact absurd rfl ne
    | broken => exact ⟨rfl, rfl⟩
    | next _ went => simp [stopped] at went
  | next ne went rest ih =>
    cases h' with
    | source => exact absurd rfl ne
    | broken _ stopped => simp [went] at stopped
    | next _ went' rest' =>
      rw [went] at went'
      cases went'
      obtain ⟨rfl, rfl⟩ := ih rest'
      exact ⟨rfl, rfl⟩

end BreadthFirst

namespace Frame
variable {β : Type} {f : Frame} {c d : Coord}

theorem getElem?_replicate_index (hc : c ∈ f) (v : β) :
    (Array.replicate f.area v)[f.index c]? = some v := by
  rw [Array.getElem?_replicate, if_pos (index_lt_area hc)]

theorem getElem?_set_index {xs : Array β} (hc : c ∈ f) (hd : d ∈ f)
    (fits : f.index c < xs.size) (v : β) :
    (xs.set (f.index c) v)[f.index d]? = if d = c then some v else xs[f.index d]? := by
  rw [Array.getElem?_set]
  by_cases e : d = c
  · rw [e, if_pos rfl, if_pos rfl]
  · rw [if_neg e, if_neg fun same => e (index_inj hd hc same.symm)]

end Frame

def Mark.parent? (f : Frame) : Mark → Option Nat
  | .start => none
  | .cameFrom prev => f.index? prev

structure Ledger.Shows (m : Ledger) (marks : Grid Mark) : Prop where
  visited_size : m.visited.size = marks.size
  parent_size : m.parent.size = marks.size
  visited : ∀ c ∈ marks.frame, m.visited[marks.frame.index c]? = some (marks.get? c).isSome
  parent : ∀ c ∈ marks.frame,
    m.parent[marks.frame.index c]? = some ((marks.get? c).bind (Mark.parent? marks.frame))
  nodup : m.entered.Nodup
  entered_met : ∀ i ∈ m.entered, m.visited[i]? = some true

namespace Ledger
variable {m : Ledger} {marks : Grid Mark} {s : Sweep} {c prev : Coord} {f : Frame}

theorem Shows.fits (h : m.Shows marks) : m.Fits marks.size := by
  refine ⟨h.visited_size, h.parent_size, h.nodup, fun i hi => ?_⟩
  rw [← h.visited_size]
  exact (Array.getElem?_eq_some_iff.1 (h.entered_met i hi)).1

theorem Shows.set_queue (h : m.Shows marks) (q : Queue Coord) : { m with queue := q }.Shows marks :=
  ⟨h.visited_size, h.parent_size, h.visited, h.parent, h.nodup, h.entered_met⟩

theorem Shows.start (h : f.Valid) {source : Coord} (hs : source ∈ f) :
    ∃ m, Ledger.start f.area (f.index source) source = .ok m ∧ m.queue = .singleton source ∧
      m.Shows (Sweep.start f h source).marks := by
  have below : f.index source < f.area := Frame.index_lt_area hs
  have fits : f.index source < (Array.replicate f.area false).size := by rwa [Array.size_replicate]
  have get_start (c : Coord) :
      (Sweep.start f h source).marks.get? c = if c = source then some .start else none :=
    Sweep.get?_marks_start h hs
  refine ⟨⟨(Array.replicate f.area false).set (f.index source) true,
    Array.replicate f.area none, .singleton source, [f.index source]⟩, ?_, rfl, ?_⟩
  · rw [Ledger.start, store_of_lt fits]
    rfl
  · constructor
    · rw [Array.size_set, Array.size_replicate]
      rfl
    · rw [Array.size_replicate]
      rfl
    · intro c hc
      rw [get_start]
      refine (Frame.getElem?_set_index hs hc fits true).trans ?_
      rw [Frame.getElem?_replicate_index (by exact hc)]
      split <;> rfl
    · intro c hc
      rw [get_start]
      refine (Frame.getElem?_replicate_index hc none).trans ?_
      split <;> rfl
    · exact List.nodup_singleton _
    · intro i hi
      rw [List.mem_singleton.1 hi, Array.getElem?_set_self fits]

/-- Writing down where a slot was met from. -/
theorem Shows.mark (h : m.Shows s.marks) (hc : c ∈ s.marks.frame) (prev : Coord) :
    ∃ m', m.mark (s.marks.frame.index c) (s.marks.frame.index? prev) = .ok m' ∧
      m'.queue = m.queue ∧ m'.entered = m.entered ∧ m'.Shows (s.mark prev c).marks ∧
      m'.visited[s.marks.frame.index c]? = some true := by
  have below : s.marks.frame.index c < s.marks.size := Frame.index_lt_area hc
  have visited_fits : s.marks.frame.index c < m.visited.size := by rwa [h.visited_size]
  have parent_fits : s.marks.frame.index c < m.parent.size := by rwa [h.parent_size]
  have get_mark (d : Coord) : (s.mark prev c).marks.get? d =
      if d = c then some (.cameFrom prev) else s.marks.get? d := Sweep.get?_marks_mark hc
  refine ⟨{ m with
      visited := m.visited.set (s.marks.frame.index c) true
      parent := m.parent.set (s.marks.frame.index c) (s.marks.frame.index? prev) },
    ?_, rfl, rfl, ?_, Array.getElem?_set_self visited_fits⟩
  · rw [Ledger.mark, store_of_lt visited_fits, ok_bind, store_of_lt parent_fits]
    rfl
  · constructor
    · rw [Array.size_set, h.visited_size]
      rfl
    · rw [Array.size_set, h.parent_size]
      rfl
    · intro d hd
      rw [get_mark]
      refine (Frame.getElem?_set_index hc hd visited_fits true).trans ?_
      rw [h.visited d hd]
      split <;> rfl
    · intro d hd
      rw [get_mark]
      refine (Frame.getElem?_set_index hc hd parent_fits _).trans ?_
      rw [h.parent d hd]
      split <;> rfl
    · exact h.nodup
    · intro i hi
      rw [Array.getElem?_set]
      split
      · rfl
      · exact h.entered_met i hi

/-- A slot enters the queue when it is met, and never again. -/
theorem Shows.enter {i : Nat} (h : m.Shows marks) (new : i ∉ m.entered)
    (met : m.visited[i]? = some true) (c : Coord) : (m.enter i c).Shows marks := by
  refine ⟨h.visited_size, h.parent_size, h.visited, h.parent, ?_, fun j hj => ?_⟩
  · rw [Ledger.enter, List.nodup_append]
    refine ⟨h.nodup, List.nodup_singleton i, fun j hj k hk e => ?_⟩
    rw [e, List.mem_singleton.1 hk] at hj
    exact new hj
  · rw [Ledger.enter, List.mem_append, List.mem_singleton] at hj
    cases hj with
    | inl hj => exact h.entered_met j hj
    | inr e => rwa [e]

end Ledger

end GridWalk
