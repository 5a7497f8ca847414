import Mathlib.Data.List.Chain
import GridWalk.Trip.Breach
/-! Which paths a trip accepts, without reference to the order in which they are checked: every
position may be entered, every step is one of the adjacency, and the last position is the target.
Main statement: the empty path and the legal ones are accepted, and no others. -/
namespace GridWalk
variable {α : Type} {t : Trip} {g : Grid α} {prev c : Coord} {cs : List Coord} {i : Nat}

def Grid.Holds (g : Grid α) (c : Coord) : Prop := c ∈ g.frame ∧ ∃ a, g.get? c = some a

theorem Grid.holds_iff_isSome : g.Holds c ↔ (g.get? c).isSome := by
  rw [Option.isSome_iff_exists]
  constructor
  · intro h
    exact h.2
  · intro ⟨a, ha⟩
    exact ⟨mem_of_get? ha, a, ha⟩

namespace Trip

def Enters (t : Trip) (g : Grid α) (c : Coord) : Prop :=
  c ≠ t.source ∧ (g.get? c).isSome ∧ t.Allows c

theorem stepBreach?_eq_none_iff :
    t.stepBreach? g i prev c = none ↔ t.Enters g c ∧ t.adjacency.Adjacent prev c := by
  unfold stepBreach? Enters Allows
  by_cases source : c = t.source
  · simp [source]
  · cases occupied : g.get? c with
    | none => simp [source]
    | some a =>
      by_cases busy : c ∈ t.busy
      · simp [source, busy]
      · by_cases adjacent : t.adjacency.Adjacent prev c
        · simp [source, busy, adjacent]
        · simp [source, busy, adjacent]

theorem stepsBreach?_cons_eq_none_iff : t.stepsBreach? g i prev (c :: cs) = none ↔
    t.stepBreach? g i prev c = none ∧ t.stepsBreach? g (i + 1) c cs = none := by
  rw [stepsBreach?]
  cases t.stepBreach? g i prev c with
  | none => simp
  | some breach => simp

theorem stepsBreach?_eq_none_iff : t.stepsBreach? g i prev cs = none ↔
    (∀ c ∈ cs, t.Enters g c) ∧ (prev :: cs).IsChain t.adjacency.Adjacent ∧
      (prev :: cs).getLast? = some t.target := by
  induction cs generalizing i prev with
  | nil => simp [stepsBreach?]
  | cons c rest ih =>
    rw [stepsBreach?_cons_eq_none_iff, stepBreach?_eq_none_iff, ih, List.forall_mem_cons,
      List.isChain_cons_cons, List.getLast?_cons_cons]
    simp only [and_assoc, and_left_comm]

theorem breach?_eq_none_iff_stepsBreach? [Cell α] {path : List α} (h : path ≠ []) :
    t.breach? g path = none ↔ t.source ≠ t.target ∧ g.Holds t.source ∧
      t.stepsBreach? g 0 t.source (path.map Cell.coord) = none := by
  rw [breach?, if_neg (by simpa using h), Grid.holds_iff_isSome]
  by_cases same : t.source = t.target
  · simp [same]
  · rw [if_neg same]
    cases hs : g.get? t.source with
    | none => simp
    | some a => simp [same]

theorem breach?_eq_none_iff [Cell α] {path : List α} (h : path ≠ []) :
    t.breach? g path = none ↔ t.source ≠ t.target ∧ (g.get? t.source).isSome ∧
      (∀ c ∈ path.map Cell.coord, t.Enters g c) ∧
      (t.source :: path.map Cell.coord).IsChain t.adjacency.Adjacent ∧
      (t.source :: path.map Cell.coord).getLast? = some t.target := by
  rw [breach?_eq_none_iff_stepsBreach? h, stepsBreach?_eq_none_iff, Grid.holds_iff_isSome]

/-- A path of at least one cell that answers the trip, said of its places one by one. -/
structure Legal [Cell α] (t : Trip) (g : Grid α) (path : List α) : Prop where
  ends_apart : t.source ≠ t.target
  starts : g.Holds t.source
  avoids_source : ∀ (i : Nat) (h : i < path.length), Cell.coord path[i] ≠ t.source
  occupied : ∀ (i : Nat) (h : i < path.length), g.Holds (Cell.coord path[i])
  avoids_busy : ∀ (i : Nat) (h : i < path.length), Cell.coord path[i] ∉ t.busy
  first_step : ∀ h : 0 < path.length, t.adjacency.Adjacent t.source (Cell.coord path[0])
  next_step : ∀ (i : Nat) (h : i + 1 < path.length),
    t.adjacency.Adjacent (Cell.coord path[i]) (Cell.coord path[i + 1])
  arrives : ∃ h : path ≠ [], Cell.coord (path.getLast h) = t.target

/-- A chain of positions, step by step: the first one is joined to `prev`, every other to the one
before it. -/
theorem isChain_cons_map_iff [Cell α] {R : Coord → Coord → Prop} {path : List α} :
    (prev :: path.map Cell.coord).IsChain R ↔
      (∀ h : 0 < path.length, R prev (Cell.coord path[0])) ∧
      ∀ (i : Nat) (h : i + 1 < path.length), R (Cell.coord path[i]) (Cell.coord path[i + 1]) := by
  rw [List.isChain_iff_getElem]
  constructor
  · intro chain
    refine ⟨fun h => ?_, fun i h => ?_⟩
    · simpa using chain 0 (by simpa using h)
    · have joined := chain (i + 1) (by simpa using h)
      rw [List.getElem_cons_succ, List.getElem_cons_succ, List.getElem_map,
        List.getElem_map] at joined
      exact joined
  · intro ⟨first, next⟩ i h
    cases i with
    | zero => simpa using first (by simpa using h)
    | succ i => simpa using next i (by simpa using h)

/-- A path is accepted if and only if it is empty or legal. -/
theorem breach?_eq_none_iff_legal [Cell α] (t : Trip) (g : Grid α) (path : List α) :
    t.breach? g path = none ↔ path = [] ∨ t.Legal g path := by
  by_cases empty : path = []
  · simp [empty, breach?]
  · rw [breach?_eq_none_iff empty, isChain_cons_map_iff]
    have last : (t.source :: path.map Cell.coord).getLast? = some t.target ↔
        Cell.coord (path.getLast empty) = t.target := by
      rw [List.getLast?_cons_of_ne_nil (by simpa using empty), List.getLast?_map,
        List.getLast?_eq_some_getLast empty, Option.map_some, Option.some.injEq]
    constructor
    · intro ⟨apart, starts, enters, ⟨first, next⟩, arrives⟩
      have enters_at (i : Nat) (h : i < path.length) : t.Enters g (Cell.coord path[i]) :=
        enters _ (List.mem_map_of_mem (List.getElem_mem h))
      exact Or.inr
        { ends_apart := apart
          starts := Grid.holds_iff_isSome.2 starts
          avoids_source := fun i h => (enters_at i h).1
          occupied := fun i h => Grid.holds_iff_isSome.2 (enters_at i h).2.1
          avoids_busy := fun i h => (enters_at i h).2.2
          first_step := first
          next_step := next
          arrives := ⟨empty, last.1 arrives⟩ }
    · intro h
      have legal := h.resolve_left empty
      refine ⟨legal.ends_apart, Grid.holds_iff_isSome.1 legal.starts, fun c hc => ?_,
        ⟨legal.first_step, legal.next_step⟩, last.2 legal.arrives.2⟩
      obtain ⟨a, ha, rfl⟩ := List.mem_map.1 hc
      obtain ⟨i, h, rfl⟩ := List.mem_iff_getElem.1 ha
      exact ⟨legal.avoids_source i h, Grid.holds_iff_isSome.1 (legal.occupied i h),
        legal.avoids_busy i h⟩

end Trip
end GridWalk
