import Mathlib.Algebra.Order.Group.Multiset
import GridWalk.Proofs.Grid.Views
/-! Cells that come and go. An exchange gives a slot a cell or none and hands out what the slot
held; refused, it does neither. Main statement: over a run of exchanges no cell is lost and none is
held twice, so what the grid held at first and was given later is what it handed out and what it
holds in the end. -/
namespace GridWalk

inductive Exchange (α : Type) where
  | set (c : Coord) (cell : Option α)
  | take (c : Coord)

namespace Exchange
variable {α : Type}

def toEdit : Exchange α → Edit α
  | set c cell => .set c cell
  | take c => .take c

def place : Exchange α → Coord
  | set c _ => c
  | take c => c

def offer : Exchange α → Option α
  | set _ cell => cell
  | take _ => none

theorem apply_toEdit (x : Exchange α) (g : Grid α) :
    x.toEdit.apply g = g.revise x.place fun _ => x.offer := by
  cases x with
  | set c cell => rfl
  | take c => rfl

def placed (x : Exchange α) : Except Fault (Option α) → List α
  | .ok _ => x.offer.toList
  | .error _ => []

def returned : Except Fault (Option α) → List α
  | .ok old => old.toList
  | .error _ => []

def allPlaced (xs : List (Exchange α)) (answers : List (Except Fault (Option α))) : List α :=
  (xs.zipWith placed answers).flatten

def allReturned (answers : List (Except Fault (Option α))) : List α := answers.flatMap returned

end Exchange

theorem filterMap_id_cons {α : Type} (cell : Option α) (cells : List (Option α)) :
    (cell :: cells).filterMap id = cell.toList ++ cells.filterMap id := by
  cases cell with
  | none => rfl
  | some a => rfl

namespace Grid
variable {α : Type} {g : Grid α} {c : Coord}

theorem cells_put (h : c ∈ g.frame) (cell : Option α) :
    (g.put c cell).cells = g.cells.set (g.frame.index c) cell := by
  simp only [cells, put, dif_pos h, Vector.toList_set]

/-- Writing a slot leaves out its content and adds what is written; all other occupants stay. -/
theorem occupied_put (h : c ∈ g.frame) (cell : Option α) :
    (g.occupied : Multiset α) + cell.toList =
      (g.get? c).toList + ((g.put c cell).occupied : Multiset α) := by
  have below : g.frame.index c < g.cells.length := by
    simpa using Frame.index_lt_area h
  have held : g.cells[g.frame.index c] = g.get? c := by
    rw [getElem_cells, Frame.coordAt_index h]
  let others := (g.cells.eraseIdx (g.frame.index c)).filterMap id
  have before : (g.occupied : Multiset α) = ((g.get? c).toList ++ others : List α) := by
    rw [← held, ← filterMap_id_cons]
    exact Multiset.coe_eq_coe.2 ((List.getElem_cons_eraseIdx_perm below).filterMap id).symm
  have after : ((g.put c cell).occupied : Multiset α) = (cell.toList ++ others : List α) := by
    rw [← filterMap_id_cons, occupied, cells_put h]
    exact Multiset.coe_eq_coe.2 ((List.set_perm_cons_eraseIdx below cell).filterMap id)
  rw [before, after, ← Multiset.coe_add, ← Multiset.coe_add, add_assoc,
    add_comm (others : Multiset α)]

end Grid

namespace Exchange
variable {α : Type}

/-- What is put in and what is handed out make up the difference that one exchange makes. -/
theorem conserved_apply (x : Exchange α) (g : Grid α) :
    (g.occupied : Multiset α) + x.placed (x.toEdit.apply g).1 =
      returned (x.toEdit.apply g).1 + ((x.toEdit.apply g).2.occupied : Multiset α) := by
  rw [apply_toEdit]
  by_cases h : x.place ∈ g.frame
  · rw [Grid.revise_of_mem h]
    exact Grid.occupied_put h x.offer
  · rw [Grid.revise_of_not_mem h]
    simp [placed, returned]

/-- The same for a run of exchanges, taken together. -/
theorem conserved_run (xs : List (Exchange α)) (g : Grid α) :
    (g.occupied : Multiset α) + allPlaced xs (Edit.run g (xs.map toEdit)).1 =
      allReturned (Edit.run g (xs.map toEdit)).1 +
        ((Edit.run g (xs.map toEdit)).2.occupied : Multiset α) := by
  induction xs generalizing g with
  | nil => simp [allPlaced, allReturned, Edit.run]
  | cons x rest ih =>
    rw [List.map_cons, Edit.run_cons]
    let first := x.toEdit.apply g
    let later := Edit.run first.2 (rest.map toEdit)
    calc (g.occupied : Multiset α) + (x.placed first.1 ++ allPlaced rest later.1 : List α)
        = g.occupied + x.placed first.1 + allPlaced rest later.1 := by
          rw [← Multiset.coe_add, add_assoc]
      _ = returned first.1 + (first.2.occupied + allPlaced rest later.1) := by
          rw [conserved_apply x g, add_assoc]
      _ = (returned first.1 ++ allReturned later.1 : List α) +
            (later.2.occupied : Multiset α) := by
          rw [ih first.2, ← Multiset.coe_add, add_assoc]

end Exchange

namespace Grid
variable {α σ : Type} {f : Frame} {g : Grid α}

/-- A grid that was built and changed, after any run of exchanges: what it held and was given is
what it handed out and holds, each cell as often, and the occupants are counted accordingly. -/
theorem BuiltFrom.occupants_conserved (h : g.BuiltFrom f) (changes : List (Change σ α)) (t : σ)
    (xs : List (Exchange α)) :
    ∃ before k t', (Change.run g changes).run t = ((before, k), t') ∧
    ∃ answers l, Edit.run k (xs.map Exchange.toEdit) = (answers, l) ∧
      (k.memory.run ((xs.map Exchange.toEdit).map .edit)).run t' = .ok ((answers, l.memory), t') ∧
      answers.length = xs.length ∧
      (k.occupied : Multiset α) + Exchange.allPlaced xs answers =
        Exchange.allReturned answers + (l.occupied : Multiset α) ∧
      (l.occupiedCount : ℤ) =
        k.occupiedCount + (Exchange.allPlaced xs answers).length -
          (Exchange.allReturned answers).length := by
  obtain ⟨before, k, t', ran, -⟩ := h.exists_run changes t
  have conserved := Exchange.conserved_run xs k
  refine ⟨before, k, t', ran, _, _, rfl, ?_, by rw [Edit.length_run, List.length_map],
    conserved, ?_⟩
  · rw [run_memory, run_steady, StateT.run_map, Change.run_edits]
    rfl
  · have sizes := congrArg Multiset.card conserved
    simp only [Multiset.card_add, Multiset.coe_card, ← occupiedCount_eq_length] at sizes
    omega

def haul : List (Exchange Nat) :=
  [.set ⟨1, 0⟩ (some 7), .set ⟨3, 0⟩ (some 9), .set ⟨1, 0⟩ none, .take ⟨2, 1⟩,
    .take ⟨2, 1⟩, .set ⟨0, 1⟩ (some 7), .take ⟨-1, 1⟩]

theorem haul_conserved : ∃ (g k l : Grid Nat) (before answers : List (Except Fault (Option Nat))),
    Grid.empty 3 2 = .ok g ∧
    (Change.run g [.edit (.set ⟨1, 0⟩ (some 4)), .edit (.set ⟨2, 1⟩ (some 4))]).run () =
      ((before, k), ()) ∧
    Edit.run k (haul.map Exchange.toEdit) = (answers, l) ∧ k.occupied = [4, 4] ∧
    Exchange.allPlaced haul answers = [7, 7] ∧ Exchange.allReturned answers = [4, 7, 4] ∧
    l.occupied = [7] ∧
    (k.occupied : Multiset Nat) + Exchange.allPlaced haul answers =
      Exchange.allReturned answers + (l.occupied : Multiset Nat) ∧
    (l.occupiedCount : ℤ) = k.occupiedCount + 2 - 3 := by
  obtain ⟨g, built⟩ : ∃ g : Grid Nat, Grid.empty 3 2 = .ok g := ⟨_, rfl⟩
  obtain ⟨before, k, t, ran, answers, l, exchanged, -, -, conserved, counted⟩ :=
    BuiltFrom.occupants_conserved (.empty rfl built)
      [.edit (.set ⟨1, 0⟩ (some 4)), .edit (.set ⟨2, 1⟩ (some 4))] () haul
  have outcome : k.occupied = [4, 4] ∧ Exchange.allPlaced haul answers = [7, 7] ∧
      Exchange.allReturned answers = [4, 7, 4] ∧ l.occupied = [7] := by
    cases built
    cases ran
    cases exchanged
    decide +kernel
  obtain ⟨held, given, handed_out, left_over⟩ := outcome
  rw [given, handed_out] at counted
  exact ⟨g, k, l, before, answers, built, ran, exchanged, held, given, handed_out, left_over,
    conserved, counted⟩

end Grid
end GridWalk
