import Mathlib.Logic.Function.Basic
import GridWalk.Proofs.Grid.Change
import GridWalk.Proofs.Grid.Places
/-! Grids as maps from positions to their content. A run of changes on a grid answers as the same
run on the map does and ends where it ends; a change refused outside the extents leaves the grid as
it was. -/
namespace GridWalk
variable {α σ : Type}

structure CellMap (α : Type) where
  frame : Frame
  held : Coord → Option α

namespace CellMap

def outOfBounds (m : CellMap α) (c : Coord) : Fault := .outOfBounds c m.frame.width m.frame.height

def get (m : CellMap α) (c : Coord) : Except Fault (Option α) :=
  if c ∈ m.frame then .ok (m.held c) else .error (m.outOfBounds c)

def revise (m : CellMap α) (c : Coord) (next : Option α → Option α) :
    Except Fault (Option α) × CellMap α :=
  if c ∈ m.frame then
    (.ok (m.held c), { m with held := Function.update m.held c (next (m.held c)) })
  else (.error (m.outOfBounds c), m)

def edit (m : CellMap α) : Edit α → Except Fault (Option α) × CellMap α
  | .set c cell => m.revise c fun _ => cell
  | .take c => m.revise c fun _ => none
  | .overwrite c f => m.revise c (Option.map f)
  | .recast cells => (.ok none, { m with held := fun c => if c ∈ m.frame then cells c else none })

def refill (m : CellMap α) (generator : Coord → StateM σ (Option α)) :
    StateM σ (CellMap α) := do
  let answers ← m.frame.places.mapM generator
  return { m with held := fun c => ((m.frame.places.zip answers).lookup c).join }

def change (m : CellMap α) : Change σ α → StateM σ (Except Fault (Option α) × CellMap α)
  | .edit e => pure (m.edit e)
  | .refill generator => do
    let m ← m.refill generator
    return (.ok none, m)

def run (m : CellMap α) :
    List (Change σ α) → StateM σ (List (Except Fault (Option α)) × CellMap α)
  | [] => pure ([], m)
  | x :: rest => do
    let (answer, m) ← m.change x
    let (answers, m) ← m.run rest
    return (answer :: answers, m)

end CellMap

namespace Grid
variable {g : Grid α} {c : Coord}

def toMap (g : Grid α) : CellMap α := ⟨g.frame, g.get?⟩

theorem get?_put_eq_update (h : c ∈ g.frame) (cell : Option α) :
    (g.put c cell).get? = Function.update g.get? c cell := by
  funext d
  rw [get?_put h, Function.update_apply]

theorem toMap_revise (g : Grid α) (c : Coord) (next : Option α → Option α) :
    ((g.revise c next).1, (g.revise c next).2.toMap) = g.toMap.revise c next := by
  by_cases h : c ∈ g.frame
  · rw [revise_of_mem h, CellMap.revise, if_pos (by exact h), toMap, get?_put_eq_update h]
    rfl
  · rw [revise_of_not_mem h, CellMap.revise, if_neg (by exact h)]
    rfl

theorem get?_recast_eq (g : Grid α) (cells : Coord → Option α) :
    (g.recast cells).get? = fun c => if c ∈ g.frame then cells c else none := by
  funext c
  by_cases h : c ∈ g.frame
  · rw [get?_recast h, if_pos h]
  · rw [get?_of_not_mem (by simpa using h), if_neg h]

theorem toMap_edit (g : Grid α) (e : Edit α) :
    ((e.apply g).1, (e.apply g).2.toMap) = g.toMap.edit e := by
  cases e with
  | set c cell => exact toMap_revise g c _
  | take c => exact toMap_revise g c _
  | overwrite c f => exact toMap_revise g c _
  | recast cells => rw [Edit.apply, toMap, get?_recast_eq]; rfl

end Grid

theorem lookup_zip_getElem {β γ : Type} [DecidableEq β] {keys : List β}
    {values : List γ} {i : Nat} (h : keys.Nodup) (hk : i < keys.length) (hv : i < values.length) :
    (keys.zip values).lookup keys[i] = some values[i] := by
  induction keys generalizing values i with
  | nil => simp at hk
  | cons k keys ih =>
    cases values with
    | nil => simp at hv
    | cons v values =>
      rw [List.nodup_cons] at h
      cases i with
      | zero => simp
      | succ i =>
        have hk' : i < keys.length := by simpa using hk
        have ne : (keys[i] == k) = false := by
          rw [beq_eq_false_iff_ne]
          exact fun e => h.1 (e ▸ List.getElem_mem hk')
        rw [List.zip_cons_cons, List.getElem_cons_succ, List.getElem_cons_succ,
          List.lookup_cons, ne]
        exact ih h.2 hk' (by simpa using hv)

namespace Grid
variable {g : Grid α}

/-- Each position shows the slot that has its place in the order of the rows. -/
theorem lookup_places (g : Grid α) (c : Coord) :
    ((g.frame.places.zip g.slots.toList).lookup c).join = g.get? c := by
  by_cases h : c ∈ g.frame
  · have hk : g.frame.index c < g.frame.places.length := by
      simpa using Frame.index_lt_area h
    have hv : g.frame.index c < g.slots.toList.length := by
      simpa using Frame.index_lt_area h
    have place : g.frame.places[g.frame.index c] = c := by
      rw [Frame.getElem_places, Frame.coordAt_index h]
    have found := lookup_zip_getElem (Frame.nodup_places g.valid) hk hv
    rw [place] at found
    rw [found, get?_of_mem h]
    simp [slot]
  · have absent : (g.frame.places.zip g.slots.toList).lookup c = none := by
      rw [List.lookup_eq_none_iff]
      intro p hp
      have mem := List.of_mem_zip hp
      rw [bne_iff_ne]
      intro e
      exact h ((Frame.mem_places g.valid).1 (e ▸ mem.1))
    rw [absent, get?_of_not_mem h]
    rfl

theorem toMap_refill (g : Grid α) (generator : Coord → StateM σ (Option α)) :
    toMap <$> g.refill generator = g.toMap.refill generator := by
  have held_eq (slots : Vector (Option α) g.frame.area) : toMap { g with slots } =
      ⟨g.frame, fun c => ((g.frame.places.zip slots.toList).lookup c).join⟩ := by
    simp only [toMap, CellMap.mk.injEq, true_and]
    funext c
    exact (lookup_places { g with slots } c).symm
  have map_frame : g.toMap.frame = g.frame := rfl
  rw [refill, CellMap.refill, map_frame, ← toList_fill]
  simp only [bind_pure_comp, Functor.map_map, held_eq]

end Grid

namespace Change

theorem toMap_apply (g : Grid α) (x : Change σ α) :
    (fun r => (r.1, r.2.toMap)) <$> x.apply g = g.toMap.change x := by
  cases x with
  | edit e => rw [apply, CellMap.change, map_pure, Grid.toMap_edit]
  | refill generator =>
    rw [apply, CellMap.change, ← Grid.toMap_refill]
    simp only [bind_pure_comp, Functor.map_map]

/-- A run on a grid, seen as a map, is the run on the map. -/
theorem toMap_run (g : Grid α) (changes : List (Change σ α)) :
    (fun r => (r.1, r.2.toMap)) <$> run g changes = g.toMap.run changes := by
  induction changes generalizing g with
  | nil => rw [run, CellMap.run, map_pure]
  | cons x rest ih =>
    rw [run, CellMap.run, ← toMap_apply]
    simp only [map_bind, bind_map_left, map_pure, ← ih]

/-- Whatever is done to a grid is done to the map of its content, with the same answers. -/
theorem run_refines_map (g : Grid α) (changes : List (Change σ α)) (t : σ) :
    ∃ answers k m t', (run g changes).run t = ((answers, k), t') ∧
      (g.toMap.run changes).run t = ((answers, m), t') ∧
      k.frame = g.frame ∧ m.frame = g.frame ∧
      (∀ c, k.get? c = if c ∈ g.frame then m.held c else none) ∧
      (∀ c, k.get c = m.get c) ∧
      (∀ c d f, ((k.overwrite c f).2.get? d).isSome = (k.get? d).isSome) ∧
      ∀ (e : Edit α) (c : Coord), e.place? = some c →
        (∀ d, d ≠ c → (e.apply k).2.get? d = k.get? d) ∧
        (c ∉ g.frame →
          e.apply k = (.error (.outOfBounds c g.frame.width g.frame.height), k)) := by
  obtain ⟨answers, k, t', ran⟩ : ∃ answers k t', (run g changes).run t = ((answers, k), t') :=
    ⟨_, _, _, rfl⟩
  have frame_eq := frame_run g changes t
  have runs := congrArg (StateT.run · t) (toMap_run g changes)
  rw [ran] at frame_eq
  rw [StateT.run_map, ran] at runs
  refine ⟨answers, k, k.toMap, t', ran, runs.symm, frame_eq, frame_eq, fun c => ?_, fun c => rfl,
    k.isSome_get?_overwrite, fun e c he => ⟨fun d => Edit.get?_apply_of_ne he, fun h => ?_⟩⟩
  · by_cases h : c ∈ g.frame
    · rw [if_pos h]
      rfl
    · rw [if_neg h, Grid.get?_of_not_mem (by rwa [frame_eq])]
  · rw [← frame_eq] at h ⊢
    exact Edit.apply_of_not_mem he h

end Change
end GridWalk
