import Mathlib.Data.List.Nodup
import GridWalk.Grid.Build
import GridWalk.Proofs.Grid.Frame
/-! The positions of a frame along the rows. That is the order of the slot numbers, and a generator
that fills a grid is called once for each position, in this order. -/
namespace GridWalk

namespace Frame
variable {f : Frame} {c : Coord}

def places (f : Frame) : List Coord :=
  (List.range f.height.toNat).flatMap fun y =>
    (List.range f.width.toNat).map fun x => ⟨Int32.ofNat x, Int32.ofNat y⟩

/-- The places of the first `n` rows are those of the first `n * width` slots. -/
theorem flatMap_rows (f : Frame) (n : Nat) :
    ((List.range n).flatMap fun y =>
      (List.range f.width.toNat).map fun x => (⟨Int32.ofNat x, Int32.ofNat y⟩ : Coord)) =
    (List.range (n * f.width.toNat)).map f.coordAt := by
  induction n with
  | zero => simp
  | succ n ih =>
    have last_row :
        ((List.range f.width.toNat).map fun x => (⟨Int32.ofNat x, Int32.ofNat n⟩ : Coord)) =
        (List.range f.width.toNat).map fun x => f.coordAt (n * f.width.toNat + x) := by
      refine List.map_congr_left fun x hx => ?_
      rw [coordAt_mul_add n (List.mem_range.1 hx)]
    rw [List.range_succ, List.flatMap_append, ih, List.flatMap_singleton, last_row, Nat.succ_mul,
      List.range_add, List.map_append, List.map_map]
    rfl

theorem places_eq_map (f : Frame) : f.places = (List.range f.area).map f.coordAt := by
  rw [places, flatMap_rows, area, Nat.mul_comm]

@[simp] theorem length_places (f : Frame) : f.places.length = f.area := by
  simp [places_eq_map]

theorem getElem_places {i : Nat} (h : i < f.places.length) : f.places[i] = f.coordAt i := by
  simp [places_eq_map]

theorem mem_places (h : f.Valid) : c ∈ f.places ↔ c ∈ f := by
  rw [places_eq_map, List.mem_map]
  constructor
  · intro ⟨i, hi, e⟩
    rw [← e]
    exact coordAt_mem h (List.mem_range.1 hi)
  · intro hc
    exact ⟨f.index c, List.mem_range.2 (index_lt_area hc), coordAt_index hc⟩

theorem nodup_places (h : f.Valid) : f.places.Nodup := by
  rw [places_eq_map]
  refine List.nodup_range.map_on fun i hi j hj e => ?_
  rw [← index_coordAt h (List.mem_range.1 hi), e, index_coordAt h (List.mem_range.1 hj)]

end Frame

namespace Grid
variable {α σ : Type}

theorem ofFnM_eq_mapM {m : Type → Type} [Monad m] [LawfulMonad m] {β : Type} (n : Nat)
    (g : Nat → m β) : List.ofFnM (fun i : Fin n => g i) = (List.range n).mapM g := by
  induction n with
  | zero => simp
  | succ n ih =>
    simp only [List.ofFnM_succ_last, Fin.val_castSucc, Fin.val_last, ih, List.range_succ,
      List.mapM_append, List.mapM_cons, List.mapM_nil, bind_pure_comp, map_pure, Functor.map_map]

/-- A generator is called for the places in their order. -/
theorem toList_fill (f : Frame) (generator : Coord → StateM σ (Option α)) :
    Vector.toList <$> fill f generator = f.places.mapM generator := by
  rw [fill, Vector.toList_ofFnM, ofFnM_eq_mapM f.area fun i => generator (f.coordAt i),
    Frame.places_eq_map, List.mapM_map]
  rfl

end Grid
end GridWalk
