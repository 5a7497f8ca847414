import Mathlib.Data.Set.Function
import GridWalk.Proofs.Grid.Views
/-! Random queries as maps from draws to slots. A query over the whole grid makes two draws, and
each pair of them stands for one slot. A query with a predicate first tests every occupant along the
rows, and then makes one draw among those that passed, each of which has a rank of its own; where
none passed it makes none. -/
namespace GridWalk
variable {α β ρ σ τ : Type}

def select (l : List β) (verdicts : List Bool) : List β :=
  ((l.zip verdicts).filter Prod.snd).map Prod.fst

section
variable {l : List β} {verdicts : List Bool} {b : β}

theorem select_cons (b : β) (l : List β) (v : Bool) (verdicts : List Bool) :
    select (b :: l) (v :: verdicts) = (if v then [b] else []) ++ select l verdicts := by
  cases v <;> rfl

theorem mem_select : b ∈ select l verdicts ↔ (b, true) ∈ l.zip verdicts := by
  simp [select]

theorem map_select {γ : Type} (f : β → γ) (l : List β) (verdicts : List Bool) :
    (select l verdicts).map f = select (l.map f) verdicts := by
  induction l generalizing verdicts with
  | nil => rfl
  | cons b l ih =>
    cases verdicts with
    | nil => rfl
    | cons v verdicts =>
      rw [List.map_cons, select_cons, select_cons, List.map_append, ih]
      cases v <;> rfl

theorem select_sublist (l : List β) (verdicts : List Bool) : (select l verdicts).Sublist l := by
  induction l generalizing verdicts with
  | nil => exact List.Sublist.slnil
  | cons b l ih =>
    cases verdicts with
    | nil => exact List.nil_sublist _
    | cons v verdicts =>
      rw [select_cons]
      cases v with
      | false => exact (ih verdicts).cons b
      | true => exact (ih verdicts).cons_cons b

theorem length_run_mapM (m : β → StateM σ Bool) (l : List β) (t : σ) :
    ((l.mapM m).run t).1.length = l.length := by
  induction l generalizing t with
  | nil => rfl
  | cons b l ih =>
    rw [List.mapM_cons]
    exact congrArg Nat.succ (ih _)

end

namespace Frame
variable {f : Frame}

def slotDrawn (f : Frame) (drawn : Fin f.width.toNat × Fin f.height.toNat) : ℕ :=
  drawn.2 * f.width.toNat + drawn.1

/-- Each slot belongs to one pair of draws. -/
theorem bijOn_slotDrawn (f : Frame) : Set.BijOn f.slotDrawn Set.univ {i | i < f.area} := by
  refine ⟨fun (x, y) _ => ?_, fun (x, y) _ (x', y') _ same => ?_,
    fun i (below : i < f.area) => ?_⟩
  · calc y * f.width.toNat + x < (y + 1) * f.width.toNat := by rw [Nat.succ_mul]; omega
      _ ≤ f.height.toNat * f.width.toNat := Nat.mul_le_mul_right _ y.isLt
      _ = f.area := Nat.mul_comm _ _
  · have columns : (x : ℕ) = x' := by
      have rests := congrArg (· % f.width.toNat) same
      simpa only [slotDrawn, Nat.mul_add_mod', Nat.mod_eq_of_lt x.isLt,
        Nat.mod_eq_of_lt x'.isLt] using rests
    have rows : (y : ℕ) * f.width.toNat = y' * f.width.toNat := by
      simp only [slotDrawn] at same
      omega
    exact Prod.ext (Fin.ext columns)
      (Fin.ext (Nat.eq_of_mul_eq_mul_right (Nat.zero_lt_of_lt x.isLt) rows))
  · have width_pos : 0 < f.width.toNat := Nat.pos_of_mul_pos_right (Nat.zero_lt_of_lt below)
    refine ⟨(⟨i % f.width.toNat, Nat.mod_lt i width_pos⟩, ⟨i / f.width.toNat, ?_⟩),
      Set.mem_univ _, ?_⟩
    · exact (Nat.div_lt_iff_lt_mul width_pos).2 (by rwa [Nat.mul_comm])
    · exact Nat.div_add_mod' i f.width.toNat

end Frame

namespace Grid
variable {f : Frame} {g : Grid α} {c : Coord}

/-- Gathering asks about each element once and in order, and keeps those with a favourable
verdict. -/
theorem gather_eq (p : α → StateM σ Bool) (l : List α) (found : Array α) :
    gather p l found = (fun verdicts => found ++ (select l verdicts).toArray) <$> l.mapM p := by
  induction l generalizing found with
  | nil => simp [gather, select]
  | cons a rest ih =>
    simp only [gather, ih, List.mapM_cons, map_bind, map_pure, select_cons]
    congr 1
    funext v
    cases v <;> simp

def matching (g : Grid α) (verdicts : List Bool) : List (Coord × α) := select g.entries verdicts

theorem map_snd_matching (g : Grid α) (verdicts : List Bool) :
    (g.matching verdicts).map Prod.snd = select g.occupied verdicts := by
  rw [matching, map_select, map_snd_entries]

theorem ascending_matching (g : Grid α) (verdicts : List Bool) :
    ((g.matching verdicts).map Prod.fst).Pairwise Coord.Precedes :=
  g.ascending_entries.sublist ((select_sublist g.entries verdicts).map Prod.fst)

/-- Each rank among the occupants with a favourable verdict belongs to one slot, and each such slot
has a rank. -/
theorem bijOn_matching (g : Grid α) (verdicts : List Bool) :
    Set.BijOn (fun i : Fin (g.matching verdicts).length => (g.matching verdicts)[i].1) Set.univ
      {c | ∃ a, ((c, a), true) ∈ g.entries.zip verdicts} := by
  refine ⟨fun i _ => ?_, fun i _ j _ same => ?_, fun c ⟨a, tested⟩ => ?_⟩
  · exact ⟨_, mem_select.1 (List.getElem_mem i.isLt)⟩
  · have distinct : ((g.matching verdicts).map Prod.fst).Nodup :=
      (g.ascending_matching verdicts).imp Coord.Precedes.ne
    have at_i := List.getElem_map Prod.fst (l := g.matching verdicts) (i := i) (h := by simp)
    have at_j := List.getElem_map Prod.fst (l := g.matching verdicts) (i := j) (h := by simp)
    exact Fin.ext (distinct.getElem_inj_iff.1 (at_i.trans (same.trans at_j.symm)))
  · obtain ⟨i, below, at_i⟩ :=
      List.mem_iff_getElem.1 (mem_select.2 tested : (c, a) ∈ g.matching verdicts)
    exact ⟨⟨i, below⟩, Set.mem_univ _, congrArg Prod.fst at_i⟩

section
variable [Chance ρ]

theorem run_sampleWhere_of_gather {p : α → StateM τ Bool} (r : ρ) {t t' : τ}
    {found : Array α} (gathered : (gather p g.occupied #[]).run t = (found, t')) :
    ((g.sampleWhere p).run r).run t =
      (if h : 0 < found.size then
        (some found[(Chance.draw found.size h r).1], (Chance.draw found.size h r).2)
      else (none, r), t') := by
  have unfolded : ((g.sampleWhere p).run r).run t =
      (let (found, t') := (gather p g.occupied #[]).run t
      ((if h : 0 < found.size then do
          let i ← modifyGet (Chance.draw found.size h)
          return some found[i]
        else return none : StateT ρ (StateM τ) (Option α)).run r).run t') := rfl
  rw [unfolded, gathered]
  dsimp only
  split <;> rfl

variable {p : α → StateM τ Bool} {t t' : τ} {verdicts : List Bool}

theorem gather_occupied (tested : (g.occupied.mapM p).run t = (verdicts, t')) :
    (gather p g.occupied #[]).run t = (((g.matching verdicts).map Prod.snd).toArray, t') := by
  rw [gather_eq, StateT.run_map, tested, map_snd_matching]
  exact congrArg (·, t') Array.empty_append

/-- Where no occupant passed, the source of chance stays as it is. -/
theorem run_sampleWhere_of_nil (r : ρ) (tested : (g.occupied.mapM p).run t = (verdicts, t'))
    (none_passed : g.matching verdicts = []) :
    ((g.sampleWhere p).run r).run t = ((none, r), t') := by
  rw [run_sampleWhere_of_gather r (gather_occupied tested), none_passed]
  rfl

/-- Else the answer is the occupant of the rank drawn. -/
theorem run_sampleWhere_of_draw {r r' : ρ} (tested : (g.occupied.mapM p).run t = (verdicts, t'))
    (pos : 0 < (g.matching verdicts).length) {i : Fin (g.matching verdicts).length}
    (drawn : Chance.draw _ pos r = (i, r')) :
    ((g.sampleWhere p).run r).run t = ((some (g.matching verdicts)[i].2, r'), t') := by
  -- The bound is the size of an array, which is rewritten into the number of those that passed.
  have same_draw (n : ℕ) (pos' : 0 < n) (e : n = (g.matching verdicts).length) :
      ((Chance.draw n pos' r).1 : ℕ) = i ∧ (Chance.draw n pos' r).2 = r' := by
    subst e
    rw [drawn]
    exact ⟨rfl, rfl⟩
  have size_eq : ((g.matching verdicts).map Prod.snd).toArray.size =
      (g.matching verdicts).length := by simp
  obtain ⟨rank, left⟩ := same_draw _ (by rwa [size_eq]) size_eq
  rw [run_sampleWhere_of_gather r (gather_occupied tested), dif_pos (by rwa [size_eq]), left]
  simp [rank]

end

structure SampledBySlot (g : Grid α) [Chance ρ] (r : ρ) : Prop where
  drawn : ∃ x y r₁ r₂ held,
    Chance.draw g.frame.width.toNat g.valid.width_pos r = (x, r₁) ∧
    Chance.draw g.frame.height.toNat g.valid.height_pos r₁ = (y, r₂) ∧
    g.cells[g.frame.slotDrawn (x, y)]? = some held ∧
    g.sample.run r = (held, r₂) ∧ g.memory.sample.run r = .ok (held, r₂)
  slots : Set.BijOn g.frame.slotDrawn Set.univ {i | i < g.size}

/-- A query with a predicate: each occupant is tested once, along the rows, the state passing from
test to test. If none passed, nothing is drawn. Else a rank is drawn among those that did, in the
order of the rows, and the answer is the occupant of that rank; every slot whose occupant passed has
one rank. -/
structure SampledByRank (g : Grid α) [Chance ρ] (p : α → StateM τ Bool) (r : ρ) (t : τ)
    (verdicts : List Bool) (t' : τ) : Prop where
  tested : (g.occupied.mapM p).run t = (verdicts, t')
  one_each : verdicts.length = g.occupiedCount
  undrawn : g.matching verdicts = [] → ((g.sampleWhere p).run r).run t = ((none, r), t')
  drawn : ∀ pos : 0 < (g.matching verdicts).length, ∃ i r', Chance.draw _ pos r = (i, r') ∧
    ((g.sampleWhere p).run r).run t = ((some (g.matching verdicts)[i].2, r'), t')
  holds : ∀ c a, (c, a) ∈ g.matching verdicts → g.get c = .ok (some a)
  ascending : ((g.matching verdicts).map Prod.fst).Pairwise Coord.Precedes
  ranks : Set.BijOn
    (fun i : Fin (g.matching verdicts).length => (g.matching verdicts)[i].1)
    Set.univ {c | ∃ a, ((c, a), true) ∈ g.entries.zip verdicts}

theorem sampledBySlot [Chance ρ] (g : Grid α) (r : ρ) : g.SampledBySlot r where
  drawn := by
    let first := Chance.draw g.frame.width.toNat g.valid.width_pos r
    let second := Chance.draw g.frame.height.toNat g.valid.height_pos first.2
    have below : g.frame.slotDrawn (first.1, second.1) < g.cells.length := by
      rw [length_cells]
      exact g.frame.bijOn_slotDrawn.mapsTo (Set.mem_univ _)
    refine ⟨first.1, second.1, first.2, second.2, _, rfl, rfl,
      List.getElem?_eq_getElem below, ?_, ?_⟩
    · rw [getElem_cells, Frame.slotDrawn, Frame.coordAt_mul_add _ first.1.isLt]
      rfl
    · rw [sample_memory, run_steady, getElem_cells, Frame.slotDrawn,
        Frame.coordAt_mul_add _ first.1.isLt]
      rfl
  slots := by
    rw [size, Vector.size]
    exact g.frame.bijOn_slotDrawn

theorem exists_sampledByRank [Chance ρ] (g : Grid α) (p : α → StateM τ Bool)
    (r : ρ) (t : τ) : ∃ verdicts t', g.SampledByRank p r t verdicts t' := by
  obtain ⟨verdicts, t', tested⟩ : ∃ verdicts t',
      (g.occupied.mapM p).run t = (verdicts, t') := ⟨_, _, rfl⟩
  have one_each := length_run_mapM p g.occupied t
  rw [tested, ← occupiedCount_eq_length] at one_each
  exact ⟨verdicts, t',
  { tested
    one_each
    undrawn := run_sampleWhere_of_nil r tested
    drawn := fun pos => ⟨_, _, rfl, run_sampleWhere_of_draw tested pos rfl⟩
    holds := fun c a passed => mem_entries_iff.1 ((select_sublist _ _).subset passed)
    ascending := g.ascending_matching verdicts
    ranks := g.bijOn_matching verdicts }⟩

/-- Whatever the source of chance and the predicate, the draws made on a grid that was built, after
any run of changes, stand one to one for the slots that can be answered with. -/
theorem BuiltFrom.sampled_after_run {f : Frame} (h : g.BuiltFrom f)
    (changes : List (Change σ α)) (t : σ) :
    ∃ answers k t', (Change.run g changes).run t = ((answers, k), t') ∧ k.frame = f ∧
      ∀ {ρ : Type} [Chance ρ] (r : ρ), k.SampledBySlot r ∧
        ∀ {τ : Type} (p : α → StateM τ Bool) (u : τ), ∃ verdicts u',
          k.SampledByRank p r u verdicts u' := by
  obtain ⟨answers, k, t', ran, frame_eq⟩ := h.exists_run changes t
  exact ⟨answers, k, t', ran, frame_eq,
    fun r => ⟨k.sampledBySlot r, fun p u => k.exists_sampledByRank p r u⟩⟩

def everyOther (_ : Tile) : StateM Nat Bool := fun n => (n % 2 == 0, n + 1)

/-- Of three tiles the first and the last pass, and the word on the tape stands for the last; drawn
as a column and a row the same words stand for an empty slot. -/
theorem sown_sampled : ∃ (g k : Grid Tile) (answers : List (Except Fault (Option Tile))),
    Grid.empty 3 2 = .ok g ∧
    (Change.run g [.edit (.set ⟨1, 1⟩ (some ⟨⟨1, 1⟩⟩)),
      .edit (.set ⟨2, 0⟩ (some ⟨⟨2, 0⟩⟩)),
      .edit (.set ⟨0, 1⟩ (some ⟨⟨0, 1⟩⟩))]).run () = ((answers, k), ()) ∧
    k.SampledBySlot (⟨#[3000000000, 1000], 0⟩ : WordTape) ∧
    k.sample.run (⟨#[1500000000, 1000], 0⟩ : WordTape) =
      (none, ⟨#[1500000000, 1000], 2⟩) ∧
    k.SampledByRank everyOther (⟨#[3000000000, 1000], 0⟩ : WordTape) 0 [true, false, true] 3 ∧
    ((k.sampleWhere everyOther).run (⟨#[3000000000, 1000], 0⟩ : WordTape)).run 0 =
      ((some ⟨⟨1, 1⟩⟩, ⟨#[3000000000, 1000], 1⟩), 3) := by
  obtain ⟨g, built⟩ : ∃ g : Grid Tile, Grid.empty 3 2 = .ok g := ⟨_, rfl⟩
  obtain ⟨answers, k, t, ran, -, sampled⟩ := BuiltFrom.sampled_after_run (.empty rfl built)
    [.edit (.set ⟨1, 1⟩ (some ⟨⟨1, 1⟩⟩)),
      .edit (.set ⟨2, 0⟩ (some ⟨⟨2, 0⟩⟩)),
      .edit (.set ⟨0, 1⟩ (some ⟨⟨0, 1⟩⟩))] ()
  obtain ⟨by_slot, by_rank⟩ := sampled (⟨#[3000000000, 1000], 0⟩ : WordTape)
  obtain ⟨verdicts, u, passed⟩ := by_rank everyOther 0
  have outcome : Id.run ((k.occupied.mapM everyOther).run 0) = ([true, false, true], 3) ∧
      Id.run (k.sample.run (⟨#[1500000000, 1000], 0⟩ : WordTape)) =
        (none, ⟨#[1500000000, 1000], 2⟩) ∧
      Id.run (((k.sampleWhere everyOther).run (⟨#[3000000000, 1000], 0⟩ : WordTape)).run 0) =
        ((some ⟨⟨1, 1⟩⟩, ⟨#[3000000000, 1000], 1⟩), 3) := by
    cases built
    cases ran
    decide +kernel
  obtain ⟨verdicts_eq, slot, rank⟩ := outcome
  obtain ⟨rfl, rfl⟩ := Prod.mk.inj (passed.tested.symm.trans verdicts_eq)
  exact ⟨g, k, answers, built, ran, by_slot, slot, passed, rank⟩

end Grid
end GridWalk
