import Mathlib.Data.List.Basic
import GridWalk.Proofs.Grid.Change
import GridWalk.Proofs.Trip.FirstBreach
import GridWalk.Proofs.Trip.Obstacles
/-! Accepted paths, checked again after a change of the trip or of the grid. A change that spoils
the steps to some positions and no others is noticed at the first cell that reports one of them, and
not at all if no cell does. Main statement: what is then found after marking obstacles, after taking
a cell out of the grid, after putting one in, and when diagonal steps are allowed. -/
namespace GridWalk

namespace Grid
variable {α : Type} {g : Grid α} {c d : Coord}

theorem not_holds_put_none (mem : c ∈ g.frame) : ¬ (g.put c none).Holds c := by
  rw [holds_iff_isSome, get?_put_self mem]
  exact Bool.false_ne_true

theorem take_eq_ok {old : Option α} {k : Grid α} (h : g.take c = (.ok old, k)) :
    c ∈ g.frame ∧ k = g.put c none := by
  rw [take] at h
  by_cases mem : c ∈ g.frame
  · rw [revise_of_mem mem] at h
    cases h
    exact ⟨mem, rfl⟩
  · rw [revise_of_not_mem mem] at h
    cases h

theorem isSome_get?_set_some (a : α) (held : (g.get? d).isSome = true) :
    ((g.set c (some a)).2.get? d).isSome = true := by
  rw [set, get?_revise]
  split
  · rfl
  · exact held

end Grid

namespace Trip
variable {α : Type} {t u : Trip} {g k : Grid α} {P : Coord → Prop}
  {r : ℕ → Coord → Breach} {prev c : Coord} {cs : List Coord} {i n : ℕ}

/-- A change from `t` on `g` to `u` on `k` by which the steps to the positions in `P` are spoilt,
and reported by `r`, while all other steps that were fine are still fine. -/
structure Spoils (t : Trip) (g : Grid α) (u : Trip) (k : Grid α) (P : Coord → Prop)
    (r : ℕ → Coord → Breach) : Prop where
  source : u.source = t.source
  target : u.target = t.target
  starts : g.Holds t.source → k.Holds t.source
  spoilt : ∀ {i prev c}, t.stepBreach? g i prev c = none → P c →
    u.stepBreach? k i prev c = some (r i c)
  spared : ∀ {i prev c}, t.stepBreach? g i prev c = none → ¬ P c →
    u.stepBreach? k i prev c = none

theorem spoils_avoiding (t : Trip) (g : Grid α) (cs : List Coord) :
    t.Spoils g (t.avoiding cs) g (· ∈ cs) .busyCell where
  source := rfl
  target := rfl
  starts := id
  spoilt {i prev c} fine inside := by
    obtain ⟨⟨apart, held, -⟩, -⟩ := stepBreach?_eq_none_iff.1 fine
    have busy : c ∈ (t.avoiding cs).busy := Obstacles.mem_insertMany.2 (Or.inr inside)
    have occupied := Grid.holds_iff_isSome.2 held
    exact (Reports.busy (t := t.avoiding cs) apart occupied busy).stepBreach?_eq
  spared fine outside := by
    obtain ⟨⟨apart, held, free⟩, adjacent⟩ := stepBreach?_eq_none_iff.1 fine
    have allowed : (t.avoiding cs).Allows _ := allows_avoiding_iff.2 ⟨free, outside⟩
    exact stepBreach?_eq_none_iff.2 ⟨⟨apart, held, allowed⟩, adjacent⟩

theorem spoils_put_none (mem : c ∈ g.frame) (apart : c ≠ t.source) :
    t.Spoils g t (g.put c none) (· = c) .notInGrid where
  source := rfl
  target := rfl
  starts held := by
    rw [Grid.holds_iff_isSome] at held ⊢
    rwa [Grid.get?_put_of_ne apart.symm]
  spoilt _ same := by
    rw [same]
    exact (Reports.vacant apart (Grid.not_holds_put_none mem)).stepBreach?_eq
  spared fine other := by
    obtain ⟨⟨away, held, free⟩, adjacent⟩ := stepBreach?_eq_none_iff.1 fine
    exact stepBreach?_eq_none_iff.2
      ⟨⟨away, by rwa [Grid.get?_put_of_ne other], free⟩, adjacent⟩

/-- Filling slots and allowing more steps spoils nothing. -/
theorem spoils_nothing (source : u.source = t.source) (target : u.target = t.target)
    (busy : u.busy = t.busy) (fills : ∀ c, (g.get? c).isSome = true → (k.get? c).isSome = true)
    (steps : ∀ c d, t.adjacency.Adjacent c d → u.adjacency.Adjacent c d)
    (r : ℕ → Coord → Breach) : t.Spoils g u k (fun _ => False) r where
  source := source
  target := target
  starts := by simpa only [Grid.holds_iff_isSome] using fills t.source
  spoilt _ impossible := impossible.elim
  spared fine _ := by
    obtain ⟨⟨apart, held, free⟩, adjacent⟩ := stepBreach?_eq_none_iff.1 fine
    refine stepBreach?_eq_none_iff.2 ⟨⟨by rwa [source], fills _ held, ?_⟩,
      steps _ _ adjacent⟩
    rwa [Allows, busy]

/-- The first of the spoilt positions is reported, with the number of steps before it. -/
theorem Spoils.stepsBreach?_eq [DecidablePred P] (h : t.Spoils g u k P r)
    (fine : t.stepsBreach? g i prev cs = none) :
    u.stepsBreach? k i prev cs = ((cs.zipIdx i).find? fun p => P p.1).map fun p => r p.2 p.1 := by
  induction cs generalizing i prev with
  | nil => simpa [stepsBreach?, h.target] using fine
  | cons c rest ih =>
    obtain ⟨first, later⟩ := stepsBreach?_cons_eq_none_iff.1 fine
    by_cases hc : P c
    · simp [stepsBreach?, h.spoilt first hc, hc]
    · simp [stepsBreach?, h.spared first hc, hc, ih later]

variable [Cell α] {path : List α}

theorem Spoils.breach?_eq [DecidablePred P] (h : t.Spoils g u k P r)
    (accepted : t.breach? g path = none) :
    u.breach? k path =
      ((path.map Cell.coord).zipIdx.find? fun p => P p.1).map fun p => r p.2 p.1 := by
  by_cases empty : path = []
  · simp [empty, breach?]
  · obtain ⟨apart, starts, fine⟩ := (breach?_eq_none_iff_stepsBreach? empty).1 accepted
    rw [breach?_eq_stepsBreach? empty (by rwa [h.source, h.target])
      (by rw [h.source]; exact h.starts starts), h.source]
    exact h.stepsBreach?_eq fine

structure FirstIn (path : List α) (P : Coord → Prop) (n : ℕ) (c : Coord) : Prop where
  reached : (path.map Cell.coord)[n]? = some c
  inside : P c
  first : ∀ m < n, ∀ d, (path.map Cell.coord)[m]? = some d → ¬ P d

theorem FirstIn.unique {m : ℕ} {d : Coord} (h : FirstIn path P n c) (h' : FirstIn path P m d) :
    n = m ∧ c = d := by
  obtain before | same | after := Nat.lt_trichotomy n m
  · exact absurd h.inside (h'.first n before c h.reached)
  · subst same
    exact ⟨rfl, Option.some.inj (h.reached.symm.trans h'.reached)⟩
  · exact absurd h'.inside (h.first m after d h'.reached)

theorem firstIn_of_find? [DecidablePred P]
    (h : (path.map Cell.coord).zipIdx.find? (fun p => P p.1) = some (c, n)) :
    FirstIn path P n c := by
  obtain ⟨inside, m, hm, at_m, before⟩ := List.find?_eq_some_iff_getElem.1 h
  rw [List.getElem_zipIdx, Nat.zero_add] at at_m
  cases at_m
  refine ⟨List.getElem?_eq_getElem _, by simpa using inside, fun l hl d hd => ?_⟩
  obtain ⟨_, rfl⟩ := List.getElem?_eq_some_iff.1 hd
  simpa using before l hl

section
variable [DecidablePred P] (h : t.Spoils g u k P r) (accepted : t.breach? g path = none)
include h accepted

/-- After the change nothing is wrong with the path if and only if it keeps off the spoilt
positions. -/
theorem Spoils.breach?_eq_none_iff :
    u.breach? k path = none ↔ ∀ a ∈ path, ¬ P (Cell.coord a) := by
  rw [h.breach?_eq accepted, Option.map_eq_none_iff, List.find?_eq_none]
  constructor
  · intro none_spoilt a ha
    obtain ⟨n, hn⟩ := List.mem_iff_getElem?.1 (List.mem_map_of_mem (f := Cell.coord) ha)
    simpa using none_spoilt _ (List.mk_mem_zipIdx_iff_getElem?.2 hn)
  · intro none_spoilt p hp
    obtain ⟨a, ha, e⟩ :=
      List.mem_map.1 (List.mem_of_getElem? (List.mem_zipIdx_iff_getElem?.1 hp))
    simpa [e] using none_spoilt a ha

theorem Spoils.exists_firstIn (hits : ∃ a ∈ path, P (Cell.coord a)) :
    ∃ n c, FirstIn path P n c ∧ u.breach? k path = some (r n c) := by
  have found := h.breach?_eq accepted
  cases spot : (path.map Cell.coord).zipIdx.find? (fun p => P p.1) with
  | none =>
    rw [spot, Option.map_none, h.breach?_eq_none_iff accepted] at found
    obtain ⟨a, ha, inside⟩ := hits
    exact absurd inside (found a ha)
  | some p =>
    rw [spot] at found
    exact ⟨p.2, p.1, firstIn_of_find? spot, found⟩

end

theorem Spoils.breach?_eq_none (h : t.Spoils g u k (fun _ => False) r)
    (accepted : t.breach? g path = none) :
    u.breach? k path = none :=
  (h.breach?_eq_none_iff accepted).2 fun _ _ => id

theorem breach?_put_none (h : path ≠ []) (accepted : t.breach? g path = none)
    (mem : c ∈ g.frame) :
    (t.breach? (g.put c none) path = none ↔
      c ≠ t.source ∧ ∀ a ∈ path, Cell.coord a ≠ c) ∧
    (c = t.source → t.breach? (g.put c none) path = some (.sourceNotInGrid c)) := by
  by_cases atSource : c = t.source
  · obtain ⟨apart, -⟩ := (breach?_eq_none_iff h).1 accepted
    have vacant : t.breach? (g.put c none) path = some (.sourceNotInGrid c) := by
      rw [breach?, if_neg (by simpa using h), if_neg apart, ← atSource,
        if_pos (Grid.isNone_get?_iff.2 (Grid.not_holds_put_none mem))]
    exact ⟨iff_of_false (by simp [vacant]) fun both => both.1 atSource, fun _ => vacant⟩
  · have spoils := spoils_put_none mem atSource
    exact ⟨by simp [spoils.breach?_eq_none_iff accepted, atSource],
      fun same => absurd same atSource⟩

/-- An accepted path after one change. Marking obstacles is noticed at the first of its cells that
has become busy. Emptying a slot is noticed at the source if it was that of the source, and
otherwise at the first cell at that slot. Filling a slot and allowing diagonal steps are not
noticed. -/
theorem breach?_after_change (t : Trip) (g : Grid α) (path : List α) (h : path ≠ [])
    (accepted : t.breach? g path = none) :
    (∀ cs : List Coord,
      ((t.avoiding cs).breach? g path = none ↔ ∀ a ∈ path, Cell.coord a ∉ cs) ∧
      ((∃ a ∈ path, Cell.coord a ∈ cs) →
        ∃ n c, FirstIn path (· ∈ cs) n c ∧
          (t.avoiding cs).breach? g path = some (.busyCell n c))) ∧
    (∀ c old k, g.take c = (.ok old, k) →
      (t.breach? k path = none ↔ c ≠ t.source ∧ ∀ a ∈ path, Cell.coord a ≠ c) ∧
      (c = t.source → t.breach? k path = some (.sourceNotInGrid c)) ∧
      (c ≠ t.source → (∃ a ∈ path, Cell.coord a = c) →
        ∃ n, FirstIn path (· = c) n c ∧ t.breach? k path = some (.notInGrid n c))) ∧
    (∀ c a, t.breach? (g.set c (some a)).2 path = none) ∧
    (t.adjacency = .four → (t.along .eight).breach? g path = none) := by
  refine ⟨fun cs => ⟨?_, ?_⟩, fun c old k taken => ?_, fun c a => ?_, fun _ => ?_⟩
  · exact (spoils_avoiding t g cs).breach?_eq_none_iff accepted
  · exact (spoils_avoiding t g cs).exists_firstIn accepted
  · obtain ⟨mem, rfl⟩ := Grid.take_eq_ok taken
    obtain ⟨unnoticed, atSource⟩ := breach?_put_none h accepted mem
    refine ⟨unnoticed, atSource, fun apart hits => ?_⟩
    obtain ⟨n, d, first, found⟩ := (spoils_put_none mem apart).exists_firstIn accepted hits
    cases first.inside
    exact ⟨n, first, found⟩
  · have spoils : t.Spoils g t (g.set c (some a)).2 (fun _ => False) .notInGrid :=
      spoils_nothing rfl rfl rfl (fun _ => Grid.isSome_get?_set_some a) (fun _ _ => id) _
    exact spoils.breach?_eq_none accepted
  · have spoils : t.Spoils g (t.along .eight) g (fun _ => False) .notInGrid :=
      spoils_nothing (t := t) (u := t.along .eight) rfl rfl rfl (fun _ => id)
        (fun _ _ => Adjacency.Adjacent.among_eight) _
    exact spoils.breach?_eq_none accepted

def detour : Trip := { source := ⟨0, 0⟩, target := ⟨2, 1⟩ }

def wandering : List Tile :=
  [⟨⟨0, 1⟩⟩, ⟨⟨1, 1⟩⟩, ⟨⟨0, 1⟩⟩, ⟨⟨1, 1⟩⟩, ⟨⟨2, 1⟩⟩]

theorem wandering_after_change : detour.breach? Grid.pond wandering = none ∧
    (detour.avoiding [⟨2, 0⟩, ⟨0, 0⟩]).breach? Grid.pond wandering = none ∧
    (detour.avoiding [⟨2, 1⟩, ⟨1, 1⟩]).breach? Grid.pond wandering =
      some (.busyCell 1 ⟨1, 1⟩) ∧
    detour.breach? (Grid.pond.take ⟨1, 1⟩).2 wandering = some (.notInGrid 1 ⟨1, 1⟩) ∧
    detour.breach? (Grid.pond.take ⟨0, 0⟩).2 wandering = some (.sourceNotInGrid ⟨0, 0⟩) ∧
    detour.breach? (Grid.pond.take ⟨2, 0⟩).2 wandering = none ∧
    detour.breach? (Grid.pond.set ⟨1, 0⟩ (some ⟨⟨7, 7⟩⟩)).2 wandering = none ∧
    (detour.along .eight).breach? Grid.pond wandering = none := by
  have accepted : detour.breach? Grid.pond wandering = none := by decide +kernel
  obtain ⟨marked, emptied, filled, eight⟩ :=
    breach?_after_change detour Grid.pond wandering (by decide) accepted
  have mid : FirstIn wandering (· = ⟨1, 1⟩) 1 ⟨1, 1⟩ := by
    refine ⟨rfl, rfl, fun m hm d hd => ?_⟩
    cases Nat.lt_one_iff.1 hm
    cases hd
    decide
  have busy_mid : FirstIn wandering (· ∈ [(⟨2, 1⟩ : Coord), ⟨1, 1⟩]) 1 ⟨1, 1⟩ := by
    refine ⟨rfl, by decide, fun m hm d hd => ?_⟩
    cases Nat.lt_one_iff.1 hm
    cases hd
    decide
  obtain ⟨n, c, first, busy⟩ := (marked [⟨2, 1⟩, ⟨1, 1⟩]).2 (by decide)
  obtain ⟨rfl, rfl⟩ := first.unique busy_mid
  obtain ⟨n, first, vacant⟩ := (emptied ⟨1, 1⟩ _ _ (by rfl)).2.2 (by decide) (by decide)
  obtain ⟨rfl, -⟩ := first.unique mid
  exact ⟨accepted, (marked _).1.2 (by decide), busy, vacant,
    (emptied ⟨0, 0⟩ _ _ (by rfl)).2.1 rfl,
    (emptied ⟨2, 0⟩ _ _ (by rfl)).1.2 (by decide), filled _ _, eight rfl⟩

end Trip
end GridWalk
