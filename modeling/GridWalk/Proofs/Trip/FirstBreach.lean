import Mathlib.Order.Bounds.Basic
import GridWalk.Proofs.Grid.Neighbourhood
import GridWalk.Proofs.Trip.Acceptance
/-! Which breach of a path is reported. A step can go wrong in four ways, which are looked for in a
fixed order; the steps are checked one after the other, and the first that goes wrong decides. Main
statement: the breach reported, for every path of at least one cell, from the least place at which a
step goes wrong. -/
namespace GridWalk

theorem Grid.isNone_get?_iff {α : Type} {g : Grid α} {c : Coord} :
    (g.get? c).isNone = true ↔ ¬ g.Holds c := by
  rw [holds_iff_isSome, Bool.not_eq_true, Option.isSome_eq_false_iff]

theorem Grid.Holds.isNone_ne {α : Type} {g : Grid α} {c : Coord} (h : g.Holds c) :
    ¬ (g.get? c).isNone = true :=
  mt isNone_get?_iff.1 (not_not.2 h)

instance {α : Type} (g : Grid α) (c : Coord) : Decidable (g.Holds c) :=
  decidable_of_iff _ Grid.holds_iff_isSome.symm

namespace Trip
variable {α : Type} {t : Trip} {g : Grid α} {prev p c : Coord} {cs ds : List Coord} {i n : ℕ}
  {b : Breach}

def Fails (t : Trip) (g : Grid α) (prev c : Coord) : Prop :=
  c = t.source ∨ ¬ g.Holds c ∨ c ∈ t.busy ∨ ¬ t.adjacency.Adjacent prev c

instance (t : Trip) (g : Grid α) (prev c : Coord) : Decidable (t.Fails g prev c) :=
  inferInstanceAs (Decidable (_ ∨ _ ∨ _ ∨ _))

inductive Reports (t : Trip) (g : Grid α) (i : ℕ) (prev c : Coord) : Breach → Prop where
  | source (h : c = t.source) : t.Reports g i prev c (.includesSource i)
  | vacant (apart : c ≠ t.source) (h : ¬ g.Holds c) : t.Reports g i prev c (.notInGrid i c)
  | busy (apart : c ≠ t.source) (held : g.Holds c) (h : c ∈ t.busy) :
      t.Reports g i prev c (.busyCell i c)
  | jump (apart : c ≠ t.source) (held : g.Holds c) (free : c ∉ t.busy)
      (h : ¬ t.adjacency.Adjacent prev c) :
      t.Reports g i prev c (.notAdjacent i prev c)

theorem Fails.exists_reports (h : t.Fails g prev c) (i : ℕ) : ∃ b, t.Reports g i prev c b := by
  by_cases source : c = t.source
  · exact ⟨_, .source source⟩
  · by_cases held : g.Holds c
    · by_cases busy : c ∈ t.busy
      · exact ⟨_, .busy source held busy⟩
      · have jump : ¬ t.adjacency.Adjacent prev c := by
          simpa [Fails, source, held, busy] using h
        exact ⟨_, .jump source held busy jump⟩
    · exact ⟨_, .vacant source held⟩

theorem Reports.stepBreach?_eq (h : t.Reports g i prev c b) :
    t.stepBreach? g i prev c = some b := by
  unfold stepBreach?
  cases h with
  | source h => rw [if_pos h]
  | vacant apart h => rw [if_neg apart, if_pos (Grid.isNone_get?_iff.2 h)]
  | busy apart held h => rw [if_neg apart, if_neg held.isNone_ne, if_pos h]
  | jump apart held free h => rw [if_neg apart, if_neg held.isNone_ne, if_neg free, if_neg h]

theorem stepBreach?_eq_none_iff_not_fails :
    t.stepBreach? g i prev c = none ↔ ¬ t.Fails g prev c := by
  simp only [stepBreach?_eq_none_iff, Enters, Allows, Fails, Grid.holds_iff_isSome, not_or,
    not_not, and_assoc, ne_eq]

/-- The step after `n` others leads from `p` to `c`, where the way begins at `prev` and goes through
`cs`. -/
def IsStep (prev : Coord) (cs : List Coord) (n : ℕ) (p c : Coord) : Prop :=
  (prev :: cs)[n]? = some p ∧ cs[n]? = some c

/-- The first steps are the same as long as the places are. -/
theorem isStep_iff_of_take_eq {m n : ℕ} (same : ds.take (n + 1) = cs.take (n + 1)) (h : m ≤ n) :
    IsStep prev ds m p c ↔ IsStep prev cs m p c := by
  have place (k : ℕ) (hk : k ≤ n) : ds[k]? = cs[k]? := by
    rw [← List.getElem?_take_of_lt (Nat.lt_succ_of_le hk), same,
      List.getElem?_take_of_lt (Nat.lt_succ_of_le hk)]
  cases m with
  | zero => rw [IsStep, IsStep, place 0 h, List.getElem?_cons_zero, List.getElem?_cons_zero]
  | succ m =>
    rw [IsStep, IsStep, place (m + 1) h, List.getElem?_cons_succ, List.getElem?_cons_succ,
      place m (Nat.le_of_succ_le h)]

/-- The first step that goes wrong is the one reported. -/
theorem stepsBreach?_of_first
    (fine : ∀ m < n, ∀ p' c', IsStep prev cs m p' c' → ¬ t.Fails g p' c')
    (step : IsStep prev cs n p c) (h : t.Reports g (i + n) p c b) :
    t.stepsBreach? g i prev cs = some b := by
  induction n generalizing i prev cs with
  | zero =>
    cases cs with
    | nil => cases step.2
    | cons d rest =>
      cases step.1
      cases step.2
      rw [Nat.add_zero] at h
      rw [stepsBreach?, h.stepBreach?_eq]
  | succ n ih =>
    cases cs with
    | nil => cases step.2
    | cons d rest =>
      have first : t.stepBreach? g i prev d = none :=
        stepBreach?_eq_none_iff_not_fails.2 (fine 0 (Nat.succ_pos n) prev d ⟨rfl, rfl⟩)
      rw [stepsBreach?, first]
      refine ih (fun m hm p' c' next => fine (m + 1) (Nat.succ_lt_succ hm) p' c' next) step ?_
      rwa [Nat.add_assoc, Nat.add_comm 1]

/-- If no step goes wrong the end of the way decides. -/
theorem stepsBreach?_of_fine (fine : ∀ m p' c', IsStep prev cs m p' c' → ¬ t.Fails g p' c')
    (ends : (prev :: cs).getLast? = some c) :
    t.stepsBreach? g i prev cs =
      if c = t.target then none else some (.wrongEndpoint t.target c) := by
  induction cs generalizing i prev with
  | nil =>
    cases ends
    rfl
  | cons d rest ih =>
    have first : t.stepBreach? g i prev d = none :=
      stepBreach?_eq_none_iff_not_fails.2 (fine 0 prev d ⟨rfl, rfl⟩)
    rw [stepsBreach?, first]
    exact ih (fun m p' c' next => fine (m + 1) p' c' next)
      (by rwa [List.getLast?_cons_cons] at ends)

variable [Cell α] {path : List α}

theorem breach?_eq_stepsBreach? (h : path ≠ []) (apart : t.source ≠ t.target)
    (starts : g.Holds t.source) :
    t.breach? g path = t.stepsBreach? g 0 t.source (path.map Cell.coord) := by
  rw [breach?, if_neg (by simpa using h), if_neg apart, if_neg starts.isNone_ne]

def FailsAt (t : Trip) (g : Grid α) (path : List α) (n : ℕ) : Prop :=
  ∃ p c, IsStep t.source (path.map Cell.coord) n p c ∧ t.Fails g p c

theorem failsAt_iff (step : IsStep t.source (path.map Cell.coord) n p c) :
    t.FailsAt g path n ↔ t.Fails g p c := by
  constructor
  · intro ⟨p', c', step', fails⟩
    cases step.1.symm.trans step'.1
    cases step.2.symm.trans step'.2
    exact fails
  · intro fails
    exact ⟨p, c, step, fails⟩

/-- Which breach is found in a path of at least one cell. Equal ends come first, then a source
without a cell. After that the first step that goes wrong decides, by the first thing that is wrong
with it, and the rest of the path is not looked at. Where no step goes wrong, the path must end at
the target. -/
theorem breach?_reports_first (t : Trip) (g : Grid α) (path : List α) (h : path ≠ []) :
    (t.source = t.target → t.breach? g path = some (.unexpectedPath path.length)) ∧
    (t.source ≠ t.target → ¬ g.Holds t.source →
      t.breach? g path = some (.sourceNotInGrid t.source)) ∧
    (t.source ≠ t.target → g.Holds t.source →
      (∀ n, IsLeast {m | t.FailsAt g path m} n →
        ∃ p c b, IsStep t.source (path.map Cell.coord) n p c ∧ t.Reports g n p c b ∧
          t.breach? g path = some b ∧
          ∀ other : List α, other.take (n + 1) = path.take (n + 1) →
            t.breach? g other = some b) ∧
      ((∀ n, ¬ t.FailsAt g path n) →
        (Cell.coord (path.getLast h) ≠ t.target →
          t.breach? g path = some (.wrongEndpoint t.target (Cell.coord (path.getLast h)))) ∧
        (Cell.coord (path.getLast h) = t.target → t.breach? g path = none))) := by
  have filled : ¬ path.isEmpty = true := by simpa using h
  refine ⟨fun same => ?_, fun apart vacant => ?_,
    fun apart starts => ⟨fun n least => ?_, fun fine => ?_⟩⟩
  · rw [breach?, if_neg filled, if_pos same]
  · rw [breach?, if_neg filled, if_neg apart, if_pos (Grid.isNone_get?_iff.2 vacant)]
  · obtain ⟨⟨p, c, step, fails⟩, first⟩ := least
    obtain ⟨b, reports⟩ := fails.exists_reports n
    -- What is found depends on the cells up to the first failure alone, so that it is found for
    -- all paths with these cells at once.
    have decided (other : List α) (same : other.take (n + 1) = path.take (n + 1)) :
        t.breach? g other = some b := by
      have same_places : (other.map Cell.coord).take (n + 1) =
          (path.map Cell.coord).take (n + 1) := by
        rw [← List.map_take, same, List.map_take]
      have nonempty : other ≠ [] := by
        rintro rfl
        exact h (by simpa using same.symm)
      rw [breach?_eq_stepsBreach? nonempty apart starts]
      refine stepsBreach?_of_first (fun m hm p' c' step' fails' => ?_)
        ((isStep_iff_of_take_eq same_places (Nat.le_refl n)).2 step) (by rwa [Nat.zero_add])
      have earlier := (isStep_iff_of_take_eq same_places (Nat.le_of_lt hm)).1 step'
      exact absurd (first ⟨p', c', earlier, fails'⟩) (Nat.not_le_of_lt hm)
    exact ⟨p, c, b, step, reports, decided path rfl, decided⟩
  · have ends : (t.source :: path.map Cell.coord).getLast? =
        some (Cell.coord (path.getLast h)) := by
      rw [List.getLast?_cons_of_ne_nil (by simpa using h), List.getLast?_map,
        List.getLast?_eq_some_getLast h, Option.map_some]
    rw [breach?_eq_stepsBreach? h apart starts,
      stepsBreach?_of_fine (fun m p' c' step fails => fine m ⟨p', c', step, fails⟩) ends]
    exact ⟨fun elsewhere => if_neg elsewhere, fun arrived => if_pos arrived⟩

def errand : Trip :=
  { source := ⟨0, 0⟩, target := ⟨2, 1⟩, busy := .ofList [⟨1, 0⟩, ⟨2, 0⟩] }

def stray : List Tile := [⟨⟨0, 1⟩⟩, ⟨⟨1, 0⟩⟩, ⟨⟨0, 0⟩⟩]

theorem stray_first_failure : IsLeast {n | errand.FailsAt Grid.pond stray n} 1 := by
  refine ⟨(failsAt_iff (p := ⟨0, 1⟩) (c := ⟨1, 0⟩) ⟨rfl, rfl⟩).2 (by decide +kernel),
    fun n fails => ?_⟩
  cases n with
  | zero =>
    exact absurd ((failsAt_iff (p := ⟨0, 0⟩) (c := ⟨0, 1⟩) ⟨rfl, rfl⟩).1 fails)
      (by decide +kernel)
  | succ n => exact Nat.le_add_left 1 n

theorem stray_breach : errand.breach? Grid.pond stray = some (.notInGrid 1 ⟨1, 0⟩) ∧
    errand.breach? Grid.pond [⟨⟨0, 1⟩⟩, ⟨⟨1, 0⟩⟩, ⟨⟨2, 1⟩⟩] =
      some (.notInGrid 1 ⟨1, 0⟩) ∧
    errand.breach? Grid.pond [⟨⟨0, 1⟩⟩, ⟨⟨1, 1⟩⟩] =
      some (.wrongEndpoint ⟨2, 1⟩ ⟨1, 1⟩) ∧
    { errand with source := ⟨1, 0⟩ }.breach? Grid.pond stray =
      some (.sourceNotInGrid ⟨1, 0⟩) ∧
    { errand with target := ⟨0, 0⟩ }.breach? Grid.pond stray = some (.unexpectedPath 3) := by
  obtain ⟨-, -, steps⟩ := breach?_reports_first errand Grid.pond stray (by decide)
  obtain ⟨p, c, b, step, reports, found, rest⟩ :=
    (steps (by decide) (by decide +kernel)).1 1 stray_first_failure
  cases step.1
  cases step.2
  have reported : some b = some (.notInGrid 1 ⟨1, 0⟩) :=
    reports.stepBreach?_eq.symm.trans (by decide +kernel)
  obtain ⟨-, -, short⟩ :=
    breach?_reports_first errand Grid.pond [⟨⟨0, 1⟩⟩, ⟨⟨1, 1⟩⟩] (by decide)
  have fine (n : ℕ) :
      ¬ errand.FailsAt Grid.pond [(⟨⟨0, 1⟩⟩ : Tile), ⟨⟨1, 1⟩⟩] n := by
    match n with
    | 0 =>
      rw [failsAt_iff (p := ⟨0, 0⟩) (c := ⟨0, 1⟩) ⟨rfl, rfl⟩]
      decide +kernel
    | 1 =>
      rw [failsAt_iff (p := ⟨0, 1⟩) (c := ⟨1, 1⟩) ⟨rfl, rfl⟩]
      decide +kernel
    | n + 2 =>
      intro ⟨p, c, step, fails⟩
      cases step.2
  obtain ⟨-, vacant, -⟩ :=
    breach?_reports_first { errand with source := ⟨1, 0⟩ } Grid.pond stray (by decide)
  obtain ⟨same, -⟩ :=
    breach?_reports_first { errand with target := ⟨0, 0⟩ } Grid.pond stray (by decide)
  exact ⟨found.trans reported, (rest _ (by decide)).trans reported,
    ((short (by decide) (by decide +kernel)).2 fine).1 (by decide),
    vacant (by decide) (by decide +kernel), same (by decide)⟩

end Trip
end GridWalk
