import Mathlib.Data.List.Forall2
import GridWalk.Proofs.Grid.Built
/-! The faults of grids, each with the exact condition under which it arises. A construction is
refused for the first of four reasons, all of them faults of its arguments. A grid that was built
knows one fault only, that of a position beyond its extents, and none of its operations but those
that name a position ever fail. -/
namespace GridWalk

namespace Frame
variable {f : Frame} {s : Storage} {e : Fault}

/-- The product of any two sides can be written in 64 bits. -/
theorem slotCount?_eq (f : Frame) : f.slotCount? = some f.area := by
  have width_le : f.width.toNat ≤ 4294967295 := Nat.le_of_lt_succ f.width.toNat_lt
  have height_le : f.height.toNat ≤ 4294967295 := Nat.le_of_lt_succ f.height.toNat_lt
  refine if_pos ?_
  calc f.area ≤ 4294967295 * 4294967295 := Nat.mul_le_mul width_le height_le
    _ < UInt64.size := by decide

/-- What is reported of a frame for which no grid is built: an empty side, else the width, else the
height, else that there is no room for the slots. -/
inductive Refused (f : Frame) (s : Storage) : Fault → Prop where
  | empty (h : f.width = 0 ∨ f.height = 0) : f.Refused s (.emptyGrid f.width f.height)
  | wide (filled : ¬ (f.width = 0 ∨ f.height = 0)) (h : maxSide < f.width) :
      f.Refused s (.dimensionTooLarge "width" f.width maxSide)
  | high (filled : ¬ (f.width = 0 ∨ f.height = 0)) (narrow : ¬ maxSide < f.width)
      (h : maxSide < f.height) :
      f.Refused s (.dimensionTooLarge "height" f.height maxSide)
  | crowded (filled : ¬ (f.width = 0 ∨ f.height = 0)) (narrow : ¬ maxSide < f.width)
      (low : ¬ maxSide < f.height) (h : s.grants f.area = false) :
      f.Refused s (.dimensionTooLarge "width * height" (max f.width f.height) maxSide)

theorem Refused.isInvalidArgument (h : f.Refused s e) : e.isInvalidArgument = true := by
  cases h <;> rfl

theorem exists_refused_iff : (∃ e, f.Refused s e) ↔
    f.width = 0 ∨ f.height = 0 ∨ maxSide < f.width ∨ maxSide < f.height ∨
      s.grants f.area = false := by
  constructor
  · intro ⟨e, h⟩
    cases h with
    | empty h => simp [← or_assoc, h]
    | wide _ h => simp [h]
    | high _ _ h => simp [h]
    | crowded _ _ _ h => simp [h]
  · intro h
    by_cases empty : f.width = 0 ∨ f.height = 0
    · exact ⟨_, .empty empty⟩
    · by_cases wide : maxSide < f.width
      · exact ⟨_, .wide empty wide⟩
      · by_cases high : maxSide < f.height
        · exact ⟨_, .high empty wide high⟩
        · have full : s.grants f.area = false := by
            simpa [← or_assoc, empty, wide, high] using h
          exact ⟨_, .crowded empty wide high full⟩

theorem admit_of_fault? (h : f.fault? = some e) : f.admit s = .error e := by
  unfold Frame.admit
  split
  · next h' =>
    rw [h] at h'
    cases h'
    rfl
  · next h' =>
    rw [h] at h'
    cases h'

theorem admit_eq_error_iff_of_fault?_eq_none (h : f.fault? = none) :
    f.admit s = .error e ↔ s.grants f.area = false ∧ e = f.tooLarge := by
  unfold Frame.admit
  split
  · next h' =>
    rw [h] at h'
    cases h'
  · rw [slotCount?_eq]
    dsimp only
    cases s.grants f.area with
    | true =>
      constructor
      · intro granted
        cases granted
      · intro ⟨denied, _⟩
        cases denied
    | false =>
      constructor
      · intro denied
        cases denied
        exact ⟨rfl, rfl⟩
      · intro ⟨_, e_eq⟩
        rw [e_eq]
        rfl

theorem Refused.admit_eq (h : f.Refused s e) : f.admit s = .error e := by
  cases h with
  | empty h => exact admit_of_fault? (by simp [fault?, h])
  | wide filled h => exact admit_of_fault? (by simp [fault?, filled, h])
  | high filled narrow h => exact admit_of_fault? (by simp [fault?, filled, narrow, h])
  | crowded filled narrow low h =>
    have sound : f.fault? = none := by simp [fault?, filled, narrow, low]
    exact (admit_eq_error_iff_of_fault?_eq_none sound).2 ⟨h, rfl⟩

theorem admit_eq_error_iff : f.admit s = .error e ↔ f.Refused s e := by
  refine ⟨fun h => ?_, Refused.admit_eq⟩
  by_cases refused : ∃ e', f.Refused s e'
  · obtain ⟨e', h'⟩ := refused
    rw [h'.admit_eq] at h
    cases h
    exact h'
  · simp only [exists_refused_iff, not_or] at refused
    obtain ⟨width_ne, height_ne, narrow, low, granted⟩ := refused
    have sound : f.fault? = none := by simp [fault?, width_ne, height_ne, narrow, low]
    exact absurd ((admit_eq_error_iff_of_fault?_eq_none sound).1 h).1 granted

end Frame

namespace Grid
variable {α σ : Type} {g : Grid α} {c : Coord} {e : Fault}

theorem build_eq_error_iff {s : Storage} {f : Frame}
    {generator : Coord → StateM σ (Option α)} {t : σ} :
    ((build s f generator).run t).1 = .error e ↔ f.Refused s e := by
  rw [← Frame.admit_eq_error_iff, build]
  cases f.admit s with
  | error e' =>
    constructor
    · intro h
      cases h
      rfl
    · intro h
      cases h
      rfl
  | ok valid =>
    constructor
    · intro h
      cases h
    · intro h
      cases h

/-- Where there is room for the slots of a frame with valid sides, no generator is refused. -/
theorem exists_build_eq_ok {s : Storage} {f : Frame} (h : f.Valid) (room : s.grants f.area = true)
    (generator : Coord → StateM σ (Option α)) (t : σ) :
    ∃ g t', (build s f generator).run t = (.ok g, t') := by
  cases built : (build s f generator).run t with
  | mk outcome t' =>
    cases outcome with
    | ok g => exact ⟨g, t', rfl⟩
    | error e =>
      have refused : f.Refused s e := build_eq_error_iff.1 (congrArg Prod.fst built)
      have sound : f.fault? = none := Frame.fault?_eq_none_iff.2 h
      have denied := ((Frame.admit_eq_error_iff_of_fault?_eq_none sound).1 refused.admit_eq).1
      rw [room] at denied
      cases denied

theorem exists_builtFrom (α : Type) {f : Frame} (h : f.Valid) :
    ∃ g : Grid α, g.BuiltFrom f := by
  obtain ⟨g, _, built⟩ := exists_build_eq_ok (s := ⟨fun _ => true⟩) h rfl
    (fun _ => (pure none : StateM Unit (Option α))) ()
  exact ⟨g, .filled built⟩

theorem get_eq_error_iff : g.get c = .error e ↔ c ∉ g.frame ∧ e = g.outOfBounds c := by
  rw [get]
  by_cases h : c ∈ g.frame
  · simp [h]
  · simp [h, eq_comm]

theorem revise_eq_error_iff {next : Option α → Option α} :
    (g.revise c next).1 = .error e ↔ c ∉ g.frame ∧ e = g.outOfBounds c := by
  by_cases h : c ∈ g.frame
  · simp [revise_of_mem h, h]
  · simp [revise_of_not_mem h, h, eq_comm]

end Grid

namespace Change
variable {α σ : Type} {f : Frame}

def place? : Change σ α → Option Coord
  | edit e => e.place?
  | refill _ => none

/-- The answer to a change of a grid with the frame `f` is a fault exactly where the change names a
position beyond the frame, and then the one that carries this position and the extents. -/
def FailsBeyond (f : Frame) (x : Change σ α) (answer : Except Fault (Option α)) : Prop :=
  ∀ e, answer = .error e ↔ ∃ c, x.place? = some c ∧ c ∉ f ∧
    e = .outOfBounds c f.width f.height

theorem failsBeyond_apply (g : Grid α) (x : Change σ α) (t : σ) :
    x.FailsBeyond g.frame ((x.apply g).run t).1.1 := by
  intro e
  cases x with
  | refill generator =>
    constructor
    · intro h
      cases h
    · intro ⟨c, named, _⟩
      cases named
  | edit edit =>
    have answer : (((Change.edit edit : Change σ α).apply g).run t).1.1 = (edit.apply g).1 := rfl
    rw [answer, place?]
    cases named : edit.place? with
    | none =>
      cases edit with
      | recast cells => simp [Edit.apply]
      | _ => simp [Edit.place?] at named
    | some c =>
      obtain ⟨next, apply_eq⟩ := Edit.exists_revise named
      rw [apply_eq, Grid.revise_eq_error_iff]
      simp [Grid.outOfBounds]

/-- In a run the changes that fail are those that name a position beyond the frame, which stays the
same. -/
theorem failsBeyond_run (g : Grid α) (changes : List (Change σ α)) (t : σ) :
    List.Forall₂ (FailsBeyond g.frame) changes ((run g changes).run t).1.1 := by
  induction changes generalizing g t with
  | nil => exact .nil
  | cons x rest ih =>
    have later := ih ((x.apply g).run t).1.2 ((x.apply g).run t).2
    rw [frame_apply] at later
    exact .cons (failsBeyond_apply g x t) later

end Change

namespace Grid
variable {α : Type} {g : Grid α} {c : Coord} {e : Fault}

def Rejects (g : Grid α) (c : Coord) (e : Fault) : Prop :=
  g.memory.isWithin c = false ∧ e = .outOfBounds c g.frame.width g.frame.height

theorem rejects_iff : g.Rejects c e ↔ c ∉ g.frame ∧ e = g.outOfBounds c := by
  rw [Rejects, isWithin_memory, decide_eq_false_iff_not, outOfBounds]

theorem Rejects.isInvalidArgument (h : g.Rejects c e) : e.isInvalidArgument = false := by
  rw [h.2]
  rfl

/-- All faults there are. A construction reports the first of four objections, if there is any, and
it is one to the arguments. On a grid that was built, after any run of changes, the operations that
name a position fail exactly where it is found not to be within the grid, with a fault that carries
it and the extents and blames no argument; nothing else fails. -/
theorem faults_exact (α σ : Type) (s : Storage) (f : Frame) :
    f.slotCount? = some (f.width.toNat * f.height.toNat) ∧
    (∀ (generator : Coord → StateM σ (Option α)) (t : σ) (e : Fault),
      ((build s f generator).run t).1 = .error e ↔ f.Refused s e) ∧
    ((∃ e, f.Refused s e) ↔ f.width = 0 ∨ f.height = 0 ∨ Frame.maxSide < f.width ∨
      Frame.maxSide < f.height ∨ s.grants (f.width.toNat * f.height.toNat) = false) ∧
    (∀ e, f.Refused s e → e.isInvalidArgument = true) ∧
    ∀ g : Grid α, g.BuiltFrom f → ∀ (changes : List (Change σ α)) (t : σ),
      ∃ answers k t', (Change.run g changes).run t = ((answers, k), t') ∧ k.frame = f ∧
        List.Forall₂ (Change.FailsBeyond f) changes answers ∧
        (∀ c e, (k.get c = .error e ↔ k.Rejects c e) ∧
          (∀ cell, (k.set c cell).1 = .error e ↔ k.Rejects c e) ∧
          ((k.take c).1 = .error e ↔ k.Rejects c e) ∧
          (∀ h, (k.overwrite c h).1 = .error e ↔ k.Rejects c e)) ∧
        (∀ c e, k.Rejects c e → e.isInvalidArgument = false) ∧
        (∀ (x : Change σ α) (u : σ), x.FailsBeyond f ((x.apply k).run u).1.1) ∧
        k.memory.Serves k := by
  refine ⟨f.slotCount?_eq, fun _ _ _ => build_eq_error_iff, Frame.exists_refused_iff,
    fun _ => Frame.Refused.isInvalidArgument, fun g built changes t => ?_⟩
  obtain ⟨answers, k, t', ran, frame_kept⟩ := built.exists_run changes t
  have answered := Change.failsBeyond_run g changes t
  rw [ran, built.frame_eq] at answered
  refine ⟨answers, k, t', ran, frame_kept, answered, fun c e => ?_,
    fun _ _ => Rejects.isInvalidArgument, fun x u => ?_, k.serves_memory⟩
  · rw [rejects_iff]
    exact ⟨get_eq_error_iff, fun _ => revise_eq_error_iff, revise_eq_error_iff,
      fun _ => revise_eq_error_iff⟩
  · rw [← frame_kept]
    exact Change.failsBeyond_apply k x u

/-- Of several objections the first is reported, up to the lack of room; and a small grid refuses
the columns to its left and its right, after whatever changes. -/
theorem sides_at_fault :
    ((build .standard { width := 0, height := 4294967295 } fun _ => pure (some 1)).run ()).1 =
      .error (.emptyGrid 0 4294967295) ∧
    ((build .standard { width := 4294967295, height := 4294967295 } fun _ =>
      pure (some 1)).run ()).1 =
      .error (.dimensionTooLarge "width" 4294967295 2147483647) ∧
    ((build ⟨fun _ => false⟩ { width := 2, height := 3 } fun _ => pure (some 1)).run ()).1 =
      .error (.dimensionTooLarge "width * height" 3 2147483647) ∧
    ∃ (g k : Grid Nat) (answers : List (Except Fault (Option Nat))), Grid.empty 3 2 = .ok g ∧
      (Change.run g [.edit (.set ⟨3, 0⟩ (some 7)), .edit (.recast fun _ => some 4),
        .edit (.take ⟨-1, 1⟩),
        .edit (.overwrite ⟨2, 1⟩ Nat.succ)]).run () = ((answers, k), ()) ∧
      answers = [.error (.outOfBounds ⟨3, 0⟩ 3 2), .ok none,
        .error (.outOfBounds ⟨-1, 1⟩ 3 2), .ok (some 4)] ∧
      k.get ⟨3, 1⟩ = .error (.outOfBounds ⟨3, 1⟩ 3 2) ∧
      k.get ⟨2, 1⟩ = .ok (some 5) := by
  obtain ⟨-, empty, -⟩ := faults_exact Nat Unit .standard { width := 0, height := 4294967295 }
  obtain ⟨-, wide, -⟩ :=
    faults_exact Nat Unit .standard { width := 4294967295, height := 4294967295 }
  obtain ⟨-, crowded, -⟩ :=
    faults_exact Nat Unit ⟨fun _ => false⟩ { width := 2, height := 3 }
  obtain ⟨g, built⟩ : ∃ g : Grid Nat, Grid.empty 3 2 = .ok g := ⟨_, rfl⟩
  obtain ⟨-, -, -, -, reached⟩ := faults_exact Nat Unit .standard { width := 3, height := 2 }
  obtain ⟨answers, k, t', ran, frame_eq, -, named, -⟩ := reached g (.empty rfl built)
    [.edit (.set ⟨3, 0⟩ (some 7)), .edit (.recast fun _ => some 4), .edit (.take ⟨-1, 1⟩),
      .edit (.overwrite ⟨2, 1⟩ Nat.succ)] ()
  have beyond : k.get ⟨3, 1⟩ = .error (.outOfBounds ⟨3, 1⟩ 3 2) := by
    refine (named _ _).1.2 (rejects_iff.2 ⟨?_, ?_⟩)
    · rw [frame_eq]
      decide
    · rw [outOfBounds, frame_eq]
  cases built
  have outcome := ran
  cases outcome
  exact ⟨(empty _ _ _).2 (.empty (by decide)), (wide _ _ _).2 (.wide (by decide) (by decide)),
    (crowded _ _ _).2 (.crowded (by decide) (by decide) (by decide) rfl), _, _, _, rfl,
    ran, by decide +kernel, beyond, by decide +kernel⟩

end Grid
end GridWalk
