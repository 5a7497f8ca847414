import GridWalk.Proofs.Search.Footing
import GridWalk.Proofs.Trip.Obstacles
/-! Two searches of one grid, positional or not, that differ in obstacles which neither asks for.
The source is met before all else, and a cell is asked for obstacles only where it reports to be in
the grid and not yet met; so the two searches go step by step together and return the same. -/
namespace GridWalk
variable {α : Type} {t u : Trip} {c p d : Coord} {s s' : Sweep} {marks : Grid Mark} {n : ℕ}

/-- A slot that has been met stays met. -/
theorem Sweep.isSome_get?_mark (met : (s.marks.get? c).isSome) :
    ((s.mark p d).marks.get? c).isSome := by
  by_cases h : d ∈ s.marks.frame
  · rw [get?_marks_mark h]
    split
    · rfl
    · exact met
  · rwa [mark, Grid.put_of_not_mem h]

namespace BreadthFirst
variable [Cell α] {b : BreadthFirst α} {cells : List α} {a : α}

theorem isSome_get?_of_survey (met : (s.marks.get? c).isSome)
    (h : b.survey t p cells s = .searching s') : (s'.marks.get? c).isSome := by
  induction cells generalizing s with
  | nil =>
    cases h
    exact met
  | cons a rest ih =>
    rw [survey] at h
    split at h
    · dsimp only at h
      split at h
      · cases h
      · exact ih (s := (s.mark p (Cell.coord a)).push (Cell.coord a))
          (Sweep.isSome_get?_mark met) h
    · exact ih met h

theorem isSome_get?_of_step (met : (s.marks.get? c).isSome) (h : b.step t s = .searching s') :
    (s'.marks.get? c).isSome := by
  rw [step] at h
  split at h
  · cases h
  · next frontier _ => exact isSome_get?_of_survey (s := { s with frontier }) met h

section
variable (h : t.AgreesOn u b.grid.frame)
include h

/-- Once the source has been met, both searches step to the same cells. -/
theorem admits_iff_of_agreesOn (met : (marks.get? t.source).isSome) :
    b.Admits u marks a ↔ b.Admits t marks a := by
  refine and_congr_right fun inside => and_congr_right fun unmet => and_congr_left fun _ => ?_
  have off_source : Cell.coord a ≠ t.source := by
    intro e
    rw [← e, unmet] at met
    contradiction
  rw [Trip.Allows, Trip.Allows, h.busy _ inside off_source]

theorem survey_eq_of_agreesOn (met : (s.marks.get? t.source).isSome) :
    b.survey u p cells s = b.survey t p cells s := by
  induction cells generalizing s with
  | nil => rfl
  | cons a rest ih =>
    simp only [survey, admits_iff_of_agreesOn h met, h.target]
    rw [ih met,
      ih (s := (s.mark p (Cell.coord a)).push (Cell.coord a)) (Sweep.isSome_get?_mark met)]

theorem step_eq_of_agreesOn (met : (s.marks.get? t.source).isSome) : b.step u s = b.step t s := by
  rw [step, step, h.adjacency]
  cases s.frontier.pop? with
  | none => rfl
  | some front => exact survey_eq_of_agreesOn (s := { s with frontier := front.2 }) h met

theorem run_eq_of_agreesOn (met : (s.marks.get? t.source).isSome) : b.run u n s = b.run t n s := by
  induction n generalizing s with
  | zero => rfl
  | succ n ih =>
    rw [run, run, step_eq_of_agreesOn h met]
    cases hs : b.step t s with
    | searching s' => exact ih (isSome_get?_of_step met hs)
    | arrived marks => rfl
    | exhausted => rfl

theorem findPath_eq_of_agreesOn : b.findPath u = b.findPath t := by
  have same_start : b.Begins u ↔ b.Begins t := by rw [Begins, Begins, h.source, h.target]
  by_cases hb : b.Begins t
  · have met : ((Sweep.start b.grid.frame b.grid.valid t.source).marks.get? t.source).isSome := by
      simp [Sweep.get?_marks_start b.grid.valid hb.source_mem]
    rw [findPath, findPath, if_pos hb, if_pos (same_start.2 hb), h.source, h.target,
      run_eq_of_agreesOn h met]
  · rw [findPath, findPath, if_neg hb, if_neg fun hu => hb (same_start.1 hu)]

end

def Interchangeable (b : BreadthFirst α) (t u : Trip) : Prop :=
  b.findPath u = b.findPath t ∧ ∀ path : List α, u.breach? b.grid path = t.breach? b.grid path

theorem interchangeable_of_agreesOn (h : t.AgreesOn u b.grid.frame) : b.Interchangeable t u :=
  ⟨findPath_eq_of_agreesOn h, h.breach?_eq⟩

/-- Of the obstacles only those within the grid and off the source have a say in a search or a
verdict, and only by being there: the order of their marking and repetitions do not count, nor does
anything in which trips that ask for the same may still differ. -/
theorem interchangeable_of_relevant (b : BreadthFirst α) (t : Trip) :
    (∀ u, t.AgreesOn u b.grid.frame → b.Interchangeable t u) ∧
    (∀ u, t.same u = true → b.Interchangeable t u) ∧
    ∀ cs ds, (∀ c ∈ b.grid.frame, c ≠ t.source → (c ∈ cs ↔ c ∈ ds)) →
      b.Interchangeable (t.avoiding cs) (t.avoiding ds) :=
  ⟨fun _ => interchangeable_of_agreesOn,
    fun _ same => interchangeable_of_agreesOn (.of_same same _),
    fun _ _ agree => interchangeable_of_agreesOn (.avoiding agree)⟩

def pastSignposts : Trip := { source := ⟨0, 0⟩, target := ⟨4, 0⟩ }

/-- A busy source is no obstacle; one obstacle marked twice, with a place off the grid, comes to
that obstacle; and two obstacles close the way in either order. -/
theorem signposts_interchangeable :
    (aroundWalls signposts).Interchangeable pastSignposts
      { pastSignposts with busy := .ofList [⟨0, 0⟩] } ∧
    (aroundWalls signposts).Interchangeable (pastSignposts.avoiding [⟨3, 0⟩, ⟨2, 0⟩])
      (pastSignposts.avoiding [⟨2, 0⟩, ⟨3, 0⟩]) ∧
    (aroundWalls signposts).Interchangeable
      (pastSignposts.avoiding [⟨2, 0⟩, ⟨9, 9⟩, ⟨2, 0⟩])
      (pastSignposts.avoiding [⟨2, 0⟩]) ∧
    (aroundWalls signposts).findPath { pastSignposts with busy := .ofList [⟨0, 0⟩] } =
      [.wall ⟨3, 0⟩, .wall ⟨4, 0⟩] ∧
    (aroundWalls signposts).findPath (pastSignposts.avoiding [⟨2, 0⟩, ⟨3, 0⟩]) = [] := by
  have busy_source :
      pastSignposts.AgreesOn { pastSignposts with busy := .ofList [⟨0, 0⟩] }
        signposts.frame := by
    refine ⟨rfl, rfl, rfl, fun c _ off_source =>
      iff_of_false (fun marked => ?_) List.not_mem_nil⟩
    exact off_source (List.mem_singleton.1 (Obstacles.mem_ofList.1 marked))
  have twice : ∀ c ∈ signposts.frame, c ≠ pastSignposts.source →
      (c ∈ [⟨2, 0⟩, ⟨9, 9⟩, (⟨2, 0⟩ : Coord)] ↔ c ∈ [(⟨2, 0⟩ : Coord)]) := by
    intro c inside _
    have off_corner : c ≠ ⟨9, 9⟩ := by
      intro e
      rw [e] at inside
      revert inside
      decide
    simp [off_corner]
  obtain ⟨marked, -, listed⟩ :=
    interchangeable_of_relevant (aroundWalls signposts) pastSignposts
  obtain ⟨-, reordered, -⟩ :=
    interchangeable_of_relevant (aroundWalls signposts)
      (pastSignposts.avoiding [⟨3, 0⟩, ⟨2, 0⟩])
  exact ⟨marked _ busy_source, reordered _ (by decide), listed _ _ twice, by decide +kernel,
    by decide +kernel⟩

end BreadthFirst
end GridWalk
