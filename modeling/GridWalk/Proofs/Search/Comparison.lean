import GridWalk.Proofs.Search.BestPath
import GridWalk.Proofs.Trip.Obstacles
/-! Two searches of one positional grid compared by their answers. Where every answer of the second
is one of the first, the second finds no path unless the first does, none shorter, and the same one
if that still answers. So it is with more obstacles, and with cardinal steps instead of all
eight. -/
namespace GridWalk.BreadthFirst
variable {α : Type} [Cell α] {b b' : BreadthFirst α} {t t' : Trip} {path path' : List α}

/-- An answer to one trip answers another with the same ends, if its steps, its positions and its
cells are allowed there as well. -/
theorem Answers.transfer (h : b'.Answers t' path) (grid : b'.grid = b.grid)
    (source : t'.source = t.source) (target : t'.target = t.target)
    (adjacent : ∀ c d, t'.adjacency.Adjacent c d → t.adjacency.Adjacent c d)
    (free : ∀ a ∈ path, b'.passable a = true → t'.Allows (Cell.coord a) →
      b.passable a = true ∧ t.Allows (Cell.coord a)) : b.Answers t path := by
  have accepted := (Trip.breach?_eq_none_iff h.ne_nil).1 h.accepted
  rw [source, target, grid] at accepted
  obtain ⟨ne, occupied, enters, chain, last⟩ := accepted
  have allowed (a : α) (ha : a ∈ path) : b.passable a = true ∧ t.Allows (Cell.coord a) :=
    free a ha (h.passable a ha) (enters _ (List.mem_map_of_mem ha)).2.2
  refine ⟨h.ne_nil, grid ▸ h.occupied, fun a ha => (allowed a ha).1, ?_⟩
  refine (Trip.breach?_eq_none_iff h.ne_nil).2 ⟨ne, occupied, fun c hc => ?_,
    chain.imp adjacent, last⟩
  obtain ⟨a, ha, rfl⟩ := List.mem_map.1 hc
  obtain ⟨apart, held, -⟩ := enters _ hc
  rw [source] at apart
  exact ⟨apart, held, (allowed a ha).2⟩

section
variable (hg : b.grid.Positional)
include hg

theorem filterMap_map_coord (h : ∀ a ∈ path, a ∈ b.grid.occupied) :
    (path.map Cell.coord).filterMap b.grid.get? = path := by
  induction path with
  | nil => rfl
  | cons a rest ih =>
    rw [List.forall_mem_cons] at h
    rw [List.map_cons, List.filterMap_cons_some (get?_of_mem_occupied hg h.1), ih h.2]

/-- An answer is told by its course, cell for cell. -/
theorem Answers.eq_of_courseOf_eq (h : b.Answers t path) (h' : b.Answers t path')
    (same : t.courseOf path = t.courseOf path') : path = path' := by
  rw [← filterMap_map_coord hg h.occupied, ← filterMap_map_coord hg h'.occupied,
    ← (h.follow hg).2, ← (h'.follow hg).2, same]

theorem Answers.findPath_ne_nil (h : b.Answers t path) : b.findPath t ≠ [] := by
  obtain ⟨w, hw, -⟩ := h.exists_best hg
  exact (answers_of_best hg h.begins hw).ne_nil

theorem Answers.length_findPath_le (h : b.Answers t path) :
    (b.findPath t).length ≤ path.length := by
  have le := h.courseKey_findPath_le hg
  rw [courseKey_le_iff, Trip.length_courseOf, Trip.length_courseOf] at le
  omega

end

section
variable (hg : b.grid.Positional) (hg' : b'.grid.Positional)
  (fewer : ∀ path, b'.Answers t' path → b.Answers t path)
include hg hg' fewer

theorem findPath_eq_nil_of_fewer (none : b.findPath t = []) : b'.findPath t' = [] := by
  by_contra found
  exact (fewer _ (answers_of_findPath hg' found)).findPath_ne_nil hg none

theorem length_findPath_le_of_fewer (found : b'.findPath t' ≠ []) :
    (b.findPath t).length ≤ (b'.findPath t').length :=
  (fewer _ (answers_of_findPath hg' found)).length_findPath_le hg

/-- A path found that is left among fewer answers comes first among these too. -/
theorem findPath_eq_of_fewer (course : ∀ path : List α, t'.courseOf path = t.courseOf path)
    (h : b'.Answers t' (b.findPath t)) : b'.findPath t' = b.findPath t := by
  have h' : b.Answers t (b'.findPath t') :=
    fewer _ (answers_of_findPath hg' (h.findPath_ne_nil hg'))
  have le := h'.courseKey_findPath_le hg
  have ge := h.courseKey_findPath_le hg'
  rw [course, course] at ge
  exact h'.eq_of_courseOf_eq hg (fewer _ h) (courseKey_injective (le_antisymm ge le))

end

def requiring (b : BreadthFirst α) (q : α → Bool) : BreadthFirst α := { b with passable := q }

variable {q : α → Bool} {more : List Coord}

theorem answers_of_hindered (hq : ∀ a, q a = true → b.passable a = true)
    (h : (b.requiring q).Answers (t.avoiding more) path) : b.Answers t path := by
  refine h.transfer rfl rfl rfl (fun _ _ => id) fun a _ required allowed => ?_
  exact ⟨hq a required, (Trip.allows_avoiding_iff.1 allowed).1⟩

theorem Answers.hindered (h : b.Answers t path) (spared : ∀ a ∈ path,
      (t.Allows (Cell.coord a) → (t.avoiding more).Allows (Cell.coord a)) ∧ q a = true) :
    (b.requiring q).Answers (t.avoiding more) path :=
  h.transfer rfl rfl rfl (fun _ _ => id) fun a ha _ allowed =>
    ⟨(spared a ha).2, (spared a ha).1 allowed⟩

theorem answers_of_four (h : b.Answers (t.along .four) path) : b.Answers (t.along .eight) path :=
  h.transfer rfl rfl rfl (fun _ _ => Adjacency.Adjacent.among_eight)
    fun _ _ passable allowed => ⟨passable, allowed⟩

/-- Positions marked busy and cells made impassable never open a way and never shorten one, and a
path found that they spare is found again. Nor do cardinal steps alone do better than all eight. -/
theorem findPath_hindered (b : BreadthFirst α) (hg : b.grid.Positional) (t : Trip)
    (more : List Coord) (q : α → Bool) (hq : ∀ a, q a = true → b.passable a = true) :
    (b.findPath t = [] → (b.requiring q).findPath (t.avoiding more) = []) ∧
    ((b.requiring q).findPath (t.avoiding more) ≠ [] →
      (b.findPath t).length ≤ ((b.requiring q).findPath (t.avoiding more)).length) ∧
    (b.findPath t ≠ [] → (∀ a ∈ b.findPath t,
        (t.Allows (Cell.coord a) → (t.avoiding more).Allows (Cell.coord a)) ∧ q a = true) →
      (b.requiring q).findPath (t.avoiding more) = b.findPath t) ∧
    (b.findPath (t.along .eight) = [] → b.findPath (t.along .four) = []) ∧
    (b.findPath (t.along .four) ≠ [] →
      (b.findPath (t.along .eight)).length ≤ (b.findPath (t.along .four)).length) := by
  have hindered (path : List α) (h : (b.requiring q).Answers (t.avoiding more) path) :
      b.Answers t path := answers_of_hindered hq h
  have cardinal (path : List α) (h : b.Answers (t.along .four) path) :
      b.Answers (t.along .eight) path := answers_of_four h
  refine ⟨findPath_eq_nil_of_fewer hg hg hindered, length_findPath_le_of_fewer hg hg hindered,
    fun found spared => ?_, findPath_eq_nil_of_fewer hg hg cardinal,
    length_findPath_le_of_fewer hg hg cardinal⟩
  exact findPath_eq_of_fewer hg hg hindered (fun _ => rfl)
    ((answers_of_findPath hg found).hindered spared)

def dry (f : Floor) : Bool := f.walkable && decide (f.coord ≠ ⟨1, 2⟩)

/-- The way across the courtyard stays as it is when the other way around is made impassable, it is
no shorter by cardinal steps, and a closed courtyard stays closed. -/
theorem crossing_hindered : courtyard.Positional ∧ (∀ f, dry f = true → f.walkable = true) ∧
    ((aroundWalls courtyard).requiring dry).findPath ((crossing .eight).avoiding [⟨0, 2⟩]) =
      [⟨⟨1, 0⟩, true⟩, ⟨⟨2, 1⟩, true⟩, ⟨⟨2, 2⟩, true⟩] ∧
    3 ≤ ((aroundWalls courtyard).findPath (crossing .four)).length ∧
    ((aroundWalls courtyard).requiring dry).findPath
      (((crossing .four).avoiding [⟨0, 1⟩]).avoiding [⟨0, 2⟩]) = [] := by
  have found : (aroundWalls courtyard).findPath (crossing .eight) =
      [⟨⟨1, 0⟩, true⟩, ⟨⟨2, 1⟩, true⟩, ⟨⟨2, 2⟩, true⟩] := by decide +kernel
  have dry_walkable (f : Floor) (h : dry f = true) : f.walkable = true :=
    (Bool.and_eq_true_iff.1 h).1
  obtain ⟨-, -, same, -, longer⟩ :=
    findPath_hindered (aroundWalls courtyard) positional_courtyard
      (crossing .eight) [⟨0, 2⟩] dry dry_walkable
  obtain ⟨closed, -⟩ := findPath_hindered (aroundWalls courtyard) positional_courtyard
    ((crossing .four).avoiding [⟨0, 1⟩]) [⟨0, 2⟩] dry dry_walkable
  refine ⟨positional_courtyard, dry_walkable, ?_, ?_, closed (by decide +kernel)⟩
  · rw [same (by simp [found]) (by rw [found]; decide +kernel), found]
  · have eight_way : ((aroundWalls courtyard).findPath (crossing .eight)).length = 3 := by
      rw [found]
      rfl
    rw [← eight_way]
    exact longer (by decide +kernel)

end GridWalk.BreadthFirst
