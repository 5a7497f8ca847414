import Mathlib.Data.List.Basic
import GridWalk.Proofs.Trip.FirstBreach
/-! Ways over the open slots of a grid. They are joined and split anywhere; what an accepted path
has besides is a source that it never comes back to. Main statement: when two accepted paths, one
after the other, are an accepted path, and when the two parts of an accepted path are accepted. -/
namespace GridWalk
variable {α : Type} {g : Grid α} {a : Adjacency} {o : Obstacles} {c d e : Coord}
  {cs ds : List Coord}

inductive Way (g : Grid α) (a : Adjacency) (o : Obstacles) :
    Coord → List Coord → Coord → Prop where
  | arrived (c : Coord) : Way g a o c [] c
  | step {c d e : Coord} {cs : List Coord} (adjacent : a.Adjacent c d) (held : g.Holds d)
      (free : d ∉ o)
      (rest : Way g a o d cs e) : Way g a o c (d :: cs) e

namespace Way

@[simp] theorem nil_iff : Way g a o c [] e ↔ c = e := by
  constructor
  · intro h
    cases h
    rfl
  · intro same
    subst same
    exact .arrived c

@[simp] theorem cons_iff : Way g a o c (d :: cs) e ↔
    (a.Adjacent c d ∧ g.Holds d ∧ d ∉ o) ∧ Way g a o d cs e := by
  constructor
  · intro h
    cases h with
    | step adjacent held free rest => exact ⟨⟨adjacent, held, free⟩, rest⟩
  · intro ⟨⟨adjacent, held, free⟩, rest⟩
    exact .step adjacent held free rest

theorem append_iff : Way g a o c (cs ++ ds) e ↔ ∃ d, Way g a o c cs d ∧ Way g a o d ds e := by
  induction cs generalizing c with
  | nil => simp
  | cons d rest ih => simp [ih, and_assoc]

theorem getLast?_eq (h : Way g a o c cs e) : (c :: cs).getLast? = some e := by
  induction h with
  | arrived c => rfl
  | step _ _ _ _ ih => rwa [List.getLast?_cons_cons]

/-- A way of at least one step ends at a slot that it went through. -/
theorem mem_of_ne_nil (h : Way g a o c cs e) (ne : cs ≠ []) : e ∈ cs := by
  have last := h.getLast?_eq
  rw [List.getLast?_cons_of_ne_nil ne] at last
  exact List.mem_of_getLast? last

theorem holds (h : Way g a o c cs e) (hd : d ∈ cs) : g.Holds d := by
  induction h with
  | arrived c => cases hd
  | step _ held _ _ ih =>
    obtain rfl | later := List.mem_cons.1 hd
    · exact held
    · exact ih later

end Way

namespace Trip
variable {t : Trip} {prev : Coord} {i : ℕ}

theorem stepsBreach?_eq_none_iff_way : t.stepsBreach? g i prev cs = none ↔
    t.source ∉ cs ∧ Way g t.adjacency t.busy prev cs t.target := by
  induction cs generalizing i prev with
  | nil => simp [stepsBreach?]
  | cons c rest ih =>
    rw [stepsBreach?_cons_eq_none_iff, stepBreach?_eq_none_iff, ih, Enters, Allows, Way.cons_iff,
      Grid.holds_iff_isSome, List.mem_cons, not_or]
    tauto

variable [Cell α] {path : List α}

/-- A path is accepted if and only if it is a way from an occupied source, to which it does not come
back. -/
theorem breach?_eq_none_iff_way (h : path ≠ []) : t.breach? g path = none ↔
    g.Holds t.source ∧ t.source ∉ path.map Cell.coord ∧
      Way g t.adjacency t.busy t.source (path.map Cell.coord) t.target := by
  rw [breach?_eq_none_iff_stepsBreach? h, stepsBreach?_eq_none_iff_way]
  refine and_iff_right_of_imp fun ⟨_, keeps_off, way⟩ same => ?_
  -- Equal ends would be a way that comes back to its source.
  rw [same] at keeps_off
  exact keeps_off (way.mem_of_ne_nil (by simpa using h))

theorem breach?_between_eq_none_iff (h : path ≠ []) {s e : Coord} :
    (t.between s e).breach? g path = none ↔ g.Holds s ∧ (∀ b ∈ path, Cell.coord b ≠ s) ∧
      Way g t.adjacency t.busy s (path.map Cell.coord) e := by
  rw [breach?_eq_none_iff_way h]
  simp [between]

/-- A way goes through the last cell of its first part. -/
theorem way_append_iff {p q : List α} (hp : p ≠ []) {s e : Coord} :
    Way g a o s ((p ++ q).map Cell.coord) e ↔
      Way g a o s (p.map Cell.coord) (Cell.coord (p.getLast hp)) ∧
      Way g a o (Cell.coord (p.getLast hp)) (q.map Cell.coord) e := by
  rw [List.map_append, Way.append_iff]
  constructor
  · intro ⟨m, first, second⟩
    have last := first.getLast?_eq
    rw [List.getLast?_cons_of_ne_nil (by simpa using hp), List.getLast?_map,
      List.getLast?_eq_some_getLast hp] at last
    cases last
    exact ⟨first, second⟩
  · intro parts
    exact ⟨_, parts⟩

/-- Paths in two parts. Two accepted paths of which the second begins where the first ends are
together an accepted path unless the second comes back to where the first began. The first part of
an accepted path is accepted, and so is the second unless it comes back to where it begins. -/
theorem breach?_joined_or_split (t : Trip) (g : Grid α) (s m e : Coord) (p q : List α)
    (hp : p ≠ []) (hq : q ≠ []) :
    ((t.between s m).breach? g p = none → (t.between m e).breach? g q = none →
      ((t.between s e).breach? g (p ++ q) = none ↔ ∀ b ∈ q, Cell.coord b ≠ s)) ∧
    ((t.between s e).breach? g (p ++ q) = none → Cell.coord (p.getLast hp) = m →
      (t.between s m).breach? g p = none ∧
        ((t.between m e).breach? g q = none ↔ ∀ b ∈ q, Cell.coord b ≠ m)) := by
  have joined : p ++ q ≠ [] := List.append_ne_nil_of_left_ne_nil hp q
  simp only [breach?_between_eq_none_iff hp, breach?_between_eq_none_iff hq,
    breach?_between_eq_none_iff joined, List.forall_mem_append]
  constructor
  · intro ⟨starts, off_source, first⟩ ⟨_, _, second⟩
    have way : Way g t.adjacency t.busy s ((p ++ q).map Cell.coord) e := by
      rw [List.map_append]
      exact Way.append_iff.2 ⟨m, first, second⟩
    exact ⟨fun accepted => accepted.2.1.2, fun off => ⟨starts, ⟨off_source, off⟩, way⟩⟩
  · intro ⟨starts, ⟨off_source, _⟩, way⟩ last
    rw [way_append_iff hp, last] at way
    obtain ⟨first, second⟩ := way
    have held : g.Holds m := first.holds (first.mem_of_ne_nil (by simpa using hp))
    exact ⟨⟨starts, off_source, first⟩, fun accepted => accepted.2.1,
      fun off => ⟨held, off, second⟩⟩

def opening : List Tile := [⟨⟨0, 1⟩⟩, ⟨⟨1, 1⟩⟩]

/-- A second part back over the source spoils the whole, and one back over the place where it begins
is not accepted by itself. -/
theorem opening_joined_or_split :
    (errand.between ⟨0, 0⟩ ⟨1, 1⟩).breach? Grid.pond opening = none ∧
    (errand.between ⟨0, 0⟩ ⟨2, 1⟩).breach? Grid.pond
      (opening ++ [⟨⟨2, 1⟩⟩]) = none ∧
    (errand.between ⟨1, 1⟩ ⟨0, 1⟩).breach? Grid.pond
      [(⟨⟨0, 1⟩⟩ : Tile), ⟨⟨0, 0⟩⟩, ⟨⟨0, 1⟩⟩] = none ∧
    (errand.between ⟨0, 0⟩ ⟨0, 1⟩).breach? Grid.pond
      (opening ++ [⟨⟨0, 1⟩⟩, ⟨⟨0, 0⟩⟩, ⟨⟨0, 1⟩⟩]) ≠ none ∧
    (errand.between ⟨0, 0⟩ ⟨2, 1⟩).breach? Grid.pond
      (opening ++ [⟨⟨0, 1⟩⟩, ⟨⟨1, 1⟩⟩, ⟨⟨2, 1⟩⟩]) = none ∧
    (errand.between ⟨1, 1⟩ ⟨2, 1⟩).breach? Grid.pond
      [(⟨⟨0, 1⟩⟩ : Tile), ⟨⟨1, 1⟩⟩, ⟨⟨2, 1⟩⟩] ≠ none := by
  have whole : (errand.between ⟨0, 0⟩ ⟨2, 1⟩).breach? Grid.pond
      (opening ++ [⟨⟨0, 1⟩⟩, ⟨⟨1, 1⟩⟩, ⟨⟨2, 1⟩⟩]) = none := by
    decide +kernel
  have back : (errand.between ⟨1, 1⟩ ⟨0, 1⟩).breach? Grid.pond
      [(⟨⟨0, 1⟩⟩ : Tile), ⟨⟨0, 0⟩⟩, ⟨⟨0, 1⟩⟩] = none := by decide +kernel
  obtain ⟨first, second⟩ :=
    (breach?_joined_or_split errand Grid.pond ⟨0, 0⟩ ⟨1, 1⟩ ⟨2, 1⟩ opening
      [⟨⟨0, 1⟩⟩, ⟨⟨1, 1⟩⟩, ⟨⟨2, 1⟩⟩] (by decide) (by decide)).2 whole rfl
  have onward :=
    (breach?_joined_or_split errand Grid.pond ⟨0, 0⟩ ⟨1, 1⟩ ⟨2, 1⟩ opening
      [⟨⟨2, 1⟩⟩] (by decide) (by decide)).1 first (by decide +kernel)
  have returning :=
    (breach?_joined_or_split errand Grid.pond ⟨0, 0⟩ ⟨1, 1⟩ ⟨0, 1⟩ opening
      [⟨⟨0, 1⟩⟩, ⟨⟨0, 0⟩⟩, ⟨⟨0, 1⟩⟩] (by decide) (by decide)).1 first back
  exact ⟨first, onward.2 (by decide), back, returning.not.2 (by decide), whole,
    second.not.2 (by decide)⟩

end Trip
end GridWalk
