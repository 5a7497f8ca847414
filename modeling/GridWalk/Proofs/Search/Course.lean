import Mathlib.Data.List.Induction
import Mathlib.Data.List.Lex
import Mathlib.Data.List.Nodup
import Mathlib.Data.Prod.Lex
import GridWalk.Search.BreadthFirst
/-! Courses: a walk written as the places of its steps in the order of the directions. Shorter
courses come first, equally long ones in lexicographic order. Main statements: extending courses
keeps their order, and a best course never meets a position twice. -/
namespace GridWalk

/-- Courses are compared by length, then by the first step in which they differ. -/
def courseKey (w : List ℕ) : ℕ ×ₗ List ℕ := toLex (w.length, w)

theorem courseKey_lt_iff {u v : List ℕ} :
    courseKey u < courseKey v ↔ u.length < v.length ∨ u.length = v.length ∧ u < v :=
  Prod.Lex.toLex_lt_toLex

theorem courseKey_le_iff {u v : List ℕ} :
    courseKey u ≤ courseKey v ↔ u.length < v.length ∨ u.length = v.length ∧ u ≤ v :=
  Prod.Lex.toLex_le_toLex

theorem courseKey_injective {u v : List ℕ} (h : courseKey u = courseKey v) : u = v :=
  congrArg Prod.snd (toLex.injective h)

theorem append_singleton_lt_iff {u v : List ℕ} {i j : ℕ} (h : u.length = v.length) :
    u ++ [i] < v ++ [j] ↔ u < v ∨ u = v ∧ i < j := by
  induction u generalizing v with
  | nil =>
    have hv : v = [] := List.length_eq_zero_iff.1 h.symm
    subst hv
    simp [List.cons_lt_cons_iff]
  | cons a u ih =>
    cases v with
    | nil => simp at h
    | cons b v =>
      have ih' := ih (Nat.succ.inj h)
      rw [List.cons_append, List.cons_append, List.cons_lt_cons_iff, List.cons_lt_cons_iff, ih',
        List.cons.injEq, and_or_left, or_assoc, and_assoc]

/-- One more step each: the shorter beginnings decide, and the last steps where these are equal. -/
theorem courseKey_append_lt_iff {u v : List ℕ} {i j : ℕ} :
    courseKey (u ++ [i]) < courseKey (v ++ [j]) ↔
      courseKey u < courseKey v ∨ u = v ∧ i < j := by
  simp only [courseKey_lt_iff, List.length_append, List.length_singleton,
    Nat.add_lt_add_iff_right, Nat.add_right_cancel_iff]
  by_cases h : u.length = v.length
  · simp [h, append_singleton_lt_iff h]
  · have ne : u ≠ v := fun e => h (congrArg List.length e)
    simp [h, ne]

theorem courseKey_nil_lt (u : List ℕ) (i : ℕ) : courseKey [] < courseKey (u ++ [i]) := by
  rw [courseKey_lt_iff]
  simp

theorem courseKey_lt_append (u : List ℕ) (i : ℕ) : courseKey u < courseKey (u ++ [i]) := by
  rw [courseKey_lt_iff]
  simp

theorem courseKey_append_right {u v : List ℕ} (w : List ℕ) (h : courseKey u < courseKey v) :
    courseKey (u ++ w) < courseKey (v ++ w) := by
  induction w using List.reverseRecOn with
  | nil => simpa using h
  | append_singleton w i ih =>
    rw [← List.append_assoc, ← List.append_assoc, courseKey_append_lt_iff]
    exact Or.inl ih

/-- No course lies between two that differ by one in the last step, apart from the first. -/
theorem courseKey_lt_append_succ {u v : List ℕ} {i : ℕ} :
    courseKey v < courseKey (u ++ [i + 1]) ↔
      courseKey v < courseKey (u ++ [i]) ∨ v = u ++ [i] := by
  cases v using List.reverseRecOn with
  | nil => simp [courseKey_nil_lt]
  | append_singleton v j =>
    simp only [courseKey_append_lt_iff, Nat.lt_succ_iff_lt_or_eq]
    have same_iff : v ++ [j] = u ++ [i] ↔ v = u ∧ j = i := by
      constructor
      · intro h
        obtain ⟨hv, hj⟩ := List.append_inj' h rfl
        exact ⟨hv, List.singleton_inj.1 hj⟩
      · intro ⟨hv, hj⟩
        rw [hv, hj]
    rw [same_iff, and_or_left, or_assoc]

namespace BreadthFirst
variable {α : Type} [Cell α] {b : BreadthFirst α} {t : Trip} {c d e : Coord} {u v w : List ℕ}
  {i : ℕ} {a : α}

def Open (b : BreadthFirst α) (t : Trip) (a : α) : Prop :=
  Cell.coord a ∈ b.grid.frame ∧ t.Allows (Cell.coord a) ∧ b.passable a = true

instance (b : BreadthFirst α) (t : Trip) (a : α) : Decidable (b.Open t a) :=
  inferInstanceAs (Decidable (_ ∧ _ ∧ _))

/-- Where a step from `c` in the `i`-th direction leads: to where the occupant met there reports to
be, if that is open. -/
def hop (b : BreadthFirst α) (t : Trip) (c : Coord) (i : ℕ) : Option Coord :=
  (t.adjacency.directions[i]?.bind fun d => b.grid.get? (d.step c)).bind fun a =>
    if b.Open t a then some (Cell.coord a) else none

theorem hop_eq_some_iff : b.hop t c i = some d ↔ ∃ s a, t.adjacency.directions[i]? = some s ∧
    b.grid.get? (s.step c) = some a ∧ b.Open t a ∧ Cell.coord a = d := by
  simp only [hop, Option.bind_eq_some_iff, Option.ite_none_right_eq_some, Option.some.injEq]
  constructor
  · intro ⟨a, ⟨s, hs, ha⟩, ho, hd⟩
    exact ⟨s, a, hs, ha, ho, hd⟩
  · intro ⟨s, a, hs, ha, ho, hd⟩
    exact ⟨a, ⟨s, hs, ha⟩, ho, hd⟩

theorem hop_of_empty {s : Direction} (hs : t.adjacency.directions[i]? = some s)
    (empty : b.grid.get? (s.step c) = none) : b.hop t c i = none := by
  rw [hop, hs, Option.bind_some, empty, Option.bind_none]

theorem hop_iff_of_occupant {s : Direction} (hs : t.adjacency.directions[i]? = some s)
    (ha : b.grid.get? (s.step c) = some a) :
    b.hop t c i = some d ↔ b.Open t a ∧ Cell.coord a = d := by
  rw [hop, hs, Option.bind_some, ha, Option.bind_some, Option.ite_none_right_eq_some,
    Option.some.injEq]

theorem lt_degree_of_hop (h : b.hop t c i = some d) : i < t.adjacency.degree := by
  obtain ⟨s, a, hs, -⟩ := hop_eq_some_iff.1 h
  exact (List.getElem?_eq_some_iff.1 hs).1

theorem mem_frame_of_hop (h : b.hop t c i = some d) : d ∈ b.grid.frame := by
  obtain ⟨s, a, -, -, ho, rfl⟩ := hop_eq_some_iff.1 h
  exact ho.1

def follow (b : BreadthFirst α) (t : Trip) (c : Coord) (w : List ℕ) : Option Coord :=
  w.foldlM (b.hop t) c

@[simp] theorem follow_nil : b.follow t c [] = some c := rfl

theorem follow_cons : b.follow t c (i :: w) = (b.hop t c i).bind fun d => b.follow t d w :=
  List.foldlM_cons

theorem follow_append :
    b.follow t c (u ++ v) = (b.follow t c u).bind fun d => b.follow t d v :=
  List.foldlM_append

theorem follow_snoc_eq_some_iff : b.follow t c (w ++ [i]) = some e ↔
    ∃ d, b.follow t c w = some d ∧ b.hop t d i = some e := by
  simp [follow_append, follow_cons, Option.bind_eq_some_iff]

def stops (b : BreadthFirst α) (t : Trip) : Coord → List ℕ → List Coord
  | _, [] => []
  | c, i :: w =>
    match b.hop t c i with
    | some d => d :: b.stops t d w
    | none => []

theorem stops_cons (h : b.hop t c i = some d) : b.stops t c (i :: w) = d :: b.stops t d w := by
  simp [stops, h]

theorem stops_append (h : b.follow t c u = some d) :
    b.stops t c (u ++ v) = b.stops t c u ++ b.stops t d v := by
  induction u generalizing c with
  | nil =>
    cases h
    rfl
  | cons i u ih =>
    rw [follow_cons, Option.bind_eq_some_iff] at h
    obtain ⟨x, hx, hu⟩ := h
    rw [List.cons_append, stops_cons hx, stops_cons hx, ih hu, List.cons_append]

theorem stops_snoc (h : b.follow t c w = some d) (hi : b.hop t d i = some e) :
    b.stops t c (w ++ [i]) = b.stops t c w ++ [e] := by
  rw [stops_append h, stops_cons hi, stops]

theorem length_stops (h : b.follow t c w = some d) : (b.stops t c w).length = w.length := by
  induction w generalizing c with
  | nil => rfl
  | cons i w ih =>
    rw [follow_cons, Option.bind_eq_some_iff] at h
    obtain ⟨x, hx, hw⟩ := h
    rw [stops_cons hx, List.length_cons, List.length_cons, ih hw]

theorem exists_hop_of_mem_stops (h : d ∈ b.stops t c w) : ∃ e i, b.hop t e i = some d := by
  induction w generalizing c with
  | nil => simp [stops] at h
  | cons i w ih =>
    cases hx : b.hop t c i with
    | none => simp [stops, hx] at h
    | some x =>
      rw [stops_cons hx, List.mem_cons] at h
      cases h with
      | inl h =>
        subst h
        exact ⟨c, i, hx⟩
      | inr h => exact ih h

theorem mem_frame_of_mem_stops (h : d ∈ b.stops t c w) : d ∈ b.grid.frame := by
  obtain ⟨e, i, hop⟩ := exists_hop_of_mem_stops h
  exact mem_frame_of_hop hop

/-- The stops are joined by whatever joins the two ends of every step. -/
theorem isChain_stops {R : Coord → Coord → Prop}
    (joined : ∀ c i d, b.hop t c i = some d → R c d) (h : b.follow t c w = some d) :
    (c :: b.stops t c w).IsChain R ∧ (c :: b.stops t c w).getLast? = some d := by
  induction w generalizing c with
  | nil =>
    cases h
    simp [stops]
  | cons i w ih =>
    rw [follow_cons, Option.bind_eq_some_iff] at h
    obtain ⟨x, hx, hw⟩ := h
    rw [stops_cons hx, List.isChain_cons_cons, List.getLast?_cons_cons]
    exact ⟨⟨joined c i x hx, (ih hw).1⟩, (ih hw).2⟩

theorem exists_prefix_of_mem_stops (h : b.follow t c w = some d) (he : e ∈ c :: b.stops t c w) :
    ∃ u v, w = u ++ v ∧ b.follow t c u = some e := by
  induction w using List.reverseRecOn generalizing d with
  | nil =>
    have hec : e = c := by simpa [stops] using he
    exact ⟨[], [], rfl, by rw [hec, follow_nil]⟩
  | append_singleton w i ih =>
    obtain ⟨x, hw, hx⟩ := follow_snoc_eq_some_iff.1 h
    rw [stops_snoc hw hx, ← List.cons_append, List.mem_append, List.mem_singleton] at he
    cases he with
    | inl he =>
      obtain ⟨u, v, rfl, hu⟩ := ih hw he
      exact ⟨u, v ++ [i], List.append_assoc .., hu⟩
    | inr he =>
      rw [he]
      exact ⟨w ++ [i], [], (List.append_nil _).symm, h⟩

structure Best (b : BreadthFirst α) (t : Trip) (c : Coord) (w : List ℕ) (d : Coord) : Prop where
  leads : b.follow t c w = some d
  least : ∀ v, b.follow t c v = some d → courseKey w ≤ courseKey v

theorem best_nil : b.Best t c [] c := by
  refine ⟨follow_nil, fun v _ => ?_⟩
  rw [courseKey_le_iff]
  cases v <;> simp

theorem Best.unique (hu : b.Best t c u d) (hv : b.Best t c v d) : u = v :=
  courseKey_injective (le_antisymm (hu.least v hv.leads) (hv.least u hu.leads))

/-- Every beginning of a best course is itself best. -/
theorem Best.of_append (h : b.Best t c (u ++ v) d) (hu : b.follow t c u = some e) :
    b.Best t c u e := by
  refine ⟨hu, fun w hw => ?_⟩
  by_contra lt
  have shorter : courseKey (w ++ v) < courseKey (u ++ v) :=
    courseKey_append_right v (lt_of_not_ge lt)
  have leads : b.follow t c (w ++ v) = some d := by
    rw [follow_append, hw, ← h.leads, follow_append, hu]
  exact absurd (h.least _ leads) (not_le_of_gt shorter)

theorem Best.nodup_stops (h : b.Best t c w d) : (c :: b.stops t c w).Nodup := by
  induction w using List.reverseRecOn generalizing d with
  | nil => simp [stops]
  | append_singleton w i ih =>
    obtain ⟨x, hw, hx⟩ := follow_snoc_eq_some_iff.1 h.leads
    have hbest := h.of_append hw
    rw [stops_snoc hw hx, ← List.cons_append, List.nodup_append]
    refine ⟨ih hbest, List.nodup_singleton d, ?_⟩
    -- An earlier meeting with `d` would be a shorter course to it, and best as well.
    intro y hy z hz met
    rw [List.mem_singleton] at hz
    obtain ⟨u, v, rfl, hu⟩ := exists_prefix_of_mem_stops hw hy
    rw [met, hz] at hu
    have same : u = u ++ v ++ [i] := (hbest.of_append hu).unique h
    have length_eq := congrArg List.length same
    simp at length_eq

end BreadthFirst
end GridWalk
