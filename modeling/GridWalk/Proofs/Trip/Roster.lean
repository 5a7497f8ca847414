import Mathlib.Data.List.Perm.Subperm
import GridWalk.Trip.Obstacles
/-! Sets of positions that remember the order of their insertions, known by a few laws on their
listing. Which positions such a set contains after insertions, and when two of them are the same,
follows from the laws alone; the obstacles are one of these sets. -/
namespace GridWalk

structure Roster (S : Type) where
  empty : S
  insert : S → Coord → Bool × S
  remove : S → Coord → Bool × S
  extend : S → List Coord → S
  collect : List Coord → S
  contains : S → Coord → Bool
  size : S → ℕ
  list : S → List Coord
  same : S → S → Bool

namespace Roster
variable {S : Type} {r : Roster S}

/-- What is known of such a set, told by its listing. An insertion appends where the position is
absent, a removal takes one listed position out and leaves the rest in order, many are inserted one
after another, and the order does not count when two sets are compared. -/
structure Lawful (r : Roster S) : Prop where
  list_empty : r.list r.empty = []
  contains_iff : ∀ s c, r.contains s c = true ↔ c ∈ r.list s
  size_eq : ∀ s, r.size s = (r.list s).length
  insert_absent : ∀ s c, r.contains s c = false →
    (r.insert s c).1 = true ∧ r.list (r.insert s c).2 = r.list s ++ [c]
  insert_present : ∀ s c, r.contains s c = true →
    (r.insert s c).1 = false ∧ r.list (r.insert s c).2 = r.list s
  remove_absent : ∀ s c, r.contains s c = false →
    (r.remove s c).1 = false ∧ r.list (r.remove s c).2 = r.list s
  remove_present : ∀ s c, r.contains s c = true → (r.remove s c).1 = true ∧
    ∃ before after, r.list s = before ++ c :: after ∧ r.list (r.remove s c).2 = before ++ after
  list_extend : ∀ s cs, r.list (r.extend s cs) = r.list (cs.foldl (fun s c => (r.insert s c).2) s)
  list_collect : ∀ cs, r.list (r.collect cs) = r.list (r.extend r.empty cs)
  same_iff : ∀ s s', r.same s s' = true ↔ (r.list s).Perm (r.list s')

namespace Lawful
variable (lawful : r.Lawful)
include lawful

theorem contains_insert (s : S) (c d : Coord) :
    r.contains (r.insert s c).2 d = true ↔ r.contains s d = true ∨ d = c := by
  cases held : r.contains s c with
  | true =>
    rw [lawful.contains_iff, (lawful.insert_present s c held).2, ← lawful.contains_iff]
    exact ⟨Or.inl, fun h => h.elim id fun same => same ▸ held⟩
  | false =>
    rw [lawful.contains_iff, (lawful.insert_absent s c held).2, lawful.contains_iff,
      List.mem_append, List.mem_singleton]

theorem contains_extend (s : S) (cs : List Coord) (d : Coord) :
    r.contains (r.extend s cs) d = true ↔ r.contains s d = true ∨ d ∈ cs := by
  rw [lawful.contains_iff, lawful.list_extend, ← lawful.contains_iff]
  induction cs generalizing s with
  | nil => simp
  | cons c cs ih => rw [List.foldl_cons, ih, lawful.contains_insert, List.mem_cons, or_assoc]

theorem contains_collect (cs : List Coord) (d : Coord) :
    r.contains (r.collect cs) d = true ↔ d ∈ cs := by
  have vacant : r.contains r.empty d = false := by
    rw [← Bool.not_eq_true, lawful.contains_iff, lawful.list_empty]
    exact List.not_mem_nil
  rw [lawful.contains_iff, lawful.list_collect, ← lawful.contains_iff,
    lawful.contains_extend, vacant]
  exact or_iff_right Bool.false_ne_true

/-- Without repetitions, two listings of the same positions are one up to order. -/
theorem same_iff_contains {s s' : S} (once : (r.list s).Nodup) (once' : (r.list s').Nodup) :
    r.same s s' = true ↔ ∀ c, r.contains s c = r.contains s' c := by
  rw [lawful.same_iff, List.perm_ext_iff_of_nodup once once']
  refine forall_congr' fun c => ?_
  rw [← lawful.contains_iff, ← lawful.contains_iff]
  exact Bool.eq_iff_iff.symm

end Lawful
end Roster

namespace Obstacles
variable {o p : Obstacles} {c d : Coord} {cs : List Coord}

theorem insert_of_mem (h : c ∈ o) : o.insert c = o := dif_pos h

theorem coords_insert_of_not_mem (h : c ∉ o) : (o.insert c).coords = o.coords ++ [c] := by
  rw [insert, dif_neg h]

theorem same_iff_perm : o.same p = true ↔ o.coords.Perm p.coords := by
  simp only [same, size, Bool.and_eq_true, beq_iff_eq, List.all_eq_true, decide_eq_true_eq, mem_iff]
  constructor
  · intro ⟨sizes, inside⟩
    exact (List.subperm_of_subset o.nodup inside).perm_of_length_le (Nat.le_of_eq sizes.symm)
  · intro perm
    exact ⟨perm.length_eq, fun c => perm.mem_iff.1⟩

def roster : Roster Obstacles where
  empty := ∅
  insert := mark
  remove := unmark
  extend := insertMany
  collect := ofList
  contains o c := decide (c ∈ o)
  size := size
  list := coords
  same := same

theorem lawful_roster : roster.Lawful where
  list_empty := rfl
  contains_iff _ _ := decide_eq_true_iff
  size_eq _ := rfl
  insert_absent o c h := by
    have absent : c ∉ o := decide_eq_false_iff_not.1 h
    exact ⟨decide_eq_true absent, coords_insert_of_not_mem absent⟩
  insert_present o c h := by
    have present : c ∈ o := decide_eq_true_iff.1 h
    exact ⟨by simp [roster, mark, present], congrArg coords (insert_of_mem present)⟩
  remove_absent o c h := by
    have absent : c ∉ o := decide_eq_false_iff_not.1 h
    exact ⟨h, List.erase_of_not_mem absent⟩
  remove_present o c h := by
    have present : c ∈ o.coords := decide_eq_true_iff.1 h
    obtain ⟨before, after, -, listed, rest⟩ := List.exists_erase_eq present
    exact ⟨h, before, after, listed, rest⟩
  list_extend _ _ := rfl
  list_collect _ := rfl
  same_iff _ _ := same_iff_perm

theorem contains_roster_iff : roster.contains o c = true ↔ c ∈ o := decide_eq_true_iff

theorem mem_insertMany : d ∈ o.insertMany cs ↔ d ∈ o ∨ d ∈ cs := by
  rw [← contains_roster_iff, ← contains_roster_iff]
  exact lawful_roster.contains_extend o cs d

theorem mem_ofList : d ∈ ofList cs ↔ d ∈ cs := by
  rw [← contains_roster_iff]
  exact lawful_roster.contains_collect cs d

theorem same_iff : o.same p = true ↔ ∀ c, c ∈ o ↔ c ∈ p :=
  (lawful_roster.same_iff_contains o.nodup p.nodup).trans (forall_congr' fun _ => decide_eq_decide)

end Obstacles
end GridWalk
