import Mathlib.Data.List.Induction
import Mathlib.Data.Set.Card
import Mathlib.Order.Bounds.Basic
import GridWalk.Proofs.Trip.Roster
/-! Obstacles over any run of insertions and removals. The set that holds them is known by a few
laws on its listing; from these follow, after any run, which positions it holds, in which order it
lists them and what each operation was answered, all told by the history of the run alone. -/
namespace GridWalk

inductive Mention : Type 1 where
  | pair (x y : Int32)
  | position (c : Coord)
  | cell {α : Type} [Cell α] (a : α)

def Mention.coord : Mention → Coord
  | pair x y => ⟨x, y⟩
  | position c => c
  | cell a => Cell.coord a

structure Notice where
  coord : Coord
  busy : Bool
deriving DecidableEq

namespace Notice
variable {h : List Notice} {n : Notice} {c d : Coord} {i j : ℕ}

/-- The last notice of the position declares it busy. -/
def Stands (h : List Notice) (c : Coord) : Prop :=
  ∃ n, h.reverse.find? (fun n => n.coord = c) = some n ∧ n.busy = true

@[simp] theorem not_stands_nil (c : Coord) : ¬ Stands [] c := by simp [Stands]

theorem stands_snoc :
    Stands (h ++ [n]) c ↔ if n.coord = c then n.busy = true else Stands h c := by
  by_cases same : n.coord = c
  · simp [Stands, same]
  · simp [Stands, same]

/-- The notice with the number `i` makes the position busy, which it was not before. -/
def TurnsAt (h : List Notice) (c : Coord) (i : ℕ) : Prop :=
  ¬ Stands (h.take i) c ∧ Stands (h.take (i + 1)) c

def LastTurn (h : List Notice) (c : Coord) (i : ℕ) : Prop := IsGreatest {i | TurnsAt h c i} i

theorem TurnsAt.lt_length (turns : TurnsAt h c i) : i < h.length := by
  by_contra beyond
  have all (j : ℕ) (hj : h.length ≤ j) : h.take j = h := List.take_of_length_le hj
  rw [TurnsAt, all i (by omega), all (i + 1) (by omega)] at turns
  exact turns.1 turns.2

theorem turnsAt_snoc_of_lt (hi : i < h.length) : TurnsAt (h ++ [n]) c i ↔ TurnsAt h c i := by
  rw [TurnsAt, TurnsAt, List.take_append_of_le_length (Nat.le_of_lt hi),
    List.take_append_of_le_length hi]

theorem turnsAt_snoc_length :
    TurnsAt (h ++ [n]) c h.length ↔ ¬ Stands h c ∧ Stands (h ++ [n]) c := by
  rw [TurnsAt, List.take_left, List.take_of_length_le (by simp)]

/-- A position that stands is not turned by one more notice. -/
theorem LastTurn.snoc (last : LastTurn h c i) (stands : Stands h c) : LastTurn (h ++ [n]) c i := by
  refine ⟨(turnsAt_snoc_of_lt last.1.lt_length).2 last.1, fun j turns => ?_⟩
  have below : j < (h ++ [n]).length := turns.lt_length
  rw [List.length_append, List.length_singleton, Nat.lt_succ_iff_lt_or_eq] at below
  cases below with
  | inl earlier => exact last.2 ((turnsAt_snoc_of_lt earlier).1 turns)
  | inr newest =>
    subst newest
    exact absurd stands (turnsAt_snoc_length.1 turns).1

theorem lastTurn_snoc_length (absent : ¬ Stands h c) (stands : Stands (h ++ [n]) c) :
    LastTurn (h ++ [n]) c h.length := by
  refine ⟨turnsAt_snoc_length.2 ⟨absent, stands⟩, fun j turns => ?_⟩
  have below : j < (h ++ [n]).length := turns.lt_length
  rw [List.length_append, List.length_singleton] at below
  exact Nat.le_of_lt_succ below

def TurnedBefore (h : List Notice) (c d : Coord) : Prop :=
  ∃ i j, LastTurn h c i ∧ LastTurn h d j ∧ i < j

theorem TurnedBefore.ne (before : TurnedBefore h c d) : c ≠ d := by
  intro same
  obtain ⟨i, j, hi, hj, lt⟩ := before
  subst same
  exact absurd (hi.unique hj) (Nat.ne_of_lt lt)

theorem TurnedBefore.snoc (before : TurnedBefore h c d) (hc : Stands h c) (hd : Stands h d) :
    TurnedBefore (h ++ [n]) c d := by
  obtain ⟨i, j, hi, hj, lt⟩ := before
  exact ⟨i, j, hi.snoc hc, hj.snoc hd, lt⟩

structure Kept (h : List Notice) (l : List Coord) : Prop where
  mem_iff : ∀ c, c ∈ l ↔ Stands h c
  turned : ∀ c ∈ l, ∃ i, LastTurn h c i
  ordered : l.Pairwise (TurnedBefore h)

variable {l k before after : List Coord}

theorem Kept.nodup (kept : Kept h l) : l.Nodup := kept.ordered.imp TurnedBefore.ne

theorem kept_nil : Kept [] [] := ⟨by simp, by simp, .nil⟩

/-- The turns of the positions that stand are still their last ones after one more notice. -/
theorem Kept.still_turned (kept : Kept h l) (n : Notice) :
    (∀ c ∈ l, ∃ i, LastTurn (h ++ [n]) c i) ∧ l.Pairwise (TurnedBefore (h ++ [n])) := by
  have stood (c : Coord) (hc : c ∈ l) : Stands h c := (kept.mem_iff c).1 hc
  refine ⟨fun c hc => ?_, kept.ordered.imp_of_mem fun hc hd before =>
    before.snoc (stood _ hc) (stood _ hd)⟩
  obtain ⟨i, last⟩ := kept.turned c hc
  exact ⟨i, last.snoc (stood c hc)⟩

/-- A notice that turns no position leaves those that still stand where they were. -/
theorem Kept.of_sublist (kept : Kept h l) (sub : k.Sublist l)
    (mem_iff : ∀ c, c ∈ k ↔ Stands (h ++ [n]) c) : Kept (h ++ [n]) k := by
  obtain ⟨turned, ordered⟩ := kept.still_turned n
  exact ⟨mem_iff, fun c hc => turned c (sub.subset hc), ordered.sublist sub⟩

/-- A notice that says what is so already changes nothing. -/
theorem Kept.unchanged (kept : Kept h l) (already : n.coord ∈ l ↔ n.busy = true) :
    Kept (h ++ [n]) l := by
  refine kept.of_sublist (List.Sublist.refl l) fun d => ?_
  rw [stands_snoc]
  split
  · next same => rw [← same, already]
  · exact kept.mem_iff d

theorem Kept.busy (kept : Kept h l) (absent : c ∉ l) :
    Kept (h ++ [⟨c, true⟩]) (l ++ [c]) := by
  obtain ⟨turned, ordered⟩ := kept.still_turned ⟨c, true⟩
  have turns : LastTurn (h ++ [⟨c, true⟩]) c h.length :=
    lastTurn_snoc_length (fun stands => absent ((kept.mem_iff c).2 stands)) (by simp [stands_snoc])
  refine ⟨fun d => ?_, ?_, ?_⟩
  · rw [stands_snoc, List.mem_append, List.mem_singleton, kept.mem_iff]
    by_cases same : c = d
    · simp [same]
    · simp [same, Ne.symm same]
  · rw [List.forall_mem_append, List.forall_mem_singleton]
    exact ⟨turned, h.length, turns⟩
  · rw [List.pairwise_append]
    refine ⟨ordered, List.pairwise_singleton _ _, fun d hd e he => ?_⟩
    rw [List.mem_singleton.1 he]
    obtain ⟨i, last⟩ := kept.turned d hd
    exact ⟨i, h.length, last.snoc ((kept.mem_iff d).1 hd), turns, last.1.lt_length⟩

theorem Kept.free (kept : Kept h (before ++ c :: after)) :
    Kept (h ++ [⟨c, false⟩]) (before ++ after) := by
  have sub : (before ++ after).Sublist (before ++ c :: after) :=
    List.Sublist.append_left (List.sublist_cons_self c after) before
  refine kept.of_sublist sub fun d => ?_
  have gone : c ∉ before ++ after := (List.nodup_cons.1 (List.nodup_middle.1 kept.nodup)).1
  rw [stands_snoc, ← kept.mem_iff]
  by_cases same : c = d
  · rw [← same]
    simpa using gone
  · simp [same, Ne.symm same]

end Notice

inductive Marking : Type 1 where
  | insert (m : Mention)
  | remove (m : Mention)
  | extend (ms : List Mention)

namespace Marking

def notices : Marking → List Notice
  | insert m => [⟨m.coord, true⟩]
  | remove m => [⟨m.coord, false⟩]
  | extend ms => ms.map fun m => ⟨m.coord, true⟩

def history (initial : List Mention) (ops : List Marking) : List Notice :=
  initial.map (fun m => ⟨m.coord, true⟩) ++ ops.flatMap notices

/-- An insertion is answered whether the position was free before, a removal whether it was busy. -/
def Told (h : List Notice) : Marking → Option Bool → Prop
  | insert m, answer => ∃ new, answer = some new ∧ (new = true ↔ ¬ Notice.Stands h m.coord)
  | remove m, answer => ∃ old, answer = some old ∧ (old = true ↔ Notice.Stands h m.coord)
  | extend _, answer => answer = none

end Marking

namespace Roster
variable {S : Type} {r : Roster S} {s : S} {c : Coord} {h : List Notice}

def apply (r : Roster S) (s : S) : Marking → Option Bool × S
  | .insert m =>
    let (new, s) := r.insert s m.coord
    (some new, s)
  | .remove m =>
    let (old, s) := r.remove s m.coord
    (some old, s)
  | .extend ms => (none, r.extend s (ms.map Mention.coord))

def run (r : Roster S) (s : S) : List Marking → List (Option Bool) × S
  | [] => ([], s)
  | m :: rest =>
    let (answer, s) := r.apply s m
    let (answers, s) := r.run s rest
    (answer :: answers, s)

def answers (r : Roster S) (initial : List Mention) (ops : List Marking) : List (Option Bool) :=
  (r.run (r.collect (initial.map Mention.coord)) ops).1

def reached (r : Roster S) (initial : List Mention) (ops : List Marking) : S :=
  (r.run (r.collect (initial.map Mention.coord)) ops).2

section
variable (lawful : r.Lawful)
include lawful

theorem Lawful.contains_iff_stands (kept : Notice.Kept h (r.list s)) :
    r.contains s c = true ↔ Notice.Stands h c := by
  rw [lawful.contains_iff, kept.mem_iff]

theorem Lawful.kept_insert (kept : Notice.Kept h (r.list s)) (c : Coord) :
    Notice.Kept (h ++ [⟨c, true⟩]) (r.list (r.insert s c).2) ∧
      ((r.insert s c).1 = true ↔ ¬ Notice.Stands h c) := by
  rw [← lawful.contains_iff_stands kept]
  cases held : r.contains s c with
  | true =>
    obtain ⟨old, same⟩ := lawful.insert_present s c held
    rw [old, same]
    exact ⟨kept.unchanged (by simp [← lawful.contains_iff, held]), by simp⟩
  | false =>
    obtain ⟨new, appended⟩ := lawful.insert_absent s c held
    have absent : c ∉ r.list s := by simp [← lawful.contains_iff, held]
    rw [new, appended]
    exact ⟨kept.busy absent, by simp⟩

theorem Lawful.kept_remove (kept : Notice.Kept h (r.list s)) (c : Coord) :
    Notice.Kept (h ++ [⟨c, false⟩]) (r.list (r.remove s c).2) ∧
      ((r.remove s c).1 = true ↔ Notice.Stands h c) := by
  rw [← lawful.contains_iff_stands kept]
  cases held : r.contains s c with
  | true =>
    obtain ⟨old, before, after, listed, rest⟩ := lawful.remove_present s c held
    rw [listed] at kept
    rw [old, rest]
    exact ⟨kept.free, by simp⟩
  | false =>
    obtain ⟨absent, same⟩ := lawful.remove_absent s c held
    rw [absent, same]
    exact ⟨kept.unchanged (by simp [← lawful.contains_iff, held]), by simp⟩

theorem Lawful.kept_extend (kept : Notice.Kept h (r.list s)) (cs : List Coord) :
    Notice.Kept (h ++ cs.map (⟨·, true⟩)) (r.list (r.extend s cs)) := by
  rw [lawful.list_extend]
  induction cs generalizing s h with
  | nil => simpa using kept
  | cons c cs ih =>
    rw [List.map_cons, List.append_cons]
    exact ih (lawful.kept_insert kept c).1

theorem Lawful.kept_collect (cs : List Coord) :
    Notice.Kept (cs.map (⟨·, true⟩)) (r.list (r.collect cs)) := by
  rw [lawful.list_collect]
  have none : Notice.Kept [] (r.list r.empty) := by
    rw [lawful.list_empty]
    exact Notice.kept_nil
  exact lawful.kept_extend none cs

theorem Lawful.kept_apply (kept : Notice.Kept h (r.list s)) (m : Marking) :
    Notice.Kept (h ++ m.notices) (r.list (r.apply s m).2) ∧ m.Told h (r.apply s m).1 := by
  cases m with
  | insert m =>
    obtain ⟨next, new⟩ := lawful.kept_insert kept m.coord
    exact ⟨next, _, rfl, new⟩
  | remove m =>
    obtain ⟨next, old⟩ := lawful.kept_remove kept m.coord
    exact ⟨next, _, rfl, old⟩
  | extend ms =>
    have next := lawful.kept_extend kept (ms.map Mention.coord)
    rw [List.map_map] at next
    exact ⟨next, rfl⟩

/-- After a run the set holds what its history says, and each operation was answered by the history
before it. -/
theorem Lawful.kept_run (kept : Notice.Kept h (r.list s)) (ops : List Marking) :
    Notice.Kept (h ++ ops.flatMap Marking.notices) (r.list (r.run s ops).2) ∧
      ∀ i (m : Marking), ops[i]? = some m → ∃ answer, (r.run s ops).1[i]? = some answer ∧
        m.Told (h ++ (ops.take i).flatMap Marking.notices) answer := by
  induction ops generalizing s h with
  | nil => exact ⟨by simpa [run] using kept, by simp⟩
  | cons m rest ih =>
    obtain ⟨next, told⟩ := lawful.kept_apply kept m
    obtain ⟨final, later⟩ := ih next
    rw [List.append_assoc] at final
    refine ⟨final, fun i m' hi => ?_⟩
    cases i with
    | zero =>
      cases hi
      exact ⟨(r.apply s m).1, rfl,
        by simpa only [List.take_zero, List.flatMap_nil, List.append_nil] using told⟩
    | succ i =>
      obtain ⟨answer, given, by_history⟩ := later i m' hi
      rw [List.append_assoc] at by_history
      exact ⟨answer, given, by_history⟩

theorem Lawful.kept_reached (initial : List Mention) (ops : List Marking) :
    Notice.Kept (Marking.history initial ops) (r.list (r.reached initial ops)) ∧
      ∀ i (m : Marking), ops[i]? = some m → ∃ answer,
        (r.answers initial ops)[i]? = some answer ∧
        m.Told (Marking.history initial (ops.take i)) answer := by
  have collected := lawful.kept_collect (initial.map Mention.coord)
  rw [List.map_map] at collected
  exact lawful.kept_run collected ops

end

structure Reflects (r : Roster S) (h : List Notice) (s : S) : Prop where
  nodup : (r.list s).Nodup
  mem_list_iff : ∀ c, c ∈ r.list s ↔ r.contains s c = true
  contains_iff : ∀ m : Mention, r.contains s m.coord = true ↔ Notice.Stands h m.coord
  turned : ∀ c ∈ r.list s, ∃ i, Notice.LastTurn h c i
  ordered : (r.list s).Pairwise (Notice.TurnedBefore h)
  size_eq : (r.size s : ℕ∞) = {c | r.contains s c = true}.encard

theorem Lawful.reflects (lawful : r.Lawful) (kept : Notice.Kept h (r.list s)) : r.Reflects h s := by
  refine ⟨kept.nodup, fun c => (lawful.contains_iff s c).symm,
    fun m => lawful.contains_iff_stands kept, kept.turned, kept.ordered, ?_⟩
  have held : {c | r.contains s c = true} = ((r.list s).toFinset : Set Coord) := by
    ext c
    simp [lawful.contains_iff]
  rw [held, Set.encard_coe_eq_coe_finsetCard, List.toFinset_card_of_nodup kept.nodup,
    lawful.size_eq]

end Roster

namespace Obstacles

/-- The obstacles after any run of insertions and removals, from any positions on, and any other set
that is known by the same laws. No position is listed twice; one is held where the last operation
that named it was an insertion; they are listed in the order in which they were last turned from
free to busy; an insertion is answered whether the position was free, a removal whether it was busy;
the size is the number of positions held; and two such sets, after whatever runs, are the same
exactly where they hold the same positions. -/
theorem reflect_history : roster.Lawful ∧ ∀ {S : Type} (r : Roster S), r.Lawful →
    ∀ (initial : List Mention) (ops : List Marking),
      r.Reflects (Marking.history initial ops) (r.reached initial ops) ∧
      (∀ i (m : Marking), ops[i]? = some m → ∃ answer,
        (r.answers initial ops)[i]? = some answer ∧
        m.Told (Marking.history initial (ops.take i)) answer) ∧
      ∀ (initial' : List Mention) (ops' : List Marking),
        r.same (r.reached initial ops) (r.reached initial' ops') = true ↔
          ∀ c, r.contains (r.reached initial ops) c = r.contains (r.reached initial' ops') c := by
  refine ⟨lawful_roster, fun r lawful initial ops => ?_⟩
  obtain ⟨kept, told⟩ := lawful.kept_reached initial ops
  exact ⟨lawful.reflects kept, told, fun initial' ops' =>
    lawful.same_iff_contains kept.nodup (lawful.kept_reached initial' ops').1.nodup⟩

def firstMarked : List Mention := [.pair 3 3, .cell (⟨⟨0, 0⟩⟩ : Tile), .position ⟨3, 3⟩]

def thenMarked : List Marking :=
  [.insert (.position ⟨0, 0⟩), .remove (.pair 3 3),
    .extend [.cell (⟨⟨1, 2⟩, true⟩ : Floor), .pair 3 3, .pair 1 2], .remove (.pair 7 7),
    .insert (.pair 0 0)]

/-- A position that was removed comes last when it is inserted again, one that was not stays where
it is; and the set is the same as one made in another order. -/
theorem reinserted_last : roster.Lawful ∧
    roster.answers firstMarked thenMarked =
      [some false, some true, none, some false, some false] ∧
    (roster.reached firstMarked thenMarked).coords = [⟨0, 0⟩, ⟨1, 2⟩, ⟨3, 3⟩] ∧
    Notice.TurnedBefore (Marking.history firstMarked thenMarked) ⟨1, 2⟩ ⟨3, 3⟩ ∧
    ∀ c, c ∈ roster.reached firstMarked thenMarked ↔
      c ∈ roster.reached [.pair 3 3, .pair 1 2] [.insert (.pair 0 0)] := by
  obtain ⟨lawful, reflected⟩ := reflect_history
  obtain ⟨shown, -, same_iff⟩ := reflected roster lawful firstMarked thenMarked
  have listed : (roster.reached firstMarked thenMarked).coords =
      [⟨0, 0⟩, ⟨1, 2⟩, ⟨3, 3⟩] := by decide
  have ordered := shown.ordered
  rw [show roster.list (roster.reached firstMarked thenMarked) = _ from listed] at ordered
  have last_two :
      Notice.TurnedBefore (Marking.history firstMarked thenMarked) ⟨1, 2⟩ ⟨3, 3⟩ :=
    List.rel_of_pairwise_cons ordered.of_cons (List.mem_singleton_self _)
  have contained := (same_iff [.pair 3 3, .pair 1 2] [.insert (.pair 0 0)]).1 (by decide)
  exact ⟨lawful, by decide, listed, last_two, fun c => decide_eq_decide.1 (contained c)⟩

end Obstacles
end GridWalk
