/-! First in, first out. The elements still to come are split into a front and a reversed back;
`toList` is the queue as it will be served. -/
namespace GridWalk

structure Queue (α : Type) where
  front : List α := []
  back : List α := []

namespace Queue
variable {α : Type}

def singleton (a : α) : Queue α := ⟨[a], []⟩

def toList (q : Queue α) : List α := q.front ++ q.back.reverse

def push (q : Queue α) (a : α) : Queue α := { q with back := a :: q.back }

def pop? (q : Queue α) : Option (α × Queue α) :=
  match q.front with
  | a :: front => some (a, { q with front })
  | [] =>
    match q.back.reverse with
    | a :: front => some (a, ⟨front, []⟩)
    | [] => none

@[simp] theorem toList_singleton (a : α) : (singleton a).toList = [a] := rfl

@[simp] theorem toList_push (q : Queue α) (a : α) : (q.push a).toList = q.toList ++ [a] := by
  simp [push, toList]

theorem toList_of_pop? {q r : Queue α} {a : α} (h : q.pop? = some (a, r)) :
    q.toList = a :: r.toList := by
  unfold pop? at h
  split at h
  · next front hf =>
    cases h
    simp [toList, hf]
  · next hf =>
    split at h
    · next front hb =>
      cases h
      simp [toList, hf, hb]
    · contradiction

theorem pop?_eq_none_iff {q : Queue α} : q.pop? = none ↔ q.toList = [] := by
  unfold pop? toList
  split
  · next front hf => simp [hf]
  · next hf =>
    split
    · next front hb => simp [hf, hb]
    · next hb => simp [hf, hb]

end Queue
end GridWalk
