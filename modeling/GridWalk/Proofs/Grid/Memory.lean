import Mathlib.Data.List.Monad
import GridWalk.Grid.Neighbour
import GridWalk.Grid.Pixel
import GridWalk.Grid.Sample
import GridWalk.Proofs.Grid.Change
import GridWalk.Proofs.Grid.Places
import GridWalk.Proofs.Trap
/-! Grids in memory: four numbers of 32 bits and a row of slots, which are found by arithmetic on
words of 64 bits. Nothing is known of how they fit together, and an operation stops with a trap
where a machine would go wrong. Main statement: in the memory of a grid every operation runs to its
end, with the answer of the grid. -/
namespace GridWalk

structure Memory (α : Type) where
  frame : Frame
  slots : Array (Option α)

def steady {σ β : Type} (m : StateM σ β) : StateT σ (Except Trap) β := fun t => .ok (m.run t)

theorem run_steady {σ β : Type} (m : StateM σ β) (t : σ) : (steady m).run t = .ok (m.run t) :=
  rfl

namespace Memory
variable {α σ ρ : Type}

def isWithin (r : Memory α) (c : Coord) : Bool :=
  0 ≤ c.x && 0 ≤ c.y && c.x.toUInt32 < r.frame.width && c.y.toUInt32 < r.frame.height

def index? (r : Memory α) (c : Coord) : Except Trap (Option UInt64) :=
  if r.isWithin c then do
    let y ← Word.ofAxis c.y
    let x ← Word.ofAxis c.x
    let row ← Word.mul y r.frame.width.toUInt64
    return some (← Word.add row x)
  else return none

def coordAt (r : Memory α) (i : UInt64) : Except Trap Coord := do
  let x ← Word.mod i r.frame.width.toUInt64
  let y ← Word.div i r.frame.width.toUInt64
  return ⟨← Word.toAxis x, ← Word.toAxis y⟩

def coordAt? (r : Memory α) (i : UInt64) : Except Trap (Option Coord) :=
  if r.slots.size ≤ i.toNat then return none else return some (← r.coordAt i)

def read (r : Memory α) (i : UInt64) : Except Trap (Option α) := load r.slots i.toNat

def write (r : Memory α) (i : UInt64) (cell : Option α) : Except Trap (Memory α) := do
  let slots ← store r.slots i.toNat cell
  return { r with slots }

def outOfBounds (r : Memory α) (c : Coord) : Fault := .outOfBounds c r.frame.width r.frame.height

def get? (r : Memory α) (c : Coord) : Except Trap (Option α) := do
  match ← r.index? c with
  | some i => r.read i
  | none => return none

def get (r : Memory α) (c : Coord) : Except Trap (Except Fault (Option α)) := do
  match ← r.index? c with
  | some i => return .ok (← r.read i)
  | none => return .error (r.outOfBounds c)

def revise (r : Memory α) (c : Coord) (next : Option α → Option α) :
    Except Trap (Except Fault (Option α) × Memory α) := do
  match ← r.index? c with
  | some i =>
    let old ← r.read i
    return (.ok old, ← r.write i (next old))
  | none => return (.error (r.outOfBounds c), r)

def refill (r : Memory α) (generator : Coord → StateM σ (Option α)) :
    StateT σ (Except Trap) (Memory α) := do
  let slots ← (List.range r.slots.size).mapM fun i => do
    let c ← r.coordAt (.ofNat i)
    steady (generator c)
  return { r with slots := slots.toArray }

def build (s : Storage) (f : Frame) (generator : Coord → StateM σ (Option α)) :
    StateT σ (Except Trap) (Except Fault (Memory α)) :=
  match f.admit s with
  | .error e => pure (.error e)
  | .ok _ => do
    let r ← refill ⟨f, Array.replicate f.area none⟩ generator
    return .ok r

def change (r : Memory α) :
    Change σ α → StateT σ (Except Trap) (Except Fault (Option α) × Memory α)
  | .edit (.set c cell) => r.revise c fun _ => cell
  | .edit (.take c) => r.revise c fun _ => none
  | .edit (.overwrite c f) => r.revise c (Option.map f)
  | .edit (.recast cells) => do
    let r ← r.refill fun c => pure (cells c)
    return (.ok none, r)
  | .refill generator => do
    let r ← r.refill generator
    return (.ok none, r)

def run (r : Memory α) :
    List (Change σ α) → StateT σ (Except Trap) (List (Except Fault (Option α)) × Memory α)
  | [] => pure ([], r)
  | x :: rest => do
    let (answer, r) ← r.change x
    let (answers, r) ← r.run rest
    return (answer :: answers, r)

def entries (r : Memory α) : Except Trap (List (Coord × α)) :=
  r.slots.toList.zipIdx.filterMapM fun (s, i) =>
    match s with
    | some a => return some (← r.coordAt (.ofNat i), a)
    | none => return none

def neighboursWith (r : Memory α) (c : Coord) (reach : Reach) : Except Trap (List α) :=
  (reach c).filterMapM r.get?

def axisOfPixel (x : Binary64) (size : UInt32) : Except Trap Int32 :=
  if size = 0 then .error .zeroDivisor else .ok (saturate (x.div size.toNat).truncate)

def coordOfPixel? (r : Memory α) (px py : Float) : Except Trap (Option Coord) :=
  if r.frame.hasPixels then
    match Binary64.ofFloat? px, Binary64.ofFloat? py with
    | some x, some y =>
      return some ⟨← axisOfPixel x r.frame.cellWidth, ← axisOfPixel y r.frame.cellHeight⟩
    | _, _ => return none
  else return none

def ofPixel? (r : Memory α) (px py : Float) : Except Trap (Option α) := do
  match ← r.coordOfPixel? px py with
  | some c => r.get? c
  | none => return none

def draw [Chance ρ] (n : Int32) : StateT ρ (Except Trap) Int32 :=
  if h : 0 < n.toNatClampNeg then do
    let i ← modifyGet (Chance.draw n.toNatClampNeg h)
    return Int32.ofNat i
  else throw .emptyRange

def sample [Chance ρ] (r : Memory α) : StateT ρ (Except Trap) (Option α) := do
  let x ← draw (← Word.toAxis r.frame.width.toUInt64)
  let y ← draw (← Word.toAxis r.frame.height.toUInt64)
  r.get? ⟨x, y⟩

end Memory

section
variable {β γ : Type}

theorem filterMapM_eq_ok {l : List β} {p : β → Except Trap (Option γ)} {q : β → Option γ}
    (h : ∀ b ∈ l, p b = .ok (q b)) : l.filterMapM p = .ok (l.filterMap q) := by
  induction l with
  | nil => rfl
  | cons b l ih =>
    rw [List.forall_mem_cons] at h
    rw [List.filterMapM_cons, h.1, ih h.2]
    cases hq : q b with
    | none => rw [List.filterMap_cons_none hq]; rfl
    | some c => rw [List.filterMap_cons_some hq]; rfl

theorem steady_bind_pure {σ : Type} (m : StateM σ β) (k : β → γ) :
    (do let b ← steady m; return k b : StateT σ (Except Trap) γ) = steady (k <$> m) := rfl

theorem steady_map_bind {σ δ : Type} (m : StateM σ β) (f : β → γ)
    (k : γ → StateT σ (Except Trap) δ) :
    (steady (f <$> m) >>= k) = (steady m >>= fun b => k (f b)) := rfl

theorem mapM_eq_steady {σ : Type} {l : List β} {p : β → StateT σ (Except Trap) γ}
    {q : β → StateM σ γ} (h : ∀ b ∈ l, p b = steady (q b)) :
    l.mapM p = steady (l.mapM q) := by
  induction l with
  | nil => rfl
  | cons b l ih =>
    rw [List.forall_mem_cons] at h
    rw [List.mapM_cons, List.mapM_cons, h.1, ih h.2]
    rfl

end

namespace Grid
variable {α σ ρ : Type} {g : Grid α} {c : Coord}

def memory (g : Grid α) : Memory α := ⟨g.frame, g.slots.toArray⟩

@[simp] theorem frame_memory (g : Grid α) : g.memory.frame = g.frame := rfl

@[simp] theorem size_memory (g : Grid α) : g.memory.slots.size = g.frame.area :=
  g.slots.size_toArray

theorem isWithin_memory (g : Grid α) (c : Coord) :
    g.memory.isWithin c = decide (c ∈ g.frame) := by
  rw [Bool.eq_iff_iff, decide_eq_true_iff, Frame.mem_iff]
  simp only [Memory.isWithin, memory, Bool.and_eq_true, decide_eq_true_iff, Int32.le_iff_toInt_le,
    UInt32.lt_iff_toNat_lt, Int32.toInt_zero]
  by_cases hx : 0 ≤ c.x.toInt
  · by_cases hy : 0 ≤ c.y.toInt
    · rw [Int32.toNat_toUInt32_of_le (Int32.le_iff_toInt_le.2 hx),
        Int32.toNat_toUInt32_of_le (Int32.le_iff_toInt_le.2 hy), ← Int32.toNat_toInt,
        ← Int32.toNat_toInt]
      omega
    · omega
  · omega

theorem index?_memory (g : Grid α) (c : Coord) :
    g.memory.index? c = .ok ((g.frame.index? c).map UInt64.ofNat) := by
  rw [Memory.index?, isWithin_memory, Frame.index?]
  by_cases h : c ∈ g.frame
  · -- Column and row fit in 32 bits; product and sum are at most the number of the last slot.
    have below := Frame.index_lt_area h
    have room := g.valid.area_lt
    have x_lt : c.x.toNatClampNeg < UInt64.size := Nat.lt_trans c.x.toNatClampNeg_lt (by decide)
    have y_lt : c.y.toNatClampNeg < UInt64.size := Nat.lt_trans c.y.toNatClampNeg_lt (by decide)
    rw [Frame.index] at below ⊢
    rw [if_pos (decide_eq_true h), if_pos h, Word.ofAxis_of_nonneg h.1.1,
      Word.ofAxis_of_nonneg h.2.1, frame_memory, Word.toUInt64_eq_ofNat, ok_bind, ok_bind,
      Word.mul_ofNat y_lt (Word.toNat_lt_size _) (by omega), ok_bind, Word.add_ofNat (by omega)]
    rfl
  · rw [if_neg (by simpa using h), if_neg h]
    rfl

theorem coordAt_memory (g : Grid α) {i : Nat} (h : i < g.frame.area) :
    g.memory.coordAt (.ofNat i) = .ok (g.frame.coordAt i) := by
  have small : i < UInt64.size := Nat.lt_trans h g.valid.area_lt
  have width := Word.toNat_lt_size g.frame.width
  rw [Memory.coordAt, frame_memory, Word.toUInt64_eq_ofNat,
    Word.mod_ofNat small g.valid.width_pos width,
    Word.div_ofNat small g.valid.width_pos width, ok_bind, ok_bind,
    Word.toAxis_ofNat (g.valid.col_lt i), Word.toAxis_ofNat (g.valid.row_lt h)]
  rfl

theorem coordAt?_memory (g : Grid α) (i : UInt64) :
    g.memory.coordAt? i = .ok (g.frame.coordAt? i.toNat) := by
  rw [Memory.coordAt?, Frame.coordAt?, size_memory]
  by_cases h : i.toNat < g.frame.area
  · have found := coordAt_memory g h
    rw [UInt64.ofNat_toNat] at found
    rw [if_neg (by omega), if_pos h, found]
    rfl
  · rw [if_pos (by omega), if_neg h]
    rfl

theorem read_memory (h : c ∈ g.frame) :
    g.memory.read (.ofNat (g.frame.index c)) = .ok (g.get? c) := by
  have below := Frame.index_lt_area h
  rw [Memory.read, g.valid.toNat_index h, load_eq_ok_iff, memory, Vector.getElem?_toArray,
    Vector.getElem?_eq_getElem below, get?_of_mem h]
  rfl

theorem write_memory (h : c ∈ g.frame) (cell : Option α) :
    g.memory.write (.ofNat (g.frame.index c)) cell = .ok (g.put c cell).memory := by
  have fits : g.frame.index c < g.memory.slots.size := by
    rw [size_memory]
    exact Frame.index_lt_area h
  rw [Memory.write, g.valid.toNat_index h, store_of_lt fits, ok_bind]
  simp only [memory, put, h, dite_true, Vector.toArray_set]
  rfl

theorem get?_memory (g : Grid α) (c : Coord) : g.memory.get? c = .ok (g.get? c) := by
  rw [Memory.get?, index?_memory, ok_bind, Frame.index?]
  by_cases h : c ∈ g.frame
  · rw [if_pos h]
    exact read_memory h
  · rw [if_neg h, get?_of_not_mem h]
    rfl

theorem get_memory (g : Grid α) (c : Coord) : g.memory.get c = .ok (g.get c) := by
  rw [Memory.get, index?_memory, ok_bind, Frame.index?, get]
  by_cases h : c ∈ g.frame
  · rw [if_pos h, if_pos h, Option.map_some]
    simp only [read_memory h]
    rfl
  · rw [if_neg h, if_neg h]
    rfl

theorem revise_memory (g : Grid α) (c : Coord) (next : Option α → Option α) :
    g.memory.revise c next = .ok ((g.revise c next).1, (g.revise c next).2.memory) := by
  rw [Memory.revise, index?_memory, ok_bind, Frame.index?]
  by_cases h : c ∈ g.frame
  · rw [if_pos h, revise_of_mem h, Option.map_some]
    simp only [read_memory h, ok_bind, write_memory h]
    rfl
  · rw [if_neg h, revise_of_not_mem h]
    rfl

/-- A refill by a generator without effects gives every slot the content named for its position. -/
theorem refill_pure (g : Grid α) (cells : Coord → Option α) :
    (g.refill fun c => (pure (cells c) : StateM σ (Option α))) = pure (g.recast cells) := by
  rw [refill, fill, Vector.ofFnM_pure, pure_bind]
  rfl

/-- The slots that a generator fills, as they stand one after the other. -/
theorem refill_memory (g : Grid α) (generator : Coord → StateM σ (Option α)) :
    g.memory.refill generator = steady (memory <$> g.refill generator) := by
  have calls : ((List.range g.memory.slots.size).mapM fun i => do
        let c ← g.memory.coordAt (.ofNat i)
        steady (generator c) : StateT σ (Except Trap) (List (Option α))) =
      steady (Vector.toList <$> fill g.frame generator) := by
    rw [size_memory, toList_fill, Frame.places_eq_map, List.mapM_map]
    refine mapM_eq_steady fun i hi => ?_
    rw [coordAt_memory g (List.mem_range.1 hi)]
    rfl
  rw [Memory.refill, calls, steady_bind_pure, Functor.map_map]
  rfl

theorem change_memory (g : Grid α) (x : Change σ α) :
    g.memory.change x = steady ((fun r => (r.1, r.2.memory)) <$> x.apply g) := by
  cases x with
  | edit e =>
    cases e with
    | set c cell => rw [Memory.change, revise_memory]; rfl
    | take c => rw [Memory.change, revise_memory]; rfl
    | overwrite c f => rw [Memory.change, revise_memory]; rfl
    | recast cells =>
      rw [Memory.change, refill_memory, refill_pure, map_pure, steady_bind_pure]
      rfl
  | refill generator =>
    rw [Memory.change, refill_memory, steady_bind_pure]
    rfl

theorem run_memory (g : Grid α) (changes : List (Change σ α)) :
    g.memory.run changes = steady ((fun r => (r.1, r.2.memory)) <$> Change.run g changes) := by
  induction changes generalizing g with
  | nil => rfl
  | cons x rest ih =>
    simp only [Memory.run, change_memory, steady_map_bind, ih]
    rfl

theorem build_memory (s : Storage) (f : Frame) (generator : Coord → StateM σ (Option α)) :
    Memory.build s f generator = steady (Except.map memory <$> build s f generator) := by
  rw [Memory.build, build]
  cases f.admit s with
  | error e => rfl
  | ok valid =>
    have empty_slots : (⟨f, Array.replicate f.area none⟩ : Memory α) =
        (blank f valid.down).memory := rfl
    dsimp only
    rw [empty_slots, refill_memory]
    rfl

theorem entries_memory (g : Grid α) : g.memory.entries = .ok g.entries := by
  rw [Memory.entries, entries]
  refine filterMapM_eq_ok fun p hp => ?_
  obtain ⟨s, i⟩ := p
  have below : i < g.frame.area := by
    simpa using (List.mem_zipIdx' hp).1
  cases s with
  | none => rfl
  | some a =>
    simp only [coordAt_memory g below]
    rfl

theorem neighboursWith_memory (g : Grid α) (c : Coord) (reach : Reach) :
    g.memory.neighboursWith c reach = .ok (g.neighboursWith c reach) :=
  filterMapM_eq_ok fun d _ => get?_memory g d

theorem coordOfPixel?_memory (g : Grid α) (px py : Float) :
    g.memory.coordOfPixel? px py = .ok (g.frame.coordOfPixel? px py) := by
  rw [Memory.coordOfPixel?, Frame.coordOfPixel?, frame_memory]
  by_cases h : g.frame.hasPixels = true
  · rw [if_pos h, if_pos h]
    have sizes_pos : 0 < g.frame.cellWidth ∧ 0 < g.frame.cellHeight := by
      simpa [Frame.hasPixels] using h
    cases Binary64.ofFloat? px with
    | none => rfl
    | some x =>
      cases Binary64.ofFloat? py with
      | none => rfl
      | some y =>
        simp only [Memory.axisOfPixel, UInt32.pos_iff_ne_zero.1 sizes_pos.1,
          UInt32.pos_iff_ne_zero.1 sizes_pos.2, if_false]
        rfl
  · rw [if_neg h, if_neg h]
    rfl

theorem ofPixel?_memory (g : Grid α) (px py : Float) :
    g.memory.ofPixel? px py = .ok (g.ofPixel? px py) := by
  rw [Memory.ofPixel?, coordOfPixel?_memory, ok_bind, ofPixel?]
  cases g.frame.coordOfPixel? px py with
  | none => rfl
  | some c => exact get?_memory g c

theorem draw_ofNat [Chance ρ] {n : Nat} (pos : 0 < n) (small : n < 2147483648) :
    (Memory.draw (.ofNat n) : StateT ρ (Except Trap) Int32) =
      steady ((fun i : Fin n => Int32.ofNat i) <$> modifyGet (Chance.draw n pos)) := by
  -- The bound comes back from 32 bits as a number equal to `n`, with which the draw is rewritten.
  have same_bound (m : Nat) (pos' : 0 < m) (e : m = n) :
      (do
        let i ← modifyGet (Chance.draw m pos')
        return Int32.ofNat i : StateT ρ (Except Trap) Int32) =
      steady ((fun i : Fin n => Int32.ofNat i) <$> modifyGet (Chance.draw n pos)) := by
    subst e
    rfl
  have exact_bound : (Int32.ofNat n).toNatClampNeg = n := Int32.toNatClampNeg_ofNat_of_lt small
  rw [Memory.draw, dif_pos (by rwa [exact_bound])]
  exact same_bound _ _ exact_bound

theorem sample_memory [Chance ρ] (g : Grid α) :
    (g.memory.sample : StateT ρ (Except Trap) (Option α)) = steady g.sample := by
  have width_lt : g.frame.width.toNat < 2147483648 := Nat.lt_succ_of_le g.valid.width_le
  have height_lt : g.frame.height.toNat < 2147483648 := Nat.lt_succ_of_le g.valid.height_le
  rw [Memory.sample, frame_memory, Word.toUInt64_eq_ofNat, Word.toUInt64_eq_ofNat,
    Word.toAxis_ofNat width_lt, Word.toAxis_ofNat height_lt]
  simp only [get?_memory]
  calc _ = (do
        let x ← Memory.draw (.ofNat g.frame.width.toNat)
        let y ← Memory.draw (.ofNat g.frame.height.toNat)
        return g.get? ⟨x, y⟩) := rfl
    _ = steady g.sample := by
      rw [draw_ofNat g.valid.width_pos width_lt, draw_ofNat g.valid.height_pos height_lt]
      rfl

end Grid
end GridWalk
