import GridWalk.Proofs.Grid.Built
/-! What a generator is asked and what becomes of its answers. A generator that writes down its
calls shows that a construction which is refused makes none, and that one which is not, as any
refill, makes one call for each position along the rows, each from the state in which the call
before it left the generator. -/
namespace GridWalk
variable {α σ : Type}

inductive Calls (generator : Coord → StateM σ (Option α)) :
    σ → List (Coord × Option α) → σ → Prop where
  | done (t : σ) : Calls generator t [] t
  | call {t t' t'' : σ} {c : Coord} {a : Option α} {rest : List (Coord × Option α)}
      (answer : (generator c).run t = (a, t')) (later : Calls generator t' rest t'') :
      Calls generator t ((c, a) :: rest) t''

def recorded (generator : Coord → StateM σ (Option α)) (c : Coord) :
    StateM (σ × List (Coord × Option α)) (Option α) :=
  fun (t, log) =>
    let (a, t') := (generator c).run t
    (a, t', log ++ [(c, a)])

namespace Calls
variable {generator : Coord → StateM σ (Option α)} {t t' : σ}
  {calls : List (Coord × Option α)}

theorem exists_calls (generator : Coord → StateM σ (Option α)) (cs : List Coord) (t : σ) :
    ∃ calls t', Calls generator t calls t' ∧ calls.map Prod.fst = cs := by
  induction cs generalizing t with
  | nil => exact ⟨[], t, .done t, rfl⟩
  | cons c cs ih =>
    obtain ⟨calls, t', later, places_eq⟩ := ih ((generator c).run t).2
    exact ⟨(c, ((generator c).run t).1) :: calls, t', .call rfl later,
      congrArg (c :: ·) places_eq⟩

theorem run_mapM_cons {τ β : Type} {m : Coord → StateM τ β} {c : Coord}
    {cs : List Coord} {b : β} {bs : List β} {t t' t'' : τ} (first : (m c).run t = (b, t'))
    (rest : (cs.mapM m).run t' = (bs, t'')) : ((c :: cs).mapM m).run t = (b :: bs, t'') := by
  have unfolded : ((c :: cs).mapM m).run t =
      (((m c).run t).1 :: ((cs.mapM m).run ((m c).run t).2).1,
        ((cs.mapM m).run ((m c).run t).2).2) := by
    rw [List.mapM_cons]
    rfl
  rw [unfolded, first, rest]

theorem run_mapM (h : Calls generator t calls t') :
    ((calls.map Prod.fst).mapM generator).run t = (calls.map Prod.snd, t') := by
  induction h with
  | done => rfl
  | call answer _ ih => exact run_mapM_cons answer ih

/-- Writing the calls down changes nothing else. -/
theorem run_mapM_recorded (h : Calls generator t calls t') (log : List (Coord × Option α)) :
    ((calls.map Prod.fst).mapM (recorded generator)).run (t, log) =
      (calls.map Prod.snd, t', log ++ calls) := by
  induction h generalizing log with
  | done t =>
    rw [List.append_nil]
    rfl
  | @call t t' _ c a _ answer _ ih =>
    have written : (recorded generator c).run (t, log) = (a, t', log ++ [(c, a)]) :=
      congrArg (fun p : Option α × σ => (p.1, p.2, log ++ [(c, p.1)])) answer
    rw [List.append_cons]
    exact run_mapM_cons written (ih _)

/-- What is written down for a position is an answer that the generator gives there. -/
theorem exists_answer {c : Coord} {a : Option α} (h : Calls generator t calls t')
    (mem : (c, a) ∈ calls) : ∃ u, ((generator c).run u).1 = a := by
  induction h with
  | done => cases mem
  | @call t _ _ _ _ _ answer _ ih =>
    cases List.mem_cons.1 mem with
    | inl same =>
      cases same
      exact ⟨t, congrArg Prod.fst answer⟩
    | inr mem => exact ih mem

end Calls

namespace Grid
variable {g : Grid α} {c : Coord} {generator : Coord → StateM σ (Option α)} {t t' : σ}
  {log : List (Coord × Option α)}

structure FilledBy (g : Grid α) (generator : Coord → StateM σ (Option α)) (t : σ)
    (log : List (Coord × Option α)) (t' : σ) : Prop where
  calls : Calls generator t log t'
  order : log.map Prod.fst = g.frame.places
  count : log.length = g.frame.width.toNat * g.frame.height.toNat
  holds : ∀ c a, (c, a) ∈ log ↔ g.get c = .ok a

/-- The positions paired with the slots along the rows show what `get` finds. -/
theorem mem_zip_places_iff {a : Option α} :
    (c, a) ∈ g.frame.places.zip g.slots.toList ↔ g.get c = .ok a := by
  rw [List.mem_iff_getElem]
  constructor
  · intro ⟨i, hi, at_i⟩
    have below : i < g.frame.area := by simpa using hi
    rw [List.getElem_zip, Frame.getElem_places, Vector.getElem_toList] at at_i
    cases at_i
    rw [get, if_pos (Frame.coordAt_mem g.valid below), get?_coordAt below]
  · intro held
    by_cases mem : c ∈ g.frame
    · have below := Frame.index_lt_area mem
      rw [get, if_pos mem, get?_of_mem mem] at held
      cases held
      refine ⟨g.frame.index c, by simpa using below, ?_⟩
      rw [List.getElem_zip, Frame.getElem_places, Vector.getElem_toList, Frame.coordAt_index mem]
      rfl
    · rw [get, if_neg mem] at held
      cases held

theorem FilledBy.of_calls (calls : Calls generator t log t')
    (order : log.map Prod.fst = g.frame.places)
    (kept : g.slots.toList = log.map Prod.snd) : g.FilledBy generator t log t' := by
  refine ⟨calls, order, ?_, fun c a => ?_⟩
  · rw [← List.length_map Prod.fst, order, Frame.length_places, Frame.area]
  · rw [← mem_zip_places_iff, ← List.zip_of_prod order kept.symm]

/-- One pass of a generator over a frame, with and without its calls written down. -/
theorem exists_calls_fill (f : Frame) (generator : Coord → StateM σ (Option α)) (t : σ) :
    ∃ calls slots t', Calls generator t calls t' ∧ calls.map Prod.fst = f.places ∧
      slots.toList = calls.map Prod.snd ∧ (fill f generator).run t = (slots, t') ∧
      (fill f (recorded generator)).run (t, []) = (slots, t', calls) := by
  obtain ⟨calls, t', made, order⟩ := Calls.exists_calls generator f.places t
  have plain := made.run_mapM
  have written := made.run_mapM_recorded []
  rw [order, ← toList_fill, StateT.run_map] at plain written
  obtain ⟨kept, left⟩ := Prod.mk.inj plain
  obtain ⟨kept', left'⟩ := Prod.mk.inj written
  have same : ((fill f (recorded generator)).run (t, [])).1 = ((fill f generator).run t).1 :=
    Vector.toList_inj.1 (kept'.trans kept.symm)
  exact ⟨calls, _, t', made, order, kept, Prod.ext rfl left, Prod.ext same left'⟩

theorem exists_filledBy_refill (g : Grid α)
    (generator : Coord → StateM σ (Option α)) (t : σ) :
    ∃ k t' log, (g.refill generator).run t = (k, t') ∧
      (g.refill (recorded generator)).run (t, []) = (k, t', log) ∧ k.frame = g.frame ∧
      k.FilledBy generator t log t' := by
  obtain ⟨calls, slots, t', made, order, kept, plain, written⟩ :=
    exists_calls_fill g.frame generator t
  refine ⟨{ g with slots }, t', calls, ?_, ?_, rfl, .of_calls made order kept⟩
  · rw [refill, StateT.run_bind, plain]
    rfl
  · rw [refill, StateT.run_bind, written]
    rfl

theorem exists_filledBy_build {s : Storage} {f : Frame}
    (h : (build s f generator).run t = (.ok g, t')) :
    ∃ log, (build s f (recorded generator)).run (t, []) = (.ok g, t', log) ∧
      g.FilledBy generator t log t' := by
  obtain ⟨calls, slots, t₁, made, order, kept, plain, written⟩ :=
    exists_calls_fill f generator t
  rw [build] at h ⊢
  cases admitted : f.admit s with
  | error e =>
    rw [admitted] at h
    cases h
  | ok valid =>
    simp only [admitted, StateT.run_bind, plain] at h
    simp only [StateT.run_bind, written]
    cases h
    exact ⟨calls, rfl, .of_calls made order kept⟩

/-- What a grid holds where it was built is an answer that its generator gives there. -/
theorem exists_answer_of_build {s : Storage} {f : Frame}
    (h : (build s f generator).run t = (.ok g, t'))
    (hc : c ∈ f) : ∃ u, ((generator c).run u).1 = g.get? c := by
  obtain ⟨log, -, filled⟩ := exists_filledBy_build h
  rw [← frame_of_build h] at hc
  exact filled.calls.exists_answer ((filled.holds c _).2 (if_pos hc))

section
variable {s : Storage} {f : Frame} {cells : Coord → Option α} (h : ofFnIn s f cells = .ok g)
include h

theorem build_of_ofFnIn :
    (build s f fun c => (pure (cells c) : StateM Unit (Option α))).run () = (.ok g, ()) :=
  Prod.ext h rfl

theorem frame_of_ofFnIn : g.frame = f := frame_of_build (build_of_ofFnIn h)

theorem get?_of_ofFnIn (hc : c ∈ f) : g.get? c = cells c := by
  obtain ⟨_, answer⟩ := exists_answer_of_build (build_of_ofFnIn h) hc
  exact answer.symm

end

/-- What a generator fills a grid with does not depend on what the grid held. -/
theorem refill_eq_of_frame_eq {k : Grid α} (h : k.frame = g.frame) :
    k.refill generator = g.refill generator := by
  obtain ⟨f, valid, slots⟩ := g
  obtain ⟨f', valid', slots'⟩ := k
  cases h
  rfl

theorem run_build_of_error {s : Storage} {f : Frame} {e : Fault} (t : σ)
    (h : ((build s f generator).run t).1 = .error e) :
    (build s f generator).run t = (.error e, t) ∧
      (build s f (recorded generator)).run (t, []) = (.error e, t, []) := by
  rw [build] at h ⊢
  cases admitted : f.admit s with
  | error e' =>
    rw [admitted] at h
    cases h
    exact ⟨rfl, by rw [build, admitted]; rfl⟩
  | ok valid =>
    rw [admitted] at h
    cases h

/-- How a generator is called. A construction that is refused does not call it and leaves it its
state. Any other construction, and any refill of a grid that was built and changed since, calls it
once for each position along the rows, the state passing from call to call, and what `get` then
finds at a position is the answer to the call made for it, whatever was there before. -/
theorem generator_called_along_rows (α σ : Type) (s : Storage) (f : Frame) :
    (∀ (generator : Coord → StateM σ (Option α)) (t : σ) (e : Fault),
      ((build s f generator).run t).1 = .error e →
        (build s f generator).run t = (.error e, t) ∧
          (build s f (recorded generator)).run (t, []) = (.error e, t, [])) ∧
    (∀ (generator : Coord → StateM σ (Option α)) (t t' : σ) (g : Grid α),
      (build s f generator).run t = (.ok g, t') →
        ∃ log, (build s f (recorded generator)).run (t, []) = (.ok g, t', log) ∧ g.frame = f ∧
          g.FilledBy generator t log t') ∧
    ∀ g : Grid α, g.BuiltFrom f → ∀ (changes : List (Change σ α)) (u : σ),
      ∃ answers k u', (Change.run g changes).run u = ((answers, k), u') ∧ k.frame = f ∧
        ∀ {τ : Type} (generator : Coord → StateM τ (Option α)) (t : τ),
          ∃ k' t' log, (k.refill generator).run t = (k', t') ∧
            (k.refill (recorded generator)).run (t, []) = (k', t', log) ∧ k'.frame = f ∧
            k'.FilledBy generator t log t' ∧
            ∀ other : Grid α, other.frame = f → (other.refill generator).run t = (k', t') := by
  refine ⟨fun _ t _ => run_build_of_error t, fun generator t t' g built => ?_,
    fun g built changes u => ?_⟩
  · obtain ⟨log, written, filled⟩ := exists_filledBy_build built
    exact ⟨log, written, frame_of_build built, filled⟩
  · obtain ⟨answers, k, u', ran, frame_kept⟩ := built.exists_run changes u
    refine ⟨answers, k, u', ran, frame_kept, fun generator t => ?_⟩
    obtain ⟨k', t', log, plain, written, same_frame, filled⟩ :=
      exists_filledBy_refill k generator t
    refine ⟨k', t', log, plain, written, same_frame.trans frame_kept, filled,
      fun other other_frame => ?_⟩
    rw [refill_eq_of_frame_eq (other_frame.trans frame_kept.symm), plain]

def counting (_ : Coord) : StateM Nat (Option Nat) := fun n => (some n, n + 1)

theorem counting_called_along_rows :
    (build .standard { width := 0, height := 2 } (recorded counting)).run (5, []) =
      (.error (.emptyGrid 0 2), 5, []) ∧
    ∃ g t log answers k k' t' log',
      (build .standard { width := 3, height := 2 } counting).run 5 = (.ok g, t) ∧ t = 11 ∧
      g.FilledBy counting 5 log t ∧
      log = [(⟨0, 0⟩, some 5), (⟨1, 0⟩, some 6), (⟨2, 0⟩, some 7), (⟨0, 1⟩, some 8),
        (⟨1, 1⟩, some 9), (⟨2, 1⟩, some 10)] ∧
      (Change.run g [.edit (.take ⟨1, 0⟩), .edit (.set ⟨2, 1⟩ (some 3))]).run 0 =
        ((answers, k), 0) ∧
      (k.refill counting).run 20 = (k', t') ∧ t' = 26 ∧ k'.FilledBy counting 20 log' t' ∧
      k'.get ⟨1, 0⟩ = .ok (some 21) ∧ k'.get ⟨2, 1⟩ = .ok (some 25) := by
  obtain ⟨refused, -, -⟩ :=
    generator_called_along_rows Nat Nat .standard { width := 0, height := 2 }
  obtain ⟨-, granted, reached⟩ :=
    generator_called_along_rows Nat Nat .standard { width := 3, height := 2 }
  obtain ⟨g, t, built⟩ :
      ∃ g t, (build .standard { width := 3, height := 2 } counting).run 5 = (.ok g, t) :=
        ⟨_, _, rfl⟩
  obtain ⟨log, written, -, filled⟩ := granted counting 5 t g built
  obtain ⟨answers, k, u, ran, -, refilled⟩ := reached g (.filled built)
    [.edit (.take ⟨1, 0⟩), .edit (.set ⟨2, 1⟩ (some 3))] 0
  obtain ⟨k', t', log', again, -, -, filled', -⟩ := refilled counting 20
  have logged := congrArg (fun p => p.2.2) written
  cases built
  cases ran
  cases again
  exact ⟨(refused counting 5 _ rfl).2, _, _, log, _, _, _, _, log', rfl, by decide +kernel,
    filled, logged.symm.trans (by decide +kernel), rfl, rfl, by decide +kernel, filled',
    by decide +kernel, by decide +kernel⟩

end Grid
end GridWalk
