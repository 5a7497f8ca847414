import GridWalk.Grid.Build
import GridWalk.Grid.Pixel
import GridWalk.Proofs.Binary64.Decoding
/-! Pixels and cells. A quotient reaches a whole number exactly where the exact quotient does: a
double below `k * n` keeps a distance from it, `k` has a double close below it, and rounding up to
`k` would leave that one out. So the cells cut the pixels into the bands that exact division would,
the saturated coordinates lie outside every grid, and the first band on each axis also takes the
negative pixels that are cut off to 0. -/
namespace GridWalk

namespace Binary64
variable {x : Binary64} {a b k n top : Nat}

/-- Below `k` ones there is a short number closer to them than one part in 2^52. -/
theorem exists_short_below (pos : 0 < k) (fits : k ≤ 2 ^ 53) (fine : 53 ≤ top) :
    ∃ gap, 0 < gap ∧ Short (k * 2 ^ top - gap) ∧ 2 ^ 53 * gap < 2 * (k * 2 ^ top) := by
  have pow_le : 2 ^ (2 * k - 1).log2 ≤ 2 * k - 1 := Nat.log2_self_le (by omega)
  have lt_pow : 2 * k - 1 < 2 ^ ((2 * k - 1).log2 + 1) := Nat.lt_log2_self
  generalize (2 * k - 1).log2 = e at pow_le lt_pow
  rw [Nat.pow_succ] at lt_pow
  have small : e ≤ 53 := by
    have : 2 ^ e < 2 ^ 54 := by omega
    exact Nat.le_of_lt_succ ((Nat.pow_lt_pow_iff_right (by decide)).1 this)
  have whole : 2 ^ 53 = 2 ^ e * 2 ^ (53 - e) := by rw [← Nat.pow_add, Nat.add_sub_cancel' small]
  have split : 2 ^ top = 2 ^ (53 - e) * 2 ^ (top - 53 + e) := by
    rw [← Nat.pow_add, show 53 - e + (top - 53 + e) = top by omega]
  have digits : k * 2 ^ (53 - e) ≤ 2 ^ 53 := by
    rw [whole]
    exact Nat.mul_le_mul_right _ (by omega)
  refine ⟨2 ^ (top - 53 + e), Nat.two_pow_pos _, ?_, ?_⟩
  · rw [split, ← Nat.mul_assoc, ← Nat.sub_one_mul]
    exact short_of_le (by omega) _
  · calc 2 ^ 53 * 2 ^ (top - 53 + e) = 2 ^ e * 2 ^ top := by rw [whole, split, Nat.mul_assoc]
      _ < 2 * k * 2 ^ top := Nat.mul_lt_mul_of_pos_right (by omega) (Nat.two_pow_pos top)
      _ = 2 * (k * 2 ^ top) := Nat.mul_assoc _ _ _

/-- A step that a short number and the ones are multiples of, with fewer than 2^53 steps in the
short number. -/
theorem Short.exists_step (h : Short a) (below : a < 2 ^ 53 * 2 ^ top) :
    ∃ step m u, a = m * step ∧ 2 ^ top = u * step ∧ m < 2 ^ 53 := by
  obtain ⟨m, hm, e, rfl⟩ := h
  obtain low | high := Nat.le_total e top
  · exact ⟨2 ^ e, m, 2 ^ (top - e), rfl, by rw [← Nat.pow_add, Nat.sub_add_cancel low], hm⟩
  · have split := mul_two_pow_of_le m high
    rw [split] at below
    exact ⟨2 ^ top, m * 2 ^ (e - top), 1, split, (Nat.one_mul _).symm,
      Nat.lt_of_mul_lt_mul_right below⟩

/-- A short number below `b` ones stays away from them by more than half of what is narrow against
them. -/
theorem Short.lt_two_mul_sub {gap : Nat} (h : Short a) (below : a < b * 2 ^ top)
    (fits : b ≤ 2 ^ 53)
    (narrow : 2 ^ 53 * gap < 2 * (b * 2 ^ top)) : gap < 2 * (b * 2 ^ top - a) := by
  obtain ⟨step, m, u, rfl, split, hm⟩ :=
    h.exists_step (below.trans_le (Nat.mul_le_mul_right _ fits))
  rw [show b * 2 ^ top = b * u * step by rw [split, Nat.mul_assoc]] at below narrow ⊢
  have apart : m < b * u := Nat.lt_of_mul_lt_mul_right below
  -- Fewer than 2^53 steps lead up to the short number, and at least one leads on from it.
  have steps : b * u ≤ 2 ^ 53 * (b * u - m) := by omega
  rw [← Nat.sub_mul]
  refine Nat.lt_of_mul_lt_mul_left (a := 2 ^ 53) ?_
  calc 2 ^ 53 * gap < 2 * (b * u * step) := narrow
    _ ≤ 2 * (2 ^ 53 * (b * u - m) * step) :=
      Nat.mul_le_mul_left _ (Nat.mul_le_mul_right step steps)
    _ = 2 ^ 53 * (2 * ((b * u - m) * step)) := by ring

/-- The quotient reaches a whole number exactly where the dividend reaches its product with the
divisor. -/
theorem mul_le_div_iff (hx : x.IsDouble) (hn : 0 < n) (fits : k * n ≤ 2 ^ 53) :
    k * 2 ^ 1074 ≤ (x.div n).units ↔ k * 2 ^ 1074 * n ≤ x.units := by
  have small : k ≤ 2 ^ 53 := (Nat.le_mul_of_pos_right k hn).trans fits
  have near {b} (hb : Short b) := dist_div_le x hn hb
  constructor
  · intro reached
    by_contra below
    rw [Nat.not_le] at below
    have pos : 0 < k := by
      by_contra zero
      rw [Nat.eq_zero_of_not_pos zero, Nat.zero_mul, Nat.zero_mul] at below
      omega
    obtain ⟨gap, gap_pos, short, narrow⟩ :=
      exists_short_below pos small (show 53 ≤ 1074 by decide)
    have nearer := near short
    rw [Nat.sub_mul, Nat.mul_right_comm] at nearer
    rw [Nat.mul_right_comm] at below
    have narrow : 2 ^ 53 * (gap * n) < 2 * (k * n * 2 ^ 1074) :=
      calc 2 ^ 53 * (gap * n) = 2 ^ 53 * gap * n := (Nat.mul_assoc _ _ _).symm
        _ < 2 * (k * 2 ^ 1074) * n := Nat.mul_lt_mul_of_pos_right narrow hn
        _ = 2 * (k * n * 2 ^ 1074) := by rw [Nat.mul_assoc, Nat.mul_right_comm k]
    have apart := hx.short.lt_two_mul_sub below fits narrow
    have passed := Nat.mul_le_mul_right n reached
    rw [Nat.mul_right_comm] at passed
    have gap_pos := Nat.mul_pos gap_pos hn
    unfold Nat.dist at nearer
    omega
  · intro reached
    by_contra below
    rw [Nat.not_le] at below
    have here := near (short_of_le small 1074)
    have := Nat.mul_lt_mul_of_pos_right below hn
    unfold Nat.dist at here
    omega

theorem le_shiftRight_iff : k ≤ a >>> top ↔ k * 2 ^ top ≤ a := by
  rw [Nat.shiftRight_eq_div_pow, Nat.le_div_iff_mul_le (Nat.two_pow_pos top)]

theorem abs_value (x : Binary64) : |x.value| = x.units / 2 ^ 1074 := by
  unfold value signed
  split <;> simp [abs_div]

theorem value_eq_abs (x : Binary64) : x.value = if x.negative then -|x.value| else |x.value| := by
  unfold value signed
  split <;> simp [abs_div, neg_div]

/-- The digits before the point, for as many cells as fit into 2^53 pixels. -/
theorem le_whole_iff (hx : x.IsDouble) (hn : 0 < n) (fits : k * n ≤ 2 ^ 53) :
    k ≤ (x.div n).units >>> 1074 ↔ (k * n : Rat) ≤ |x.value| := by
  rw [le_shiftRight_iff, mul_le_div_iff hx hn fits, abs_value, le_div_iff₀ (by positivity),
    Nat.mul_right_comm]
  norm_cast

end Binary64

/-- The pixels of the `i`-th cell from an edge. The first one also takes those up to one cell beyond
the edge. -/
def Band (size : Nat) (i : Int) (p : Rat) : Prop :=
  (if i = 0 then -size < p else i * size ≤ p) ∧ p < (i + 1) * size

theorem saturate_eq_iff {c : Int32} {t : Int} (low : 0 ≤ c.toInt) (high : c.toInt < 2147483647) :
    saturate t = c ↔ t = c.toInt := by
  rw [← Int32.toInt_inj, toInt_saturate]
  split
  · omega
  · split <;> omega

/-- Along one axis: a pixel is mapped to a column or row of the grid exactly where it lies in its
band. -/
theorem saturate_truncate_div_iff {x : Binary64} {size count : Nat} {c : Int32} (hx : x.IsDouble)
    (pos : 0 < size) (extent : count * size ≤ 2 ^ 53) (side : count ≤ 2147483647)
    (inside : 0 ≤ c.toInt ∧ c.toInt < count) :
    saturate (x.div size).truncate = c ↔ Band size c.toInt x.value := by
  obtain ⟨i, eq⟩ := Int.eq_ofNat_of_zero_le inside.1
  have fits : (i + 1) * size ≤ 2 ^ 53 := (Nat.mul_le_mul_right size (by omega)).trans extent
  have from_low :=
    Binary64.le_whole_iff hx pos ((Nat.mul_le_mul_right size (Nat.le_succ i)).trans fits)
  have to_high := Binary64.le_whole_iff hx pos fits
  have positive : (0 : Rat) < size := by exact_mod_cast pos
  have magnitude := abs_nonneg x.value
  rw [saturate_eq_iff inside.1 (by omega), Binary64.truncate, Band, eq, x.value_eq_abs]
  generalize (x.div size).units >>> 1074 = whole at from_low to_high ⊢
  generalize |x.value| = v at from_low to_high magnitude ⊢
  rw [← not_lt, ← not_lt, not_iff_not] at to_high
  push_cast at to_high ⊢
  rw [Binary64.negative_div]
  cases x.negative with
  | false =>
    have reach : (if (i : Int) = 0 then -(size : Rat) < v else i * size ≤ v) ↔ i ≤ whole := by
      split
      next zero => exact iff_of_true (by linarith) (by omega)
      next => exact from_low.symm
    simp only [Bool.false_eq_true, if_false, reach, ← to_high]
    omega
  | true =>
    simp only [if_true]
    obtain rfl | cell := Nat.eq_zero_or_pos i
    · rw [if_pos (by rfl), neg_lt_neg_iff]
      simp only [Nat.cast_zero, zero_add, one_mul, Nat.lt_one_iff] at to_high ⊢
      rw [and_iff_left (by linarith), ← to_high]
      omega
    · have ahead : (0 : Rat) < i * size := by positivity
      rw [if_neg (by omega)]
      exact iff_of_false (by omega) (fun h => by linarith [h.1])

def Frame.HasPixel (f : Frame) (c : Coord) (p q : Rat) : Prop :=
  c ∈ f ∧ Band f.cellWidth.toNat c.x.toInt p ∧ Band f.cellHeight.toNat c.y.toInt q

structure Frame.Drawable (f : Frame) : Prop where
  hasPixels : f.hasPixels
  width_le : f.width.toNat * f.cellWidth.toNat ≤ 2 ^ 53
  height_le : f.height.toNat * f.cellHeight.toNat ≤ 2 ^ 53

theorem Frame.Valid.coordOfPixel?_eq_some_iff {f : Frame} (h : f.Valid) (drawable : f.Drawable)
    {px py : Float} (hx : px.isFinite) (hy : py.isFinite) {c : Coord} (hc : c ∈ f) :
    f.coordOfPixel? px py = some c ↔ f.HasPixel c (denoted px) (denoted py) := by
  obtain ⟨x, read_x, double_x, number_x⟩ := Binary64.exists_ofFloat?_eq_some hx
  obtain ⟨y, read_y, double_y, number_y⟩ := Binary64.exists_ofFloat?_eq_some hy
  have pixels := drawable.hasPixels
  rw [coordOfPixel?, if_pos pixels, read_x, read_y]
  obtain ⟨wide, high⟩ : 0 < f.cellWidth.toNat ∧ 0 < f.cellHeight.toNat := by
    simpa [hasPixels, UInt32.lt_iff_toNat_lt] using pixels
  have column := saturate_truncate_div_iff double_x wide drawable.width_le h.width_le hc.1
  have row := saturate_truncate_div_iff double_y high drawable.height_le h.height_le hc.2
  rw [HasPixel, ← number_x, ← number_y, ← column, ← row]
  change some _ = some _ ↔ _
  rw [Option.some_inj, Coord.mk.injEq]
  exact (and_iff_right hc).symm

/-- A pixel is looked up in the one cell that holds it, and in none where no cell of the grid
does. -/
theorem Grid.pixels_partitioned {α : Type} (g : Grid α) (drawable : g.frame.Drawable)
    {px py : Float} (hx : px.isFinite) (hy : py.isFinite) :
    (∀ c, g.frame.HasPixel c (denoted px) (denoted py) →
      g.ofPixel? px py = g.get? c ∧ g.frame.coordOfPixel? px py = some c ∧
        ∀ d, g.frame.HasPixel d (denoted px) (denoted py) → d = c) ∧
    ((¬ ∃ c, g.frame.HasPixel c (denoted px) (denoted py)) →
      g.ofPixel? px py = none ∧
        ∀ c, g.frame.coordOfPixel? px py = some c → c ∉ g.frame) := by
  have holds {c} (hc : c ∈ g.frame) := g.valid.coordOfPixel?_eq_some_iff drawable hx hy hc
  constructor
  · intro c held
    have found := (holds held.1).2 held
    refine ⟨by rw [ofPixel?, found]; rfl, found, fun d also => ?_⟩
    exact Option.some_inj.1 (((holds also.1).2 also).symm.trans found)
  · intro nowhere
    have outside c (found : g.frame.coordOfPixel? px py = some c) : c ∉ g.frame :=
      fun hc => nowhere ⟨c, (holds hc).1 found⟩
    refine ⟨?_, outside⟩
    cases found : g.frame.coordOfPixel? px py with
    | none => rw [ofPixel?, found]; rfl
    | some c =>
      rw [ofPixel?, found]
      exact get?_of_not_mem (outside c found)

/-- With cells of three by seven pixels the last double before 9 is still in the third column, a
pixel less than one cell above the grid is in the first row, and one that no coordinate can count to
is in no cell. -/
theorem Grid.threes_partitioned : ∃ g : Grid Tile,
    Grid.ofFn ⟨4, 2, 3, 7⟩ (fun c => some ⟨c⟩) = .ok g ∧ g.frame.Drawable ∧
    g.frame.HasPixel ⟨2, 0⟩ (denoted 8.999999999999998) (denoted (-6.5)) ∧
    g.ofPixel? 8.999999999999998 (-6.5) = g.get? ⟨2, 0⟩ ∧
    (¬ ∃ c, g.frame.HasPixel c (denoted 1e300) (denoted 0)) ∧ g.ofPixel? 1e300 0 = none := by
  obtain ⟨g, built⟩ : ∃ g : Grid Tile,
      Grid.ofFn ⟨4, 2, 3, 7⟩ (fun c => some ⟨c⟩) = .ok g := ⟨_, rfl⟩
  have frame : g.frame = ⟨4, 2, 3, 7⟩ := by
    cases built
    rfl
  have drawable : g.frame.Drawable := by
    rw [frame]
    exact ⟨by decide, by decide, by decide⟩
  have held : g.frame.HasPixel ⟨2, 0⟩ (denoted 8.999999999999998) (denoted (-6.5)) := by
    rw [frame]
    refine ⟨by decide, ?_, ?_⟩
    · unfold Band
      decide +kernel
    · unfold Band
      decide +kernel
  have nowhere : ¬ ∃ c, g.frame.HasPixel c (denoted 1e300) (denoted 0) := by
    rw [frame]
    rintro ⟨c, ⟨⟨-, col⟩, -⟩, ⟨-, before⟩, -⟩
    have far : (12 : Rat) ≤ denoted 1e300 := by decide +kernel
    have last : (c.x.toInt + 1 : Rat) ≤ 4 := by
      exact_mod_cast col
    change denoted 1e300 < (c.x.toInt + 1) * 3 at before
    linarith
  exact ⟨g, built, drawable, held,
    ((g.pixels_partitioned drawable (by decide +kernel) (by decide +kernel)).1 _ held).1, nowhere,
    ((g.pixels_partitioned drawable (by decide +kernel) (by decide +kernel)).2 nowhere).1⟩

end GridWalk
