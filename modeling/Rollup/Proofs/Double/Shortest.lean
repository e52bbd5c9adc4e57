import Mathlib.Tactic.LinearCombination
import Mathlib.Tactic.Ring
import Rollup.Double.Shortest
import Rollup.Proofs.Double.Rounding

/-!
# Shortest decimals are read back

The hits on a grid of powers of ten are exactly its points that are nearest to the double.
One of the grids that are tried is finer than the interval of the double, so a hit is found,
and a hit on a grid of whole numbers only for a double that is whole.
-/

namespace Rollup.Double

variable {significand : Nat} {exponent power : Int}

/-! ## The interval of a double -/

namespace IsNearest

/-- A double is nearest to itself. -/
theorem self (significand : Nat) (exponent : Int) :
    IsNearest significand exponent (significand * 2 ^ exponent) := by
  have place : (0 : ℚ) < 2 ^ exponent := zpow_pos two_pos exponent
  have reach : 0 < reachBelow significand exponent := by
    rw [reachBelow]
    split <;> norm_num
  refine ⟨?_, ?_, fun _ => ⟨?_, ?_⟩⟩ <;> gcongr <;> linarith

/-- Rationals between two that are nearest to a double are too. -/
theorem between {first second value : ℚ} (low : IsNearest significand exponent first)
    (high : IsNearest significand exponent second) (above : first ≤ value)
    (below : value ≤ second) : IsNearest significand exponent value :=
  ⟨low.low.trans above, below.trans high.high, fun odd =>
    ⟨(low.inside odd).1.trans_le above, below.trans_lt (high.inside odd).2⟩⟩

/-- A double with places after the point is the only natural number that is nearest to it. -/
theorem eq_of_natural {count : Nat} (fine : exponent ≤ 0)
    (nearest : IsNearest significand exponent count) :
    (significand : ℚ) * 2 ^ exponent = count := by
  obtain ⟨places, rfl⟩ : ∃ places : Nat, exponent = -(places : Int) :=
    ⟨(-exponent).toNat, by omega⟩
  have unit : (0 : ℚ) < 2 ^ places := by positivity
  have low := nearest.low
  have high := nearest.high
  have reach := reachBelow_le significand (-places)
  rw [zpow_neg, zpow_natCast, mul_inv_le_iff₀ unit] at low
  rw [zpow_neg, zpow_natCast, le_mul_inv_iff₀ unit] at high
  have same : significand = count * 2 ^ places := by
    have above : 2 * significand ≤ 2 * (count * 2 ^ places) + 1 := by
      qify
      linarith
    have below : 2 * (count * 2 ^ places) ≤ 2 * significand + 1 := by
      qify
      linarith
    omega
  rw [same, zpow_neg, zpow_natCast, Nat.cast_mul, Nat.cast_pow, Nat.cast_ofNat,
    mul_inv_cancel_right₀ unit.ne']

end IsNearest

/-! ## Grids -/

theorem zpow_mul_pow_toNat_neg {base : ℚ} (nonzero : base ≠ 0) (power : Int) :
    base ^ power * base ^ (-power).toNat = base ^ power.toNat := by
  rw [← zpow_natCast, ← zpow_natCast, ← zpow_add₀ nonzero]
  congr 1
  omega

/-- Both parts of a grid are to one scale. -/
theorem Grid.of_scale (power exponent : Int) :
    ∃ scale : ℚ, 0 < scale ∧ ((Grid.of power exponent).one : ℚ) = scale * 10 ^ power ∧
      (4 * (Grid.of power exponent).units : ℚ) = scale * 2 ^ exponent := by
  have tens := zpow_mul_pow_toNat_neg (show (10 : ℚ) ≠ 0 by norm_num) power
  have twos := zpow_mul_pow_toNat_neg (two_ne_zero (α := ℚ)) (exponent - 2)
  have quarter : (4 : ℚ) * 2 ^ (exponent - 2) = 2 ^ exponent := by
    rw [zpow_sub₀ two_ne_zero]
    norm_num
    linarith
  rw [Int.neg_sub] at twos
  refine ⟨10 ^ (-power).toNat * 2 ^ (2 - exponent).toNat, by positivity, ?_, ?_⟩
  · simp only [Grid.of, Nat.pow_eq, Nat.cast_mul, Nat.cast_pow, Nat.cast_ofNat]
    rw [← tens]
    ring
  · simp only [Grid.of, Nat.pow_eq, Nat.cast_mul, Nat.cast_pow, Nat.cast_ofNat]
    rw [← twos, ← quarter]
    ring

/-- The lower end of a double, in quarters of its last place. -/
theorem quarters_eq (nonzero : significand ≠ 0) (exponent : Int) :
    ((4 * significand - if significand = 4503599627370496 ∧ exponent ≠ -1074 then 1
      else 2 : Nat) : ℚ) = 4 * (significand - reachBelow significand exponent) := by
  rw [reachBelow, Nat.cast_sub (by split <;> omega)]
  split
  · norm_num
    linarith
  · norm_num
    linarith

/-- The hits on a grid are its points that are nearest to the double. -/
theorem Grid.hits_iff (nonzero : significand ≠ 0) (count : Nat) :
    (Grid.of power exponent).hits significand exponent count = true ↔
      IsNearest significand exponent (count * 10 ^ power) := by
  obtain ⟨scale, positive, one, units⟩ := Grid.of_scale power exponent
  have point : ((count * (Grid.of power exponent).one : Nat) : ℚ) =
      scale * (count * 10 ^ power) := by
    rw [Nat.cast_mul, one]
    ring
  have first : (((4 * significand - if significand = 4503599627370496 ∧ exponent ≠ -1074 then 1
      else 2) * (Grid.of power exponent).units : Nat) : ℚ) =
      scale * ((significand - reachBelow significand exponent) * 2 ^ exponent) := by
    rw [Nat.cast_mul, quarters_eq nonzero]
    linear_combination (significand - reachBelow significand exponent) * units
  have last : (((4 * significand + 2) * (Grid.of power exponent).units : Nat) : ℚ) =
      scale * ((significand + 1 / 2) * 2 ^ exponent) := by
    push_cast
    linear_combination (significand + 1 / 2) * units
  have ordered {a b : Nat} {x y : ℚ} (left : (a : ℚ) = scale * x) (right : (b : ℚ) = scale * y) :
      (a ≤ b ↔ x ≤ y) ∧ (a < b ↔ x < y) := by
    rw [← Nat.cast_le (α := ℚ), ← Nat.cast_lt (α := ℚ), left, right,
      mul_le_mul_iff_right₀ positive, mul_lt_mul_iff_right₀ positive]
    exact ⟨Iff.rfl, Iff.rfl⟩
  simp only [Grid.hits]
  split
  next even =>
    simp only [Bool.and_eq_true, decide_eq_true_eq, (ordered first point).1, (ordered point last).1]
    constructor
    · rintro ⟨low, high⟩
      exact ⟨low, high, fun odd => by omega⟩
    · intro nearest
      exact ⟨nearest.low, nearest.high⟩
  next odd =>
    simp only [Bool.and_eq_true, decide_eq_true_eq, (ordered first point).2, (ordered point last).2]
    constructor
    · intro inside
      exact ⟨inside.1.le, inside.2.le, fun _ => inside⟩
    · intro nearest
      exact nearest.inside (by omega)

/-- A double lies between two neighbouring points of a grid. -/
theorem Grid.neighbours (significand : Nat) (power exponent : Int) :
    let below := 4 * significand * (Grid.of power exponent).units / (Grid.of power exponent).one
    (below : ℚ) * 10 ^ power ≤ significand * 2 ^ exponent ∧
      (significand : ℚ) * 2 ^ exponent < (below + 1 : Nat) * 10 ^ power := by
  intro below
  obtain ⟨scale, positive, one, units⟩ := Grid.of_scale power exponent
  have value : ((4 * significand * (Grid.of power exponent).units : Nat) : ℚ) =
      scale * (significand * 2 ^ exponent) := by
    push_cast
    linear_combination significand * units
  have point (count : Nat) : ((count * (Grid.of power exponent).one : Nat) : ℚ) =
      scale * (count * 10 ^ power) := by
    rw [Nat.cast_mul, one]
    ring
  have unit : 0 < (Grid.of power exponent).one := by
    rw [← Nat.cast_pos (α := ℚ), one]
    positivity
  constructor
  · rw [← mul_le_mul_iff_right₀ positive, ← point, ← value, Nat.cast_le]
    exact Nat.div_mul_le_self _ _
  · rw [← mul_lt_mul_iff_right₀ positive, ← point, ← value, Nat.cast_lt]
    exact (Nat.div_lt_iff_lt_mul unit).mp (Nat.lt_succ_self _)

theorem Grid.hits_of_nearest? {grid : Grid} {count : Nat}
    (found : grid.nearest? significand exponent = some count) :
    grid.hits significand exponent count = true := by
  unfold Grid.nearest? at found
  dsimp only at found
  split at found
  next low high =>
    split at found <;> cases found
    · exact low
    · exact high
  next low high =>
    cases found
    exact low
  next low high =>
    cases found
    exact high
  next => cases found

/-- A grid with any point that is nearest to a double has a neighbour of it that is, since a
point on either side is no nearer than the neighbour on that side. -/
theorem Grid.exists_nearest? (nonzero : significand ≠ 0) {count : Nat}
    (nearest : IsNearest significand exponent (count * 10 ^ power)) :
    ∃ found, (Grid.of power exponent).nearest? significand exponent = some found := by
  obtain ⟨low, high⟩ := Grid.neighbours significand power exponent
  have unit : (0 : ℚ) < 10 ^ power := zpow_pos (by norm_num) power
  have self := IsNearest.self significand exponent
  unfold Grid.nearest?
  dsimp only
  generalize 4 * significand * (Grid.of power exponent).units / (Grid.of power exponent).one =
    below at low high ⊢
  have hit : (Grid.of power exponent).hits significand exponent below = true ∨
      (Grid.of power exponent).hits significand exponent (below + 1) = true := by
    rw [Grid.hits_iff nonzero, Grid.hits_iff nonzero]
    rcases Nat.lt_or_ge below count with after | before
    · have ordered : ((below + 1 : Nat) : ℚ) * 10 ^ power ≤ count * 10 ^ power := by
        gcongr
        exact after
      exact .inr (self.between nearest high.le ordered)
    · have ordered : (count : ℚ) * 10 ^ power ≤ below * 10 ^ power := by gcongr
      exact .inl (nearest.between self ordered low)
  split
  next => split <;> exact ⟨_, rfl⟩
  next => exact ⟨_, rfl⟩
  next => exact ⟨_, rfl⟩
  next neither noneAbove =>
    rw [neither, noneAbove] at hit
    rcases hit with absurd | absurd <;> cases absurd

/-- A grid finer than half of the last place of a double has a point nearest to it. -/
theorem Grid.exists_isNearest (significand : Nat) (fine : (10 : ℚ) ^ power < 2 ^ exponent / 2) :
    ∃ count : Nat, IsNearest significand exponent (count * 10 ^ power) := by
  obtain ⟨low, high⟩ := Grid.neighbours significand power exponent
  generalize 4 * significand * (Grid.of power exponent).units / (Grid.of power exponent).one =
    below at low high
  have self := IsNearest.self significand exponent
  have inside : ((below + 1 : Nat) : ℚ) * 10 ^ power < (significand + 1 / 2) * 2 ^ exponent := by
    push_cast
    linarith
  exact ⟨below + 1, self.low.trans high.le, inside.le, fun odd =>
    ⟨(self.inside odd).1.trans high, inside⟩⟩

/-- The first hit is found on a grid no finer than any that has one. -/
theorem shortestFrom_hits {grids steps : Nat} (within : steps < grids) {count : Nat}
    (nonzero : significand ≠ 0)
    (nearest : IsNearest significand exponent (count * 10 ^ (power - steps))) :
    IsNearest significand exponent
        ((shortestFrom significand exponent grids power).1 *
          10 ^ (shortestFrom significand exponent grids power).2) ∧
      power - steps ≤ (shortestFrom significand exponent grids power).2 := by
  induction grids generalizing power steps with
  | zero => omega
  | succ grids inductionHypothesis =>
      rw [shortestFrom]
      split
      next count found =>
        exact ⟨(Grid.hits_iff nonzero count).mp (Grid.hits_of_nearest? found), by omega⟩
      next missed =>
        cases steps with
        | zero =>
            rw [Int.natCast_zero, Int.sub_zero] at nearest
            obtain ⟨found, here⟩ := Grid.exists_nearest? nonzero nearest
            rw [missed] at here
            cases here
        | succ steps =>
            have moved : power - (steps + 1 : Nat) = power - 1 - steps := by omega
            rw [moved] at nearest ⊢
            exact inductionHypothesis (by omega) nearest

/-! ## Powers of ten and of two -/

/-- A power of ten is compared with a power of two by way of a power of it that is close to
one of two. -/
theorem zpow_ten_le {root : Nat} (nonzero : root ≠ 0) {estimate bits target : Int}
    (raised : ((10 : ℚ) ^ root) ^ estimate ≤ 2 ^ bits) (bounded : bits ≤ target * root) :
    (10 : ℚ) ^ estimate ≤ 2 ^ target := by
  refine le_of_pow_le_pow_left₀ nonzero (zpow_nonneg two_pos.le target) ?_
  calc ((10 : ℚ) ^ estimate) ^ root = (10 ^ root) ^ estimate := by
        rw [← zpow_natCast, ← zpow_natCast, zpow_comm]
    _ ≤ 2 ^ bits := raised
    _ ≤ 2 ^ (target * root) := zpow_le_zpow_right₀ one_le_two bounded
    _ = (2 ^ target) ^ root := by rw [zpow_mul, zpow_natCast]

/-- Ten is less than `2 ^ (10 / 3)` and more than `2 ^ (33 / 10)`. -/
theorem ten_zpow_le {estimate bits : Int} (up : 10 * estimate ≤ 3 * bits)
    (down : 33 * estimate ≤ 10 * bits) : (10 : ℚ) ^ estimate ≤ 2 ^ bits := by
  rcases Int.le_total 0 estimate with positive | negative
  · have raised : ((10 : ℚ) ^ 3) ^ estimate ≤ 2 ^ (10 * estimate) := by
      rw [zpow_mul]
      exact zpow_le_zpow_left₀ positive (by norm_num) (by norm_num)
    exact zpow_ten_le (by decide) raised (by omega)
  · obtain ⟨drop, rfl⟩ := Int.exists_eq_neg_ofNat negative
    have raised : ((10 : ℚ) ^ 10) ^ (-(drop : Int)) ≤ 2 ^ (33 * -(drop : Int)) := by
      rw [zpow_mul, zpow_neg, zpow_neg, zpow_natCast, zpow_natCast]
      exact inv_anti₀ (by positivity) (pow_le_pow_left₀ (by norm_num) (by norm_num) drop)
    exact zpow_ten_le (by decide) raised (by omega)

theorem two_zpow_le {estimate bits : Int} (up : 3 * bits ≤ 10 * estimate)
    (down : 10 * bits ≤ 33 * estimate) : (2 : ℚ) ^ bits ≤ 10 ^ estimate := by
  have inverted : (10 : ℚ) ^ (-estimate) ≤ 2 ^ (-bits) := ten_zpow_le (by omega) (by omega)
  rw [zpow_neg, zpow_neg] at inverted
  exact (inv_le_inv₀ (by positivity) (by positivity)).mp inverted

/-! ## Shortest decimals -/

/-- The last grid that is tried is finer than half of the last place of a double. -/
theorem zpow_lastGrid_lt (normal : IsNormal significand exponent) :
    (10 : ℚ) ^ (((significand.log2 : Int) + exponent) * 1233 / 4096 + 2 - (23 : Nat)) <
      2 ^ exponent / 2 := by
  obtain ⟨bounded, least, greatest, _⟩ := normal
  have short : significand.log2 ≤ 52 := by
    rcases Nat.eq_zero_or_pos significand with rfl | positive
    · decide
    · exact Nat.le_of_lt_succ ((Nat.log2_lt (Nat.ne_of_gt positive)).mpr bounded)
  generalize bits : (significand.log2 : Int) + exponent = highest
  have estimated : (10 : ℚ) ^ (highest * 1233 / 4096) ≤ 2 ^ (highest + 8) :=
    ten_zpow_le (by omega) (by omega)
  calc (10 : ℚ) ^ (highest * 1233 / 4096 + 2 - (23 : Nat))
      = 10 ^ (highest * 1233 / 4096) * 10 ^ (-21 : Int) := by
        rw [← zpow_add₀ (by norm_num)]
        congr 1
        omega
    _ ≤ 2 ^ (exponent + 60) * 10 ^ (-21 : Int) := by
        refine mul_le_mul_of_nonneg_right (estimated.trans ?_) (by positivity)
        exact zpow_le_zpow_right₀ one_le_two (by omega)
    _ < 2 ^ exponent / 2 := by
        rw [zpow_add₀ two_ne_zero, mul_assoc, div_eq_mul_inv]
        refine mul_lt_mul_of_pos_left ?_ (zpow_pos two_pos exponent)
        norm_num

variable (normal : IsNormal significand exponent) (nonzero : significand ≠ 0)
include normal nonzero

/-- The shortest decimal of a double is nearest to it. -/
theorem shortest_isNearest :
    IsNearest significand exponent
      ((shortest significand exponent).1 * 10 ^ (shortest significand exponent).2) := by
  obtain ⟨count, nearest⟩ := Grid.exists_isNearest significand (zpow_lastGrid_lt normal)
  exact (shortestFrom_hits (by decide) nonzero nearest).1

/-- The shortest decimal of a whole double has no places after the point. -/
theorem shortest_nonneg_of_whole {count : Nat}
    (whole : (significand : ℚ) * 2 ^ exponent = count) :
    0 ≤ (shortest significand exponent).2 := by
  have last := zpow_lastGrid_lt normal
  have highest : 0 ≤ (significand.log2 : Int) + exponent := by
    have positive : (0 : ℚ) < count := by
      rw [← whole]
      exact mul_pos (Nat.cast_pos.mpr (Nat.pos_of_ne_zero nonzero)) (zpow_pos two_pos exponent)
    have counted : (1 : ℚ) ≤ count := Nat.one_le_cast.mpr (Nat.cast_pos.mp positive)
    by_contra small
    have bounded : (significand : ℚ) < 2 ^ ((significand.log2 : Int) + 1) := by
      exact_mod_cast Nat.lt_log2_self
    have : (significand : ℚ) * 2 ^ exponent < 1 := by
      calc (significand : ℚ) * 2 ^ exponent
          < 2 ^ ((significand.log2 : Int) + 1) * 2 ^ exponent := by gcongr
        _ = 2 ^ ((significand.log2 : Int) + 1 + exponent) := (zpow_add₀ two_ne_zero _ _).symm
        _ ≤ 1 := zpow_le_one_of_nonpos₀ one_le_two (by omega)
    linarith
  rw [shortest]
  generalize (significand.log2 : Int) + exponent = bits at highest last ⊢
  generalize estimate : bits * 1233 / 4096 + 2 = power at last ⊢
  rcases Int.lt_or_le 23 power with coarse | fine
  · obtain ⟨found, nearest⟩ := Grid.exists_isNearest significand last
    have bounded := (shortestFrom_hits (show 23 < 24 by decide) nonzero nearest).2
    omega
  · obtain ⟨steps, rfl⟩ := Int.eq_ofNat_of_zero_le (show 0 ≤ power by omega)
    have nearest : IsNearest significand exponent (count * 10 ^ ((steps : Int) - steps)) := by
      rw [Int.sub_self, zpow_zero, mul_one, ← whole]
      exact IsNearest.self significand exponent
    have bounded := (shortestFrom_hits (show steps < 24 by omega) nonzero nearest).2
    omega

end Rollup.Double
