import Listing.Number.Rounding
import Mathlib.Algebra.Order.Field.Power
import Mathlib.Data.Rat.Cast.Order
import Mathlib.Tactic.Linarith
import Mathlib.Tactic.Ring

/-!
What rounding keeps. No integer lies between a number and its rounding, as long as the binary64
numbers around it are no further apart than one, and of the positive numbers those up to half of the
smallest binary64 number are the ones that become zero.
-/

namespace Listing

theorem roundHalfEven_le (q : Rat) (n : Int) (le : q ≤ n) : roundHalfEven q ≤ n := by
  have below := Rat.floor_le q
  have floor_le : q.floor ≤ n := by exact_mod_cast below.trans le
  unfold roundHalfEven
  dsimp only
  split_ifs with up
  · by_contra past
    have same : q.floor = n := by omega
    rw [same] at up
    rcases up with up | ⟨up, _⟩ <;> linarith
  · exact floor_le

theorem le_roundHalfEven (q : Rat) (n : Int) (le : n ≤ q) : n ≤ roundHalfEven q :=
  (Rat.le_floor_iff.2 le).trans (roundHalfEven_bounds q).1

theorem lt_roundHalfEven (q : Rat) (n : Int) (above : n + 1 / 2 < q) : n < roundHalfEven q := by
  have le : n ≤ q.floor := Rat.le_floor_iff.2 (by linarith)
  unfold roundHalfEven
  dsimp only
  split_ifs with up
  · omega
  · refine lt_of_le_of_ne le fun same => up (Or.inl ?_)
    rw [← same]
    linarith

theorem roundHalfEven_eq_zero (q : Rat) (nonneg : 0 ≤ q) (half : q ≤ 1 / 2) :
    roundHalfEven q = 0 := by
  have below : q.floor = 0 := by
    apply Int.le_antisymm
    · have less : q.floor < 1 := Rat.floor_lt_iff.2 (by push_cast; linarith)
      omega
    · exact Rat.le_floor_iff.2 (by exact_mod_cast nonneg)
  unfold roundHalfEven
  dsimp only
  rw [below, if_neg]
  · rintro (up | ⟨_, odd⟩)
    · push_cast at up
      linarith
    · omega

theorem floorLog2_bounds (q : Rat) (pos : 0 < q) :
    2 ^ floorLog2 q ≤ q ∧ q < 2 ^ (floorLog2 q + 1) := by
  have den : (0 : Rat) < q.den := by exact_mod_cast q.den_pos
  have num : (q.num.natAbs : Rat) = q * q.den := by
    rw [Rat.mul_den_eq_num, ← Int.cast_natCast, Int.natAbs_of_nonneg (Rat.num_nonneg.2 pos.le)]
  have numerator : q.num.natAbs ≠ 0 := by
    have some := (Rat.num_pos.2 pos).ne'
    omega
  have low : (2 : Rat) ^ (q.num.natAbs.log2 : Int) ≤ q * q.den := by
    rw [← num, zpow_natCast]
    exact_mod_cast Nat.log2_self_le numerator
  have high : q * q.den < (2 : Rat) ^ ((q.num.natAbs.log2 : Int) + 1) := by
    rw [← num]
    exact_mod_cast Nat.lt_log2_self
  have denLow : (2 : Rat) ^ (q.den.log2 : Int) ≤ q.den := by
    rw [zpow_natCast]
    exact_mod_cast Nat.log2_self_le q.den_nz
  have denHigh : (q.den : Rat) < (2 : Rat) ^ ((q.den.log2 : Int) + 1) := by
    exact_mod_cast Nat.lt_log2_self
  unfold floorLog2
  dsimp only
  generalize (q.num.natAbs.log2 : Int) = top at *
  generalize (q.den.log2 : Int) = bottom at *
  have least : (2 : Rat) ^ (top - bottom - 1) ≤ q := by
    have split : (2 : Rat) ^ (top - bottom - 1) * 2 ^ (bottom + 1) = 2 ^ top := by
      rw [← zpow_add₀ two_ne_zero]
      congr 1
      omega
    have scale := zpow_pos (two_pos : (0 : Rat) < 2) (bottom + 1)
    rw [← mul_le_mul_iff_left₀ scale, split]
    exact low.trans (mul_le_mul_of_nonneg_left denHigh.le pos.le)
  have greatest : q < (2 : Rat) ^ (top - bottom + 1) := by
    have split : (2 : Rat) ^ (top - bottom + 1) * 2 ^ bottom = 2 ^ (top + 1) := by
      rw [← zpow_add₀ two_ne_zero]
      congr 1
      omega
    have scale := zpow_pos (two_pos : (0 : Rat) < 2) bottom
    rw [← mul_lt_mul_iff_left₀ scale, split]
    exact (mul_le_mul_of_nonneg_left denLow pos.le).trans_lt high
  split_ifs with under
  · exact ⟨least, by rwa [sub_add_cancel]⟩
  · exact ⟨not_lt.1 under, greatest⟩

theorem floorLog2_lt (q : Rat) (pos : 0 < q) (e : Int) (less : q < 2 ^ e) : floorLog2 q < e :=
  (zpow_lt_zpow_iff_right₀ one_lt_two).1 ((floorLog2_bounds q pos).1.trans_lt less)

theorem le_floorLog2 (q : Rat) (pos : 0 < q) (e : Int) (le : 2 ^ e ≤ q) : e ≤ floorLog2 q :=
  Int.lt_add_one_iff.1
    ((zpow_lt_zpow_iff_right₀ one_lt_two).1 (le.trans_lt (floorLog2_bounds q pos).2))

theorem exists_pow_lt_of_between (q : Rat) (n : Nat) (some : 0 < n) (above : n < q)
    (below : q < n + 1) : ∃ k : Nat, floorLog2 q = k ∧ (2 : Rat) ^ k < q := by
  have one : (1 : Rat) ≤ n := by exact_mod_cast some
  have pos : 0 < q := by linarith
  have order : 0 ≤ floorLog2 q := by
    apply le_floorLog2 q pos
    rw [zpow_zero]
    linarith
  obtain ⟨k, same⟩ := Int.eq_ofNat_of_zero_le order
  have le := (floorLog2_bounds q pos).1
  rw [same, zpow_natCast] at le
  refine ⟨k, same, lt_of_le_of_ne le fun equal => ?_⟩
  rw [← equal] at above below
  have low : n < 2 ^ k := by exact_mod_cast above
  have high : 2 ^ k < n + 1 := by exact_mod_cast below
  omega

theorem lastBit_eq (q : Rat) (pos : 0 < q) : lastBit q = max (floorLog2 q - 52) (-1074) := by
  rw [lastBit, Rat.abs_of_nonneg pos.le]

theorem lastBit_nonpos (q : Rat) (pos : 0 < q) (small : q < 2 ^ 53) : lastBit q ≤ 0 := by
  have order := floorLog2_lt q pos 53 small
  rw [lastBit_eq q pos]
  omega

theorem half_unit (e : Int) : (2 : Rat) ^ (e - 1) = 2 ^ e / 2 := by
  rw [zpow_sub_one₀ two_ne_zero, div_eq_mul_inv]

theorem exists_intCast_eq_div (n e : Int) (nonpos : e ≤ 0) :
    ∃ k : Int, (k : Rat) = n / 2 ^ e := by
  refine ⟨n * 2 ^ (-e).toNat, ?_⟩
  push_cast
  rw [← zpow_natCast, Int.toNat_of_nonneg (by omega), zpow_neg, div_eq_mul_inv]

section Integers

variable (q : Rat) (pos : 0 < q) (small : q < 2 ^ 53) (n : Int)

include pos small

theorem nearest64_le (le : q ≤ n) : nearest64 q ≤ n := by
  have unit := zpow_pos (two_pos : (0 : Rat) < 2) (lastBit q)
  obtain ⟨k, same⟩ := exists_intCast_eq_div n _ (lastBit_nonpos q pos small)
  have rounded : roundHalfEven (q / 2 ^ lastBit q) ≤ k := by
    apply roundHalfEven_le
    rw [same]
    exact div_le_div_of_nonneg_right le unit.le
  rw [nearest64, ← le_div_iff₀ unit, ← same]
  exact_mod_cast rounded

theorem le_nearest64 (le : n ≤ q) : n ≤ nearest64 q := by
  have unit := zpow_pos (two_pos : (0 : Rat) < 2) (lastBit q)
  obtain ⟨k, same⟩ := exists_intCast_eq_div n _ (lastBit_nonpos q pos small)
  have rounded : k ≤ roundHalfEven (q / 2 ^ lastBit q) := by
    apply le_roundHalfEven
    rw [same]
    exact div_le_div_of_nonneg_right le unit.le
  rw [nearest64, ← div_le_iff₀ unit, ← same]
  exact_mod_cast rounded

theorem lt_nearest64 (far : n + 2 ^ (lastBit q - 1) < q) : n < nearest64 q := by
  have unit := zpow_pos (two_pos : (0 : Rat) < 2) (lastBit q)
  obtain ⟨k, same⟩ := exists_intCast_eq_div n _ (lastBit_nonpos q pos small)
  have rounded : k < roundHalfEven (q / 2 ^ lastBit q) := by
    apply lt_roundHalfEven
    rw [same, lt_div_iff₀ unit, add_mul, div_mul_cancel₀ _ unit.ne', one_div_mul_eq_div,
      ← half_unit]
    exact far
  rw [nearest64, ← div_lt_iff₀ unit, ← same]
  exact_mod_cast rounded

end Integers

theorem nearest64_nonneg (q : Rat) (nonneg : 0 ≤ q) : 0 ≤ nearest64 q := by
  have unit := zpow_pos (two_pos : (0 : Rat) < 2) (lastBit q)
  have rounded : 0 ≤ roundHalfEven (q / 2 ^ lastBit q) := by
    apply le_roundHalfEven
    rw [Int.cast_zero]
    exact div_nonneg nonneg unit.le
  rw [nearest64]
  exact mul_nonneg (by exact_mod_cast rounded) unit.le

theorem nearest64_natCast (n : Nat) (pos : 0 < n) (small : n ≤ 2 ^ 53) : nearest64 n = n := by
  rcases small.lt_or_eq with less | rfl
  · have posRat : (0 : Rat) < n := by exact_mod_cast pos
    have lessRat : (n : Rat) < 2 ^ 53 := by exact_mod_cast less
    have upper := nearest64_le n posRat lessRat n (by simp)
    have lower := le_nearest64 n posRat lessRat n (by simp)
    simp only [Int.cast_natCast] at upper lower
    exact le_antisymm upper lower
  · decide +kernel

theorem nearest64_eq_zero (q : Rat) (pos : 0 < q) (tiny : q ≤ 2 ^ (-1075 : Int)) :
    nearest64 q = 0 := by
  have unit := zpow_pos (two_pos : (0 : Rat) < 2) (-1074)
  have last : lastBit q = -1074 := by
    have order := floorLog2_lt q pos (-1074)
      (tiny.trans_lt ((zpow_lt_zpow_iff_right₀ one_lt_two).2 (by decide)))
    rw [lastBit_eq q pos]
    omega
  have rounded : roundHalfEven (q / 2 ^ (-1074 : Int)) = 0 := by
    apply roundHalfEven_eq_zero
    · exact (div_pos pos unit).le
    · rw [div_le_iff₀ unit, one_div_mul_eq_div, ← half_unit]
      exact tiny
  rw [nearest64, last, rounded, Int.cast_zero, zero_mul]

theorem nearest64_pos (q : Rat) (big : 2 ^ (-1075 : Int) < q) : 0 < nearest64 q := by
  have pos : 0 < q := (zpow_pos two_pos _).trans big
  have unit := zpow_pos (two_pos : (0 : Rat) < 2) (lastBit q)
  have last := lastBit_eq q pos
  have rounded : 0 < roundHalfEven (q / 2 ^ lastBit q) := by
    by_cases normal : -1074 ≤ floorLog2 q - 52
    · have order : lastBit q ≤ floorLog2 q := by omega
      apply Int.lt_of_lt_of_le Int.zero_lt_one
      apply le_roundHalfEven
      rw [le_div_iff₀ unit, Int.cast_one, one_mul]
      exact (zpow_le_zpow_right₀ one_le_two order).trans (floorLog2_bounds q pos).1
    · have subnormal : lastBit q = -1074 := by omega
      apply lt_roundHalfEven
      rw [lt_div_iff₀ unit, Int.cast_zero, zero_add, one_div_mul_eq_div, ← half_unit, subnormal]
      exact big
  rw [nearest64]
  exact mul_pos (by exact_mod_cast rounded) unit

end Listing
