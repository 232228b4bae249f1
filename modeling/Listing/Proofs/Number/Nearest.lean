import Listing.Proofs.Number.Rounding

/-!
What it means to round correctly, said without the way the rounding is done: of all binary64 numbers
take one that is closest, and where two are closest the one whose last bit is zero. Below the end of
the finite range exactly one number is that, and `nearest64` finds it.
-/

namespace Listing

/-- A finite binary64 number by its value: 53 bits, the last of which stands for a power of two in
the range of the format. -/
def IsBinary64 (x : Rat) : Prop :=
  ∃ m e : Int, m.natAbs < 2 ^ 53 ∧ -1074 ≤ e ∧ e ≤ 971 ∧ x = m * 2 ^ e

def EndsInZero (x : Rat) : Prop :=
  ∃ m e : Int, (2 * m).natAbs < 2 ^ 53 ∧ -1074 ≤ e ∧ e ≤ 971 ∧ x = (2 * m : Int) * 2 ^ e

/-- The correctly rounded number: closest, and of two that are closest the even one. -/
structure RoundsTo (q x : Rat) : Prop where
  binary64 : IsBinary64 x
  closest : ∀ y, IsBinary64 y → |x - q| ≤ |y - q|
  even : ∀ y, IsBinary64 y → y ≠ x → |y - q| = |x - q| → EndsInZero x

section Integers

variable (z : Rat)

theorem roundHalfEven_cases :
    (roundHalfEven z = z.floor + 1 ∧ z.floor + 1 / 2 ≤ z ∧
        (z = z.floor + 1 / 2 → z.floor % 2 = 1)) ∨
      (roundHalfEven z = z.floor ∧ z ≤ z.floor + 1 / 2 ∧
        (z = z.floor + 1 / 2 → z.floor % 2 = 0)) := by
  unfold roundHalfEven
  dsimp only
  split_ifs with up
  · refine .inl ⟨rfl, ?_, fun tie => ?_⟩
    · rcases up with more | ⟨tie, -⟩ <;> linarith
    · rcases up with more | ⟨-, odd⟩
      · linarith
      · exact odd
  · rw [not_or, not_and] at up
    refine .inr ⟨rfl, by linarith, fun tie => ?_⟩
    have even := up.2 (by linarith)
    omega

theorem intCast_le_floor_or (k : Int) : (k : Rat) ≤ z.floor ∨ (z.floor : Rat) + 1 ≤ k := by
  rcases le_or_gt k z.floor with below | above
  · exact .inl (by exact_mod_cast below)
  · exact .inr (by exact_mod_cast above)

theorem abs_roundHalfEven_sub_le (k : Int) : |(roundHalfEven z : Rat) - z| ≤ |(k : Rat) - z| := by
  have low := Rat.floor_le z
  have high : z < z.floor + 1 := by exact_mod_cast Rat.lt_floor_add_one z
  have further : |(roundHalfEven z : Rat) - z| ≤ z - z.floor ∧
      |(roundHalfEven z : Rat) - z| ≤ z.floor + 1 - z := by
    rcases roundHalfEven_cases z with ⟨up, half, -⟩ | ⟨down, half, -⟩
    · rw [up]
      push_cast
      rw [abs_of_nonneg (by linarith)]
      constructor <;> linarith
    · rw [down, abs_of_nonpos (by linarith)]
      constructor <;> linarith
  rcases intCast_le_floor_or z k with below | above
  · rw [abs_of_nonpos (by linarith : (k : Rat) - z ≤ 0)]
    linarith
  · rw [abs_of_nonneg (by linarith : 0 ≤ (k : Rat) - z)]
    linarith

theorem roundHalfEven_of_tie (k : Int) (other : k ≠ roundHalfEven z)
    (tie : |(k : Rat) - z| = |(roundHalfEven z : Rat) - z|) :
    roundHalfEven z % 2 = 0 ∧ k % 2 = 1 := by
  have low := Rat.floor_le z
  have high : z < z.floor + 1 := by exact_mod_cast Rat.lt_floor_add_one z
  -- Two different numbers as far from `z` lie on its two sides.
  have middle : (k : Rat) + roundHalfEven z = 2 * z := by
    rcases abs_eq_abs.1 tie with same | opposite
    · have equal : (k : Rat) = roundHalfEven z := by linarith
      exact absurd (by exact_mod_cast equal) other
    · linarith
  rcases roundHalfEven_cases z with ⟨up, half, odd⟩ | ⟨down, half, even⟩
  · rw [up] at middle ⊢
    push_cast at middle
    have below : k = z.floor := by
      rcases intCast_le_floor_or z k with below | above
      · have least : (z.floor : Rat) ≤ k := by linarith
        exact le_antisymm (by exact_mod_cast below) (by exact_mod_cast least)
      · linarith
    have floor_odd := odd (by rw [below] at middle; linarith)
    omega
  · rw [down] at middle other ⊢
    have above : k = z.floor + 1 := by
      rcases intCast_le_floor_or z k with below | above
      · have least : (z.floor : Rat) ≤ k := by linarith
        exact absurd (le_antisymm (by exact_mod_cast below) (by exact_mod_cast least)) other
      · have most : (k : Rat) ≤ z.floor + 1 := by linarith
        exact le_antisymm (by exact_mod_cast most) (by exact_mod_cast above)
    have floor_even := even (by rw [above] at middle; push_cast at middle; linarith)
    omega

end Integers

section Grid

variable (q : Rat)

def lastUnit : Rat := 2 ^ lastBit q

theorem lastUnit_pos : 0 < lastUnit q := zpow_pos two_pos _

theorem nearest64_eq : nearest64 q = roundHalfEven (q / lastUnit q) * lastUnit q := rfl

theorem abs_mul_lastUnit_sub (k : Int) :
    |(k : Rat) * lastUnit q - q| = |(k : Rat) - q / lastUnit q| * lastUnit q := by
  have unit := lastUnit_pos q
  rw [← abs_of_pos unit, ← abs_mul, abs_of_pos unit, sub_mul, div_mul_cancel₀ _ unit.ne']

theorem abs_nearest64_sub_le (k : Int) : |nearest64 q - q| ≤ |(k : Rat) * lastUnit q - q| := by
  rw [nearest64_eq, abs_mul_lastUnit_sub, abs_mul_lastUnit_sub]
  exact mul_le_mul_of_nonneg_right (abs_roundHalfEven_sub_le _ k) (lastUnit_pos q).le

theorem multiple_or_below (m e : Int) (bits : m.natAbs < 2 ^ 53) (least : -1074 ≤ e) :
    (∃ j : Nat, (m : Rat) * 2 ^ e = (m * 2 ^ j : Int) * lastUnit q) ∨
      (-1074 < lastBit q ∧ (m : Rat) * 2 ^ e < 2 ^ 52 * lastUnit q) := by
  rcases le_or_gt (lastBit q) e with coarse | fine
  · refine .inl ⟨(e - lastBit q).toNat, ?_⟩
    have split : (2 : Rat) ^ e = 2 ^ (e - lastBit q).toNat * lastUnit q := by
      rw [lastUnit, ← zpow_natCast, ← zpow_add₀ two_ne_zero]
      congr 1
      omega
    rw [split]
    push_cast
    ring
  · refine .inr ⟨by omega, ?_⟩
    have few : (m : Rat) < 2 ^ 53 := by
      have less : m < 2 ^ 53 := by omega
      exact_mod_cast less
    calc
      (m : Rat) * 2 ^ e < 2 ^ 53 * 2 ^ e := mul_lt_mul_of_pos_right few (zpow_pos two_pos e)
      _ = 2 ^ 52 * 2 ^ (e + 1) := by rw [zpow_add_one₀ two_ne_zero]; ring
      _ ≤ 2 ^ 52 * lastUnit q := by
        apply mul_le_mul_of_nonneg_left _ (by norm_num)
        exact zpow_le_zpow_right₀ one_le_two (by omega)

variable (pos : 0 < q)

include pos

theorem quotient_lt : q / lastUnit q < 2 ^ 53 := by
  have order : floorLog2 q + 1 ≤ lastBit q + 53 := by
    rw [lastBit_eq q pos]
    omega
  rw [div_lt_iff₀ (lastUnit_pos q)]
  calc
    q < 2 ^ (floorLog2 q + 1) := (floorLog2_bounds q pos).2
    _ ≤ 2 ^ (lastBit q + 53) := zpow_le_zpow_right₀ one_le_two order
    _ = 2 ^ 53 * lastUnit q := by rw [zpow_add₀ two_ne_zero, lastUnit, mul_comm]; rfl

theorem le_quotient (normal : -1074 < lastBit q) : 2 ^ 52 ≤ q / lastUnit q := by
  have order : lastBit q + 52 = floorLog2 q := by
    have last := lastBit_eq q pos
    omega
  rw [le_div_iff₀ (lastUnit_pos q)]
  calc
    (2 : Rat) ^ 52 * lastUnit q = 2 ^ (lastBit q + 52) := by
      rw [zpow_add₀ two_ne_zero, lastUnit, mul_comm]; rfl
    _ = 2 ^ floorLog2 q := by rw [order]
    _ ≤ q := (floorLog2_bounds q pos).1

theorem exists_multiple (y : Rat) (binary64 : IsBinary64 y) :
    ∃ k : Int, y = k * lastUnit q ∨ |(k : Rat) * lastUnit q - q| < |y - q| := by
  obtain ⟨m, e, bits, least, -, rfl⟩ := binary64
  rcases multiple_or_below q m e bits least with ⟨j, same⟩ | ⟨normal, small⟩
  · exact ⟨m * 2 ^ j, .inl same⟩
  · have low : 2 ^ 52 * lastUnit q ≤ q :=
      (le_div_iff₀ (lastUnit_pos q)).1 (le_quotient q pos normal)
    refine ⟨2 ^ 52, .inr ?_⟩
    push_cast
    rw [abs_of_nonpos (by linarith), abs_of_nonpos (by linarith)]
    linarith

theorem roundHalfEven_mem : 0 ≤ roundHalfEven (q / lastUnit q) ∧
    roundHalfEven (q / lastUnit q) ≤ 2 ^ 53 := by
  constructor
  · apply le_roundHalfEven
    exact_mod_cast (div_pos pos (lastUnit_pos q)).le
  · apply roundHalfEven_le
    exact_mod_cast (quotient_lt q pos).le

theorem exists_of_tie (y : Rat) (binary64 : IsBinary64 y) (other : y ≠ nearest64 q)
    (tie : |y - q| = |nearest64 q - q|) :
    ∃ k : Int, y = k * lastUnit q ∧ k % 2 = 1 ∧ roundHalfEven (q / lastUnit q) % 2 = 0 := by
  obtain ⟨k, same | nearer⟩ := exists_multiple q pos y binary64
  · have differs : k ≠ roundHalfEven (q / lastUnit q) := by
      rintro rfl
      exact other same
    rw [same, nearest64_eq, abs_mul_lastUnit_sub, abs_mul_lastUnit_sub] at tie
    obtain ⟨even, odd⟩ := roundHalfEven_of_tie _ k differs
      (mul_right_cancel₀ (lastUnit_pos q).ne' tie)
    exact ⟨k, same, odd, even⟩
  · exact absurd (abs_nearest64_sub_le q k) (not_le.2 (tie ▸ nearer))

theorem not_endsInZero_of_odd (k : Int) (odd : k % 2 = 1)
    (near : |(k : Rat) * lastUnit q - q| ≤ |nearest64 q - q|) :
    ¬EndsInZero (k * lastUnit q) := by
  rintro ⟨m, e, bits, least, -, same⟩
  have unit := lastUnit_pos q
  rcases multiple_or_below q (2 * m) e bits least with ⟨j, multiple⟩ | ⟨normal, small⟩
  · have twice : k = 2 * m * 2 ^ j := by
      exact_mod_cast mul_right_cancel₀ unit.ne' (same.trans multiple)
    rw [twice, mul_assoc] at odd
    omega
  · -- Below `2 ^ 52` units a number is further away than `2 ^ 52` units are.
    rw [← same] at small
    have low := (le_div_iff₀ unit).1 (le_quotient q pos normal)
    have further := near.trans (abs_nearest64_sub_le q (2 ^ 52))
    push_cast at further
    rw [abs_of_nonpos (by linarith), abs_of_nonpos (by linarith)] at further
    linarith

variable (inRange : q < 2 ^ (1023 : Int))

include inRange

theorem lastBit_mem : -1074 ≤ lastBit q ∧ lastBit q ≤ 970 := by
  have order := floorLog2_lt q pos 1023 inRange
  have last := lastBit_eq q pos
  omega

theorem isBinary64_nearest64 : IsBinary64 (nearest64 q) := by
  obtain ⟨least, most⟩ := lastBit_mem q pos inRange
  obtain ⟨low, high⟩ := roundHalfEven_mem q pos
  rcases high.lt_or_eq with less | carry
  · exact ⟨roundHalfEven (q / lastUnit q), lastBit q, by omega, least, by omega, rfl⟩
  · refine ⟨2 ^ 52, lastBit q + 1, by decide, by omega, by omega, ?_⟩
    rw [nearest64_eq, carry, zpow_add_one₀ two_ne_zero, lastUnit]
    push_cast
    ring

theorem endsInZero_nearest64 (even : roundHalfEven (q / lastUnit q) % 2 = 0) :
    EndsInZero (nearest64 q) := by
  obtain ⟨least, most⟩ := lastBit_mem q pos inRange
  obtain ⟨low, high⟩ := roundHalfEven_mem q pos
  rcases high.lt_or_eq with less | carry
  · have halves : 2 * (roundHalfEven (q / lastUnit q) / 2) = roundHalfEven (q / lastUnit q) := by
      omega
    refine ⟨roundHalfEven (q / lastUnit q) / 2, lastBit q, by omega, least, by omega, ?_⟩
    rw [halves]
    rfl
  · refine ⟨2 ^ 51, lastBit q + 1, by decide, by omega, by omega, ?_⟩
    rw [nearest64_eq, carry, zpow_add_one₀ two_ne_zero, lastUnit]
    push_cast
    ring

theorem roundsTo_nearest64_of_pos : RoundsTo q (nearest64 q) where
  binary64 := isBinary64_nearest64 q pos inRange
  closest y binary64 := by
    obtain ⟨k, same | nearer⟩ := exists_multiple q pos y binary64
    · rw [same]
      exact abs_nearest64_sub_le q k
    · exact (abs_nearest64_sub_le q k).trans nearer.le
  even y binary64 other tie := by
    obtain ⟨_, _, _, even⟩ := exists_of_tie q pos y binary64 other tie
    exact endsInZero_nearest64 q pos inRange even

end Grid

theorem isBinary64_zero : IsBinary64 0 := ⟨0, 0, by decide, by decide, by decide, by simp⟩

theorem nearest64_zero : nearest64 0 = 0 := by
  decide +kernel

/-- Correct rounding has one result, and `nearest64` is it. -/
theorem roundsTo_iff (q x : Rat) (nonneg : 0 ≤ q) (inRange : q < 2 ^ (1023 : Int)) :
    RoundsTo q x ↔ x = nearest64 q := by
  rcases nonneg.eq_or_lt with rfl | pos
  · rw [nearest64_zero]
    constructor
    · intro rounded
      simpa using rounded.closest 0 isBinary64_zero
    · rintro rfl
      refine ⟨isBinary64_zero, by simp, fun y _ other tie => ?_⟩
      exact absurd (by simpa using tie) other
  · have best := roundsTo_nearest64_of_pos q pos inRange
    constructor
    · intro rounded
      by_contra other
      have tie : |x - q| = |nearest64 q - q| :=
        le_antisymm (rounded.closest _ best.binary64) (best.closest _ rounded.binary64)
      have even := rounded.even _ best.binary64 (Ne.symm other) tie.symm
      obtain ⟨k, rfl, odd, -⟩ := exists_of_tie q pos x rounded.binary64 other tie
      exact not_endsInZero_of_odd q pos k odd tie.le even
    · rintro rfl
      exact best

end Listing
