import Listing.Proofs.Number.Nearest
import Listing.Proofs.Page.Count

/-!
The range in which a division counts pages. A quotient is rounded correctly, to the closest binary64
number and on a tie to the even one, so it is enough to know the number that is closest: its ceiling
is that of the exact quotient, down to the quotient that rounds to zero.
-/

namespace Listing

theorem quotient_lt_range (count size : Nat) (pos : 0 < size) (few : count ≤ 2 ^ 53) :
    (count / size : Rat) < 2 ^ (1023 : Int) := by
  have least : (1 : Rat) ≤ size := by exact_mod_cast pos
  calc
    (count / size : Rat) ≤ count := div_le_self (Nat.cast_nonneg count) least
    _ ≤ 2 ^ 53 := by exact_mod_cast few
    _ < 2 ^ (1023 : Int) := by
      rw [← zpow_natCast]
      exact zpow_lt_zpow_right₀ one_lt_two (by decide)

theorem ceil_nearest64_quotient (count size : Nat) (pos : 0 < size) (few : count ≤ 2 ^ 53) :
    (nearest64 (count / size)).ceil =
      if count = 0 ∨ size < count * 2 ^ 1075 then ((count : Rat) / size).ceil else 0 := by
  have nonneg : 0 ≤ (nearest64 (count / size)).ceil := by
    apply ceil_nonneg
    apply nearest64_nonneg
    positivity
  have pages := dividedPages_eq count size pos few
  rw [dividedPages] at pages
  rw [ceil_quotient count size pos]
  rcases Nat.eq_zero_or_pos count with rfl | filled
  · rw [if_pos (.inl rfl), zero_ceilDiv]
    rw [zero_ceilDiv, ite_self] at pages
    omega
  · simp only [filled.ne', false_or]
    split_ifs at pages ⊢ <;> omega

/-- For counts of lines up to `2 ^ 53` the pages of a section that a division counts are the ceiling
of the correctly rounded quotient. That is the exact ceiling as long as the quotient does not round
to zero: with no line at all, or with a page size below the count of lines times `2 ^ 1075`. Beyond
it no page is counted. -/
theorem Section.divided_layout_range (s : Section) (size : Nat) (pos : 0 < size)
    (few : (contentOf s.lines).length ≤ 2 ^ 53) :
    (∃ x, RoundsTo ((contentOf s.lines).length / size) x) ∧
      ∀ x, RoundsTo ((contentOf s.lines).length / size) x →
        ((s.layout size).divided : Int) = x.ceil ∧
          ((s.layout size).divided : Int) =
            if (contentOf s.lines).length = 0 ∨ size < (contentOf s.lines).length * 2 ^ 1075 then
              (((contentOf s.lines).length : Rat) / size).ceil
            else 0 := by
  have nonneg : (0 : Rat) ≤ (contentOf s.lines).length / size := by positivity
  have inRange := quotient_lt_range _ size pos few
  have counted : ((s.layout size).divided : Int) =
      (nearest64 ((contentOf s.lines).length / size)).ceil := by
    rw [s.layout_eq]
    exact Int.toNat_of_nonneg (ceil_nonneg _ (nearest64_nonneg _ nonneg))
  refine ⟨⟨_, (roundsTo_iff _ _ nonneg inRange).2 rfl⟩, fun x rounded => ?_⟩
  obtain rfl := (roundsTo_iff _ x nonneg inRange).1 rounded
  exact ⟨counted, counted.trans (ceil_nearest64_quotient _ size pos few)⟩

/-- Two lines on the largest page that a division still counts, and on the smallest that it does
not. -/
theorem Section.divided_layout_range_ends :
    let s : Section := ⟨4, 4, ["a".toList, [], "b".toList]⟩
    (s.layout (2 * 2 ^ 1075 - 1)).divided = 1 ∧ (s.layout (2 * 2 ^ 1075)).divided = 0 := by
  intro s
  have two : (contentOf s.lines).length = 2 := by decide
  have few : (contentOf s.lines).length ≤ 2 ^ 53 := by decide
  have one : (((2 : Nat) : Rat) / ((2 * 2 ^ 1075 - 1 : Nat) : Rat)).ceil = 1 := by decide +kernel
  have pos : 1 < 2 * 2 ^ 1075 :=
    Nat.one_lt_two.trans_le (Nat.le_mul_of_pos_right 2 (pow_pos two_pos 1075))
  obtain ⟨⟨x, rounded⟩, every⟩ := s.divided_layout_range _ (Nat.sub_pos_of_lt pos) few
  obtain ⟨⟨y, vanished⟩, all⟩ := s.divided_layout_range _ (Nat.zero_lt_of_lt pos) few
  have counted := (every x rounded).2
  have none := (all y vanished).2
  rw [two, if_pos (.inr (Nat.sub_lt (Nat.zero_lt_of_lt pos) Nat.one_pos)), one] at counted
  rw [two, if_neg (not_or.2 ⟨two_ne_zero, lt_irrefl _⟩)] at none
  exact ⟨by exact_mod_cast counted, by exact_mod_cast none⟩

end Listing
