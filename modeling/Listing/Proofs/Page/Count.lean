import Listing.Proofs.Number.Rounding
import Listing.Proofs.Page.Agreement
import Mathlib.Tactic.Positivity

/-!
Pages counted by division. The quotient of a count of lines and a page size is a binary64 number.
For counts that such numbers tell apart it rounds up to the pages that the lines fill, except where
the page size is so large that the quotient becomes zero; there the division counts no page at all.
-/

namespace Listing

section Quotient

variable (count size : Nat) (pos : 0 < size) (filled : 0 < count)

include pos filled

theorem exists_ceilDiv_eq_succ :
    ∃ full, count ⌈/⌉ size = full + 1 ∧ full * size < count ∧ count ≤ (full + 1) * size := by
  have some : ¬count ⌈/⌉ size ≤ 0 := by
    rw [ceilDiv_le_iff_le_mul pos]
    omega
  obtain ⟨full, pages⟩ : ∃ full, count ⌈/⌉ size = full + 1 := ⟨count ⌈/⌉ size - 1, by omega⟩
  refine ⟨full, pages, ?_, ?_⟩
  · have more : ¬count ⌈/⌉ size ≤ full := by omega
    rw [ceilDiv_le_iff_le_mul pos, mul_comm] at more
    omega
  · rw [← pages, mul_comm]
    exact (ceilDiv_le_iff_le_mul pos).1 le_rfl

theorem half_unit_lt_quotient (few : count ≤ 2 ^ 53) (full : Nat) (some : 0 < full)
    (above : (full : Rat) < count / size) (below : (count / size : Rat) < full + 1) :
    (full : Rat) + 2 ^ (lastBit (count / size) - 1) < count / size := by
  have sizePos : (0 : Rat) < size := by exact_mod_cast pos
  have quotientPos : (0 : Rat) < count / size := by positivity
  obtain ⟨k, same, power⟩ := exists_pow_lt_of_between (count / size) full some above below
  have last : lastBit (count / size : Rat) = k - 52 := by
    rw [lastBit_eq _ quotientPos, same]
    omega
  have bit : (2 : Rat) ^ (lastBit (count / size : Rat) - 1) * size < 1 := by
    have whole : (2 : Rat) ^ ((k : Int) - 52 - 1) = 2 ^ k / 2 ^ 53 := by
      rw [sub_sub, zpow_sub₀ two_ne_zero]
      norm_cast
    have held : (2 : Rat) ^ k * size < 2 ^ 53 := by
      rw [lt_div_iff₀ sizePos] at power
      exact power.trans_le (by exact_mod_cast few)
    rw [last, whole, div_mul_eq_mul_div, div_lt_one (by positivity)]
    exact held
  have gap : (full : Rat) * size + 1 ≤ count := by
    rw [lt_div_iff₀ sizePos] at above
    exact_mod_cast above
  rw [lt_div_iff₀ sizePos, add_mul]
  linarith

theorem nearest64_quotient_bounds (few : count ≤ 2 ^ 53) (full : Nat)
    (above : (full : Rat) < count / size) (below : (count / size : Rat) ≤ full + 1)
    (big : 2 ^ (-1075 : Int) < (count / size : Rat)) :
    (full : Rat) < nearest64 (count / size) ∧ nearest64 (count / size) ≤ full + 1 := by
  have sizePos : (0 : Rat) < size := by exact_mod_cast pos
  have quotientPos : (0 : Rat) < count / size := by positivity
  have least : (count / size : Rat) ≤ count := by
    apply div_le_self (by positivity)
    exact_mod_cast pos
  have room : full + 1 ≤ 2 ^ 53 := by
    have less : full < count := by exact_mod_cast above.trans_le least
    omega
  rcases below.lt_or_eq with less | same
  · have small : (count / size : Rat) < 2 ^ 53 := less.trans_le (by exact_mod_cast room)
    constructor
    · rcases Nat.eq_zero_or_pos full with rfl | some
      · rw [Nat.cast_zero]
        exact nearest64_pos _ big
      · have far := half_unit_lt_quotient count size pos filled few full some above less
        exact_mod_cast lt_nearest64 _ quotientPos small full (by exact_mod_cast far)
    · exact_mod_cast nearest64_le _ quotientPos small (full + 1) (by exact_mod_cast below)
  · rw [same]
    have kept := nearest64_natCast (full + 1) (Nat.succ_pos full) room
    push_cast at kept
    rw [kept]
    exact ⟨lt_add_one _, le_rfl⟩

end Quotient

theorem lt_quotient_iff (count size : Nat) (pos : 0 < size) :
    2 ^ (-1075 : Int) < (count / size : Rat) ↔ size < count * 2 ^ 1075 := by
  have sizePos : (0 : Rat) < size := by exact_mod_cast pos
  rw [lt_div_iff₀ sizePos, zpow_neg, inv_mul_lt_iff₀ (zpow_pos two_pos _), mul_comm]
  exact_mod_cast Iff.rfl

theorem dividedPages_eq (count size : Nat) (pos : 0 < size) (few : count ≤ 2 ^ 53) :
    dividedPages count size = if size < count * 2 ^ 1075 then count ⌈/⌉ size else 0 := by
  have sizePos : (0 : Rat) < size := by exact_mod_cast pos
  rw [dividedPages]
  rcases Nat.eq_zero_or_pos count with rfl | filled
  · have zero : nearest64 0 = 0 := by decide +kernel
    rw [Nat.cast_zero, zero_div, zero, Nat.zero_mul, if_neg (Nat.not_lt_zero size)]
    rfl
  split_ifs with big
  · obtain ⟨full, pages, below, above⟩ := exists_ceilDiv_eq_succ count size pos filled
    have low : (full : Rat) < count / size := by
      rw [lt_div_iff₀ sizePos]
      exact_mod_cast below
    have high : (count / size : Rat) ≤ full + 1 := by
      rw [div_le_iff₀ sizePos]
      exact_mod_cast above
    have bounds := nearest64_quotient_bounds count size pos filled few full low high
      ((lt_quotient_iff count size pos).2 big)
    have ceiling : (nearest64 (count / size)).ceil = full + 1 := by
      apply Int.le_antisymm
      · rw [Rat.ceil_le_iff]
        exact_mod_cast bounds.2
      · rw [Int.add_one_le_iff, Rat.lt_ceil_iff]
        exact_mod_cast bounds.1
    rw [ceiling, pages]
    rfl
  · have tiny := not_lt.1 (mt (lt_quotient_iff count size pos).1 big)
    rw [nearest64_eq_zero _ (by positivity) tiny]
    rfl

theorem Section.rendered_layout (s : Section) (size : Nat) (pos : 0 < size) :
    (s.layout size).rendered = (contentOf s.lines).length ⌈/⌉ size :=
  renderedPages_unitsFrom size pos s.lines

theorem ceil_nonneg (q : Rat) (nonneg : 0 ≤ q) : 0 ≤ q.ceil := by
  have low : (-1 : Int) < q.ceil := by
    rw [Rat.lt_ceil_iff]
    push_cast
    linarith
  omega

theorem ceil_quotient (count size : Nat) (pos : 0 < size) :
    ((count : Rat) / size).ceil = (count ⌈/⌉ size : Nat) := by
  have sizePos : (0 : Rat) < size := by exact_mod_cast pos
  have nonneg : 0 ≤ ((count : Rat) / size).ceil := ceil_nonneg _ (by positivity)
  apply Int.le_antisymm
  · have above : count ≤ size * (count ⌈/⌉ size) := (ceilDiv_le_iff_le_mul pos).1 le_rfl
    rw [Rat.ceil_le_iff, div_le_iff₀ sizePos, mul_comm]
    exact_mod_cast above
  · obtain ⟨n, whole⟩ := Int.eq_ofNat_of_zero_le nonneg
    have le : (count : Rat) / size ≤ n := by
      have bound := Rat.le_ceil (x := (count : Rat) / size)
      rw [whole] at bound
      exact_mod_cast bound
    rw [div_le_iff₀ sizePos, mul_comm] at le
    rw [whole, Int.ofNat_le, ceilDiv_le_iff_le_mul pos]
    exact_mod_cast le

/-- The two counts of a section agree exactly if rounding the quotient does not move it past an
integer. -/
theorem Section.divided_eq_rendered_iff (s : Section) (size : Nat) (pos : 0 < size) :
    (s.layout size).divided = (s.layout size).rendered ↔
      (nearest64 ((contentOf s.lines).length / size)).ceil =
        (((contentOf s.lines).length : Rat) / size).ceil := by
  have nonneg : 0 ≤ (nearest64 ((contentOf s.lines).length / size)).ceil := by
    apply ceil_nonneg
    apply nearest64_nonneg
    positivity
  rw [ceil_quotient _ size pos, s.rendered_layout size pos, s.layout_eq]
  change (nearest64 ((contentOf s.lines).length / size)).ceil.toNat = _ ↔ _
  omega

theorem Section.divided_layout (s : Section) (size : Nat) (pos : 0 < size)
    (few : (contentOf s.lines).length ≤ 2 ^ 53) :
    (s.layout size).divided =
      if size < (contentOf s.lines).length * 2 ^ 1075 then (s.layout size).rendered else 0 := by
  rw [s.rendered_layout size pos, ← dividedPages_eq _ size pos few, s.layout_eq]

theorem Section.rendered_eq_zero_iff (s : Section) (size : Nat) (pos : 0 < size) :
    (s.layout size).rendered = 0 ↔ contentOf s.lines = [] := by
  rw [s.rendered_layout size pos, ← Nat.le_zero, ceilDiv_le_iff_le_mul pos, mul_zero, Nat.le_zero,
    List.length_eq_zero_iff]

section Covering

variable (lines : List Text) (size : Nat) (pos : 0 < size) (s : Section)
  (covers : s.Covers (distribute lines size))

include pos covers

theorem rendered_pos_of_covers : 0 < (s.layout size).rendered := by
  have count := Distribution.length_run _ s.first s.last covers.low covers.ordered covers.high
  have ordered := covers.ordered
  have split := congrArg List.length (splitPages_layout lines size pos s covers)
  rw [← renderedPages_eq_length, List.length_map] at split
  change 0 < renderedPages (s.layout size).units
  omega

theorem length_contentOf_le : (contentOf s.lines).length ≤ (contentOf lines).length := by
  have run : ((distribute lines size).run s.first s.last).Sublist (distribute lines size).pages :=
    (List.take_sublist _ _).trans (List.drop_sublist _ _)
  rw [covers.lines, ← flatMap_lines_distribute lines size pos]
  exact (run.flatMap Page.lines).length_le

theorem contentOf_of_covers_huge (few : (contentOf lines).length ≤ 2 ^ 53)
    (huge : 2 ^ 1075 ≤ size) : contentOf s.lines = contentOf lines := by
  have one : (distribute lines size).total ≤ 1 := by
    rw [total_distribute lines size pos, ceilDiv_le_iff_le_mul pos, mul_one]
    exact few.trans ((Nat.pow_le_pow_right Nat.two_pos (by decide)).trans huge)
  have first : s.first = 1 := by
    have := covers.low
    have := covers.ordered
    have := covers.high
    omega
  have last : s.last = (distribute lines size).total := by
    have := covers.ordered
    have := covers.high
    omega
  rw [covers.lines, first, last, Distribution.run_total,
    flatMap_lines_distribute lines size pos]

/-- All sections of a document meet the end of division at the same page size. -/
theorem divided_of_covers (few : (contentOf lines).length ≤ 2 ^ 53) :
    (s.layout size).divided =
      if size < (contentOf lines).length * 2 ^ 1075 then (s.layout size).rendered else 0 := by
  by_cases huge : 2 ^ 1075 ≤ size
  · have same := contentOf_of_covers_huge lines size pos s covers few huge
    rw [s.divided_layout size pos (by rw [same]; exact few), same]
  · have filled : contentOf s.lines ≠ [] := by
      rw [ne_eq, ← s.rendered_eq_zero_iff size pos]
      exact (rendered_pos_of_covers lines size pos s covers).ne'
    have less := length_contentOf_le lines size pos s covers
    have some := List.length_pos_iff.2 filled
    have room : ∀ count, 0 < count → size < count * 2 ^ 1075 := fun count positive =>
      (not_le.1 huge).trans_le (Nat.le_mul_of_pos_left _ positive)
    rw [s.divided_layout size pos (less.trans few), if_pos (room _ some),
      if_pos (room _ (some.trans_le less))]

end Covering

section Cross

variable (content : Text) (request : Request) (document : Document)
  (paginated : paginate content request = .ok document)

include paginated

theorem exists_section : ∃ l, l ∈ document.sections := by
  obtain ⟨_, sections, selected, rfl⟩ := (paginate_eq_ok_iff ..).1 paginated
  have some := Distribution.select_ne_nil _ _ _ _ sections selected
  exact List.exists_mem_of_ne_nil _ (by simpa using some)

theorem rendered_of_paginate :
    ∀ l ∈ document.sections, 0 < l.rendered ∧ l.rendered = (splitPages l.units).length := by
  obtain ⟨filled, sections, selected, rfl⟩ := (paginate_eq_ok_iff ..).1 paginated
  refine List.forall_mem_map.2 fun s member => ⟨?_, renderedPages_eq_length _⟩
  have covers := Distribution.select_covers content.lines request.pageSize request.pageSize_pos
    request.mode request.range sections filled selected s member
  exact rendered_pos_of_covers _ _ request.pageSize_pos s covers

theorem divided_of_paginate (few : (contentOf content.lines).length ≤ 2 ^ 53) :
    ∀ l ∈ document.sections, l.divided =
      if request.pageSize < (contentOf content.lines).length * 2 ^ 1075 then l.rendered else 0 := by
  obtain ⟨filled, sections, selected, rfl⟩ := (paginate_eq_ok_iff ..).1 paginated
  refine List.forall_mem_map.2 fun s member => ?_
  have covers := Distribution.select_covers content.lines request.pageSize request.pageSize_pos
    request.mode request.range sections filled selected s member
  exact divided_of_covers _ _ request.pageSize_pos s covers few

end Cross

theorem outputPages_eq_sum (document : Document) :
    document.outputPages = (document.sections.map SectionLayout.divided).sum := by
  rw [Document.outputPages, List.sum_eq_foldr, List.foldr_map]

theorem notices_eq_nil_iff (document : Document) :
    document.notices = [] ↔ ∀ l ∈ document.sections, l.divided = l.rendered := by
  simp [Document.notices, SectionLayout.isConsistent]

theorem notices_of_differ (document : Document) (l : SectionLayout)
    (only : document.sections = [l]) (differ : l.divided ≠ l.rendered) :
    document.notices = [.countMismatch l.first l.last l.divided l.rendered] := by
  simp [Document.notices, only, SectionLayout.isConsistent, differ]

theorem paginate_letter (size : Nat) (pos : 0 < size) (huge : 2 ^ 1075 ≤ size) :
    ∃ document, paginate "a".toList
        { pageSize := size, header := .text [], mode := .all, range := .null
          stripComments := .bool true, removeBlankLines := .bool true, pageSize_pos := pos } =
        .ok document ∧
      document.sections = [(Section.mk 1 1 ["a".toList]).layout size] ∧
      ((Section.mk 1 1 ["a".toList]).layout size).rendered = 1 ∧
      ((Section.mk 1 1 ["a".toList]).layout size).divided = 0 ∧
      document.notices = [.countMismatch 1 1 0 1] ∧ document.outputPages = 0 := by
  have pages : 1 ⌈/⌉ size = 1 := by
    rw [Nat.ceilDiv_eq_add_pred_div, Nat.add_sub_cancel_left, Nat.div_self pos]
  have total : (distribute (Text.lines "a".toList) size).total = 1 :=
    (total_distribute _ size pos).trans pages
  have rendered : ((Section.mk 1 1 ["a".toList]).layout size).rendered = 1 :=
    (Section.rendered_layout _ size pos).trans pages
  have divided : ((Section.mk 1 1 ["a".toList]).layout size).divided = 0 := by
    have one : (contentOf (Section.mk 1 1 ["a".toList]).lines).length = 1 := rfl
    rw [Section.divided_layout _ size pos (by decide), one, Nat.one_mul]
    exact if_neg (not_lt.2 huge)
  have sections : ([⟨1, (distribute (Text.lines "a".toList) size).total, Text.lines "a".toList⟩] :
      List Section) = [⟨1, 1, ["a".toList]⟩] := by
    rw [total]
    rfl
  have paginated := (paginate_eq_ok_iff "a".toList
    { pageSize := size, header := .text [], mode := .all, range := .null
      stripComments := .bool true, removeBlankLines := .bool true, pageSize_pos := pos } _).2
    ⟨by rw [total]; exact Nat.one_pos, _, congrArg Except.ok sections, rfl⟩
  refine ⟨_, paginated, rfl, rendered, divided, ?_, ?_⟩
  · have differ : ((Section.mk 1 1 ["a".toList]).layout size).divided ≠
        ((Section.mk 1 1 ["a".toList]).layout size).rendered := by
      rw [rendered, divided]
      exact Nat.zero_ne_one
    rw [notices_of_differ _ _ rfl differ, rendered, divided]
    rfl
  · rw [outputPages_eq_sum, List.map_singleton, List.map_singleton, List.sum_singleton]
    exact divided

/-- The two counts of pages of a section agree exactly if its lines, divided by the page size, round
to a binary64 number with the same ceiling. For counts that such numbers tell apart this fails only
where the quotient rounds to zero. Either all sections of a document meet such a page size or none
does, so a document counts the pages that it is drawn on, and shows no notice, exactly below it. -/
theorem page_counts_agree_iff (s : Section) (size : Nat) (pos : 0 < size) (content : Text)
    (request : Request) (document : Document)
    (paginated : paginate content request = .ok document) :
    ((s.layout size).divided = (s.layout size).rendered ↔
        (nearest64 ((contentOf s.lines).length / size)).ceil =
          (((contentOf s.lines).length : Rat) / size).ceil) ∧
      ((contentOf s.lines).length ≤ 2 ^ 53 →
        ((s.layout size).divided = (s.layout size).rendered ↔
          contentOf s.lines = [] ∨ size < (contentOf s.lines).length * 2 ^ 1075)) ∧
      (document.notices = [] →
        document.outputPages = (document.sections.map fun l => (splitPages l.units).length).sum) ∧
      ((contentOf content.lines).length ≤ 2 ^ 53 →
        (document.notices = [] ↔ request.pageSize < (contentOf content.lines).length * 2 ^ 1075) ∧
        (document.outputPages = (document.sections.map fun l => (splitPages l.units).length).sum ↔
          request.pageSize < (contentOf content.lines).length * 2 ^ 1075)) := by
  refine ⟨s.divided_eq_rendered_iff size pos, fun few => ?_, fun quiet => ?_, fun few => ?_⟩
  · rw [s.divided_layout size pos few, ← s.rendered_eq_zero_iff size pos]
    split_ifs with below
    · exact iff_of_true rfl (Or.inr below)
    · rw [or_iff_left below]
      exact eq_comm
  · rw [notices_eq_nil_iff] at quiet
    have drawn := rendered_of_paginate content request document paginated
    rw [outputPages_eq_sum]
    congr 1
    apply List.map_congr_left
    intro l member
    rw [quiet l member, (drawn l member).2]
  · have drawn := rendered_of_paginate content request document paginated
    have divided := divided_of_paginate content request document paginated few
    obtain ⟨l, member⟩ := exists_section content request document paginated
    rw [notices_eq_nil_iff, outputPages_eq_sum]
    by_cases below : request.pageSize < (contentOf content.lines).length * 2 ^ 1075
    · simp only [if_pos below] at divided
      refine ⟨iff_of_true divided below, iff_of_true ?_ below⟩
      congr 1
      apply List.map_congr_left
      intro l member
      rw [divided l member, (drawn l member).2]
    · simp only [if_neg below] at divided
      have none : (document.sections.map SectionLayout.divided).sum = 0 := by
        rw [List.sum_eq_zero_iff]
        exact List.forall_mem_map.2 divided
      refine ⟨iff_of_false (fun agree => ?_) below, iff_of_false (fun agree => ?_) below⟩
      · exact (drawn l member).1.ne ((divided l member).symm.trans (agree l member))
      · rw [none] at agree
        have blank := List.sum_eq_zero_iff.1 agree.symm _ (List.mem_map_of_mem member)
        rw [← (drawn l member).2] at blank
        exact (drawn l member).1.ne' blank

theorem page_counts_agree_three_lines :
    let request : Request :=
      { pageSize := 2, header := .text [], mode := .all, range := .null
        stripComments := .bool true, removeBlankLines := .bool true, pageSize_pos := Nat.two_pos }
    ∃ document, paginate "a\nb\n\nc".toList request = .ok document ∧ document.notices = [] ∧
      document.outputPages = 2 ∧
      ((Section.mk 4 4 ["a".toList, [], "b".toList]).layout 1).divided =
        ((Section.mk 4 4 ["a".toList, [], "b".toList]).layout 1).rendered := by
  intro request
  have below (size count : Nat) (less : size < count) : size < count * 2 ^ 1075 :=
    less.trans_le (Nat.le_mul_of_pos_right count (pow_pos two_pos 1075))
  have paginated : paginate "a\nb\n\nc".toList request = .ok _ := rfl
  have agree := page_counts_agree_iff ⟨4, 4, ["a".toList, [], "b".toList]⟩ 1 Nat.one_pos _ request _
    paginated
  have quiet := (agree.2.2.2 (by decide)).1.2 (below _ _ (by decide))
  exact ⟨_, paginated, quiet, agree.2.2.1 quiet,
    (agree.2.1 (by decide)).2 (Or.inr (below _ _ (by decide)))⟩

/-- On pages of `2 ^ 1075` lines, one line makes one page, and a division counts none. -/
theorem page_counts_differ :
    ∃ document, paginate "a".toList
        { pageSize := 2 ^ 1075, header := .text [], mode := .all, range := .null
          stripComments := .bool true, removeBlankLines := .bool true
          pageSize_pos := pow_pos two_pos 1075 } = .ok document ∧
      document.sections = [(Section.mk 1 1 ["a".toList]).layout (2 ^ 1075)] ∧
      ((Section.mk 1 1 ["a".toList]).layout (2 ^ 1075)).rendered = 1 ∧
      ((Section.mk 1 1 ["a".toList]).layout (2 ^ 1075)).divided = 0 ∧
      document.notices = [.countMismatch 1 1 0 1] ∧ document.outputPages = 0 :=
  paginate_letter (2 ^ 1075) (pow_pos two_pos 1075) le_rfl

end Listing
