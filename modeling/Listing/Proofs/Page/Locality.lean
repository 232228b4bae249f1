import Listing.Proofs.Page.Partition

/-!
What a distribution owes to the lines around it. Lines that follow change only the last page, which
may be closed later and take in more; lines that went before only count, so the stream from the
start of a page on is cut into that page and those after it, with other numbers and indices.
-/

namespace Listing

def Page.shift (numbers indices : Nat) (page : Page) : Page where
  number := page.number + numbers
  start := page.start + indices
  stop := page.stop + indices
  lines := page.lines

theorem pagesFrom_shift (size number start index numbers indices : Nat) (filled lines : List Text) :
    pagesFrom size (number + numbers) (start + indices) (index + indices) filled lines =
      (pagesFrom size number start index filled lines).map (Page.shift numbers indices) := by
  induction lines generalizing number start index filled with
  | nil =>
    rw [pagesFrom, pagesFrom]
    split_ifs
    · rfl
    · rfl
  | cons line rest ih =>
    have nextNumber : number + numbers + 1 = number + 1 + numbers := by omega
    have nextIndex : index + indices + 1 = index + 1 + indices := by omega
    rw [pagesFrom, pagesFrom, nextNumber, nextIndex]
    split_ifs
    · exact ih number start (index + 1) filled
    · rw [ih (number + 1) index (index + 1) [line], List.map_cons]
      rfl
    · exact ih number start (index + 1) (filled ++ [line])

/-- Pages of two streams, of which the second goes on: they are the same up to the last page of the
first stream, and there the second stream has a page with the same beginning. -/
structure Continues (pages others : List Page) : Prop where
  settled : pages.dropLast <+: others
  last : ∀ last, pages.getLast? = some last →
    ∃ page, others[pages.length - 1]? = some page ∧ page.number = last.number ∧
      page.start = last.start ∧ last.lines <+: page.lines

theorem continues_nil (others : List Page) : Continues [] others :=
  ⟨List.nil_prefix, nofun⟩

theorem Continues.cons (page : Page) {pages others : List Page} (some : pages ≠ [])
    (follows : Continues pages others) : Continues (page :: pages) (page :: others) := by
  constructor
  · rw [List.dropLast_cons_of_ne_nil some]
    exact (List.prefix_cons_inj page).2 follows.settled
  · intro last final
    rw [List.getLast?_cons_of_ne_nil some] at final
    obtain ⟨found, place, same⟩ := follows.last last final
    have length : (page :: pages).length - 1 = pages.length - 1 + 1 := by
      have filled := List.length_pos_iff.2 some
      rw [List.length_cons]
      omega
    refine ⟨found, ?_, same⟩
    rw [length, List.getElem?_cons_succ]
    exact place

theorem continues_pagesFrom (size number start index : Nat) (filled lines more : List Text) :
    Continues (pagesFrom size number start index filled lines)
      (pagesFrom size number start index filled (lines ++ more)) := by
  induction lines generalizing number start index filled with
  | nil =>
    rw [pagesFrom]
    split_ifs with empty
    · exact continues_nil _
    · obtain ⟨page, others, pages, sameNumber, sameStart, holds⟩ :=
        exists_pagesFrom_cons size number start index filled more empty
      rw [List.nil_append, pages]
      constructor
      · exact List.nil_prefix
      · intro last final
        cases final
        exact ⟨page, rfl, sameNumber, sameStart, holds⟩
  | cons line rest ih =>
    rw [List.cons_append, pagesFrom, pagesFrom]
    split_ifs
    · exact ih number start (index + 1) filled
    · apply Continues.cons _ _ (ih (number + 1) index (index + 1) [line])
      exact pagesFrom_ne_nil size (number + 1) index (index + 1) [line] rest (by simp)
    · exact ih number start (index + 1) (filled ++ [line])

/-- The pages of a stream from `start` on, numbered from `number` on. -/
def pagesAfter (lines : List Text) (size number start : Nat) : List Page :=
  (distribute (lines.drop start) size).pages.map (Page.shift (number - 1) start)

theorem pagesAfter_opened (size number index : Nat) (pos : 0 < size) (lines rest : List Text)
    (line : Text) (left : lines.drop index = line :: rest) (solid : line.isBlank = false) :
    pagesAfter lines size (number + 1) index =
      pagesFrom size (number + 1) index (index + 1) [line] rest := by
  have empty : ¬([] : List Text).length = size := by
    rw [List.length_nil]
    omega
  have first : pagesFrom size 1 0 0 [] (line :: rest) = pagesFrom size 1 0 1 [line] rest := by
    rw [pagesFrom, if_neg (by simp [solid]), if_neg empty]
    rfl
  have shifted := pagesFrom_shift size 1 0 1 number index [line] rest
  rw [Nat.add_comm 1 number, Nat.zero_add, Nat.add_comm 1 index] at shifted
  rw [pagesAfter, left, distribute, first, Nat.add_sub_cancel, shifted]

/-- From the start of any page on, the pages are those of the stream from there. It is so for the
open page, and a line that turns the page begins a distribution of its own. -/
theorem drop_pagesFrom (size number start index : Nat) (pos : 0 < size)
    (filled lines rest : List Text) (left : lines.drop index = rest)
    (opened : pagesFrom size (number + 1) start index filled rest =
      pagesAfter lines size (number + 1) start) :
    ∀ (place : Nat) (page : Page),
      (pagesFrom size (number + 1) start index filled rest)[place]? = some page →
        pagesAfter lines size page.number page.start =
          (pagesFrom size (number + 1) start index filled rest).drop place := by
  induction rest generalizing number start index filled with
  | nil =>
    intro place page found
    rw [pagesFrom] at opened found ⊢
    split_ifs at opened found ⊢
    · cases found
    · cases place with
      | zero =>
        cases found
        exact opened.symm
      | succ place => cases found
  | cons line rest ih =>
    have next := (next_of_drop left).2
    rw [pagesFrom] at opened ⊢
    -- Only a line that turns the page closes the open one; with any other the pages stay the same.
    split_ifs at opened ⊢ with blank full
    · exact ih number start (index + 1) filled next opened
    · intro place page found
      cases place with
      | zero =>
        cases found
        exact opened.symm
      | succ place =>
        have turned := pagesAfter_opened size (number + 1) index pos lines rest line left
          (by simpa using blank)
        exact ih (number + 1) index (index + 1) [line] next turned.symm place page found
    · exact ih number start (index + 1) (filled ++ [line]) next opened

/-- Distribution is local. A stream that goes on keeps all pages but the last, and the last one
keeps its place, its number, its start and its lines, to which others may be added. The stream from
the start of a page on is cut into that page and those behind it. -/
theorem distribute_local (lines more : List Text) (size : Nat) (pos : 0 < size) :
    Continues (distribute lines size).pages (distribute (lines ++ more) size).pages ∧
      ∀ (place : Nat) (page : Page), (distribute lines size).pages[place]? = some page →
        (distribute (lines.drop page.start) size).pages.map
            (Page.shift (page.number - 1) page.start) =
          (distribute lines size).pages.drop place := by
  constructor
  · exact continues_pagesFrom size 1 0 0 [] lines more
  · have whole : pagesFrom size 1 0 0 [] lines = pagesAfter lines size 1 0 := by
      exact pagesFrom_shift size 1 0 0 0 0 [] lines
    exact drop_pagesFrom size 0 0 0 pos [] lines lines rfl whole

/-- Two lines on a page, of `a`, `b`, a blank line and `c`: the last page when `d` follows, and the
stream from that page on. -/
theorem distribute_local_second :
    0 < 2 ∧ (distribute (Text.lines "a\nb\n\nc".toList) 2).pages[1]? =
        some ⟨2, 3, 4, ["c".toList]⟩ ∧
      (distribute (Text.lines "a\nb\n\nc".toList) 2).pages.getLast? =
        some ⟨2, 3, 4, ["c".toList]⟩ ∧
      (∃ page, (distribute (Text.lines "a\nb\n\nc\n\nd".toList) 2).pages[1]? = some page ∧
        page.number = 2 ∧ page.start = 3 ∧ ["c".toList] <+: page.lines) ∧
      (distribute ["c".toList] 2).pages.map (Page.shift 1 3) = [⟨2, 3, 4, ["c".toList]⟩] := by
  have second : (distribute (Text.lines "a\nb\n\nc".toList) 2).pages[1]? =
    some ⟨2, 3, 4, ["c".toList]⟩ := by decide
  have final : (distribute (Text.lines "a\nb\n\nc".toList) 2).pages.getLast? =
    some ⟨2, 3, 4, ["c".toList]⟩ := by decide
  obtain ⟨continues, suffixes⟩ :=
    distribute_local (Text.lines "a\nb\n\nc".toList) ["".toList, "d".toList] 2 (by decide)
  exact ⟨by decide, second, final, continues.last _ final, suffixes 1 _ second⟩

end Listing
