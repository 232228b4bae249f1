import Listing.Proofs.Page.Distribution

/-!
How a distribution divides its stream. The pages follow each other through the stream: every line
lies in the range of exactly one page, a page holds the lines with content of its own range, and
only the last page may have room left. A page is closed by the next line with content and by no
other, so every page but the first begins at one.
-/

namespace Listing

def Page.indices (page : Page) : List Nat := List.range' page.start (page.stop - page.start)

def Page.slice (page : Page) (lines : List Text) : List Text :=
  (lines.take page.stop).drop page.start

/-- A page lies in a stream: its range has lines of the stream, and it holds those with content. -/
structure Page.LiesIn (page : Page) (lines : List Text) : Prop where
  filled : page.start < page.stop
  inside : page.stop ≤ lines.length
  held : page.lines = contentOf (page.slice lines)

def SolidAt (lines : List Text) (index : Nat) : Prop :=
  ∃ line, lines[index]? = some line ∧ line.isBlank = false

/-- The pages of a stream, `size` lines with content on each but the last. -/
structure Distribution.Partitions (d : Distribution) (lines : List Text) (size : Nat) : Prop where
  numbered : d.pages.map Page.number = List.range' 1 d.total
  counted : d.total = (contentOf lines).length ⌈/⌉ size
  tiled : 0 < d.total → d.pages.flatMap Page.indices = List.range lines.length
  begun : ∀ page ∈ d.pages.tail, SolidAt lines page.start
  lying : ∀ page ∈ d.pages, page.LiesIn lines
  full : ∀ page ∈ d.pages.dropLast, page.lines.length = size
  bounded : ∀ page ∈ d.pages, 1 ≤ page.lines.length ∧ page.lines.length ≤ size

theorem exists_pagesFrom_cons (size number start index : Nat) (filled lines : List Text)
    (some : filled ≠ []) :
    ∃ page others, pagesFrom size number start index filled lines = page :: others ∧
      page.number = number ∧ page.start = start ∧ filled <+: page.lines := by
  induction lines generalizing index filled with
  | nil =>
    rw [pagesFrom, if_neg some]
    exact ⟨_, _, rfl, rfl, rfl, List.prefix_refl filled⟩
  | cons line rest ih =>
    rw [pagesFrom]
    split_ifs
    · exact ih (index + 1) filled some
    · exact ⟨_, _, rfl, rfl, rfl, List.prefix_refl filled⟩
    · obtain ⟨page, others, pages, number, start, holds⟩ :=
        ih (index + 1) (filled ++ [line]) (by simp)
      exact ⟨page, others, pages, number, start, (List.prefix_append filled [line]).trans holds⟩

theorem pagesFrom_ne_nil (size number start index : Nat) (filled lines : List Text)
    (some : filled ≠ []) : pagesFrom size number start index filled lines ≠ [] := by
  obtain ⟨page, others, pages, _⟩ := exists_pagesFrom_cons size number start index filled lines some
  rw [pages]
  exact List.cons_ne_nil page others

theorem range'_append_of_le (start stop count : Nat) (ordered : start ≤ stop) :
    List.range' start (stop - start) ++ List.range' stop count =
      List.range' start (stop + count - start) := by
  calc List.range' start (stop - start) ++ List.range' stop count
      = List.range' start (stop - start) ++ List.range' (start + (stop - start)) count := by
        rw [Nat.add_sub_cancel' ordered]
    _ = List.range' start (stop - start + count) := List.range'_append_1
    _ = List.range' start (stop + count - start) := by
        congr 1
        omega

theorem flatMap_indices_pagesFrom (size number start index : Nat) (filled lines : List Text)
    (ordered : start ≤ index) (some : pagesFrom size number start index filled lines ≠ []) :
    (pagesFrom size number start index filled lines).flatMap Page.indices =
      List.range' start (index + lines.length - start) := by
  induction lines generalizing number start index filled with
  | nil =>
    rw [pagesFrom] at some ⊢
    split_ifs at some ⊢
    · exact absurd rfl some
    · exact List.flatMap_singleton _ _
  | cons line rest ih =>
    have later : index + (line :: rest).length = index + 1 + rest.length := by
      rw [List.length_cons]
      omega
    rw [later]
    rw [pagesFrom] at some ⊢
    split_ifs at some ⊢
    · exact ih number start (index + 1) filled (by omega) some
    · have next := pagesFrom_ne_nil size (number + 1) index (index + 1) [line] rest (by simp)
      have count : index + (index + 1 + rest.length - index) = index + 1 + rest.length := by omega
      rw [List.flatMap_cons, ih (number + 1) index (index + 1) [line] (by omega) next,
        Page.indices, range'_append_of_le start index _ ordered, count]
    · exact ih number start (index + 1) (filled ++ [line]) (by omega) some

theorem next_of_drop {lines rest : List Text} {index : Nat} {line : Text}
    (left : lines.drop index = line :: rest) :
    lines[index]? = some line ∧ lines.drop (index + 1) = rest := by
  constructor
  · rw [← List.head?_drop, left]
    rfl
  · rw [← List.tail_drop, left]
    rfl

theorem solidAt_tail_pagesFrom (size number start index : Nat) (filled lines rest : List Text)
    (left : lines.drop index = rest) :
    ∀ page ∈ (pagesFrom size number start index filled rest).tail, SolidAt lines page.start := by
  induction rest generalizing number start index filled with
  | nil =>
    rw [pagesFrom]
    split_ifs <;> exact List.forall_mem_nil _
  | cons line rest ih =>
    obtain ⟨place, next⟩ := next_of_drop left
    rw [pagesFrom]
    split_ifs with blank
    · exact ih number start (index + 1) filled next
    · -- The page that the line opens is the first of those behind; the induction covers the others.
      obtain ⟨page, others, pages, _, begins, _⟩ :=
        exists_pagesFrom_cons size (number + 1) index (index + 1) [line] rest (by simp)
      have later := ih (number + 1) index (index + 1) [line] next
      rw [pages] at later
      rw [List.tail_cons, pages, List.forall_mem_cons, begins]
      exact ⟨⟨line, place, by simpa using blank⟩, later⟩
    · exact ih number start (index + 1) (filled ++ [line]) next

/-- The open page of a stream of which `index` lines have been read: it begins at `start` and holds
the lines with content that have been read since. -/
structure OpenPage (lines : List Text) (start index : Nat) (filled : List Text) : Prop where
  begun : start ≤ index
  inside : index ≤ lines.length
  held : filled = contentOf ((lines.take index).drop start)

theorem openPage_nil (lines : List Text) : OpenPage lines 0 0 [] :=
  ⟨Nat.le_refl 0, Nat.zero_le _, rfl⟩

theorem drop_take_succ {lines : List Text} {start index : Nat} {line : Text}
    (begun : start ≤ index) (place : lines[index]? = some line) :
    (lines.take (index + 1)).drop start = (lines.take index).drop start ++ [line] := by
  have inside := (List.getElem?_eq_some_iff.1 place).1
  have read : start ≤ (lines.take index).length := by
    rw [List.length_take]
    omega
  rw [List.take_add_one, place, List.drop_append_of_le_length read]
  rfl

namespace OpenPage

variable {lines : List Text} {start index : Nat} {filled : List Text} {line : Text}

theorem skip (opened : OpenPage lines start index filled) (place : lines[index]? = some line)
    (blank : line.isBlank = true) : OpenPage lines start (index + 1) filled := by
  refine ⟨Nat.le_succ_of_le opened.begun, (List.getElem?_eq_some_iff.1 place).1, ?_⟩
  rw [drop_take_succ opened.begun place, contentOf_append, contentOf_cons_blank line [] blank,
    contentOf_nil, List.append_nil]
  exact opened.held

theorem take (opened : OpenPage lines start index filled) (place : lines[index]? = some line)
    (solid : line.isBlank = false) : OpenPage lines start (index + 1) (filled ++ [line]) := by
  refine ⟨Nat.le_succ_of_le opened.begun, (List.getElem?_eq_some_iff.1 place).1, ?_⟩
  rw [drop_take_succ opened.begun place, contentOf_append, contentOf_cons_solid line [] solid,
    contentOf_nil, ← opened.held]

theorem turn (place : lines[index]? = some line) (solid : line.isBlank = false) :
    OpenPage lines index (index + 1) [line] := by
  refine ⟨Nat.le_succ index, (List.getElem?_eq_some_iff.1 place).1, ?_⟩
  rw [drop_take_succ (Nat.le_refl index) place, List.drop_take_self, List.nil_append,
    contentOf_cons_solid line [] solid, contentOf_nil]

theorem close (opened : OpenPage lines start index filled) (number : Nat) (some : filled ≠ []) :
    (Page.mk number start index filled).LiesIn lines := by
  refine ⟨?_, opened.inside, opened.held⟩
  apply Nat.lt_of_le_of_ne opened.begun
  intro same
  apply some
  rw [opened.held, same, List.drop_take_self, contentOf_nil]

/-- Wherever the reading of a stream has come to, the pages that it gives lie in the stream. -/
theorem liesIn_pagesFrom (opened : OpenPage lines start index filled) (size number : Nat)
    (pos : 0 < size) (rest : List Text) (left : lines.drop index = rest) :
    ∀ page ∈ pagesFrom size number start index filled rest, page.LiesIn lines := by
  induction rest generalizing number start index filled with
  | nil =>
    rw [pagesFrom]
    split_ifs with empty
    · exact List.forall_mem_nil _
    · rw [List.forall_mem_singleton]
      exact opened.close number empty
  | cons line rest ih =>
    obtain ⟨place, next⟩ := next_of_drop left
    rw [pagesFrom]
    split_ifs with blank full
    · exact ih (opened.skip place blank) number next
    · have some : filled ≠ [] := by
        rw [← List.length_pos_iff, full]
        exact pos
      have turned : OpenPage lines index (index + 1) [line] := turn place (by simpa using blank)
      rw [List.forall_mem_cons]
      exact ⟨opened.close number some, ih turned (number + 1) next⟩
    · exact ih (opened.take place (by simpa using blank)) number next

end OpenPage

theorem ceilDiv_le_ceilDiv (count more size larger : Nat) (pos : 0 < size) (grows : count ≤ more)
    (widens : size ≤ larger) : count ⌈/⌉ larger ≤ more ⌈/⌉ size := by
  rw [ceilDiv_le_iff_le_mul (by omega)]
  calc count ≤ more := grows
    _ ≤ size * (more ⌈/⌉ size) := le_smul_ceilDiv pos
    _ ≤ larger * (more ⌈/⌉ size) := Nat.mul_le_mul_right _ widens

/-- A stream is cut into pages that divide it. Larger pages are never more of them, and more lines,
wherever they are put, are never fewer. -/
theorem distribute_partitions (lines : List Text) (size : Nat) (pos : 0 < size) :
    (distribute lines size).Partitions lines size ∧
      (∀ larger, size ≤ larger → (distribute lines larger).total ≤ (distribute lines size).total) ∧
      ∀ more, lines.Sublist more →
        (distribute lines size).total ≤ (distribute more size).total := by
  refine ⟨⟨map_number_distribute lines size, total_distribute lines size pos, ?tiled, ?begun,
    ?lying, ?full, ?bounded⟩, ?larger, ?more⟩
  case tiled =>
    intro some
    have tiles := flatMap_indices_pagesFrom size 1 0 0 [] lines (Nat.le_refl 0)
      (List.length_pos_iff.1 some)
    rwa [Nat.zero_add, Nat.sub_zero, ← List.range_eq_range'] at tiles
  case begun => exact solidAt_tail_pagesFrom size 1 0 0 [] lines lines rfl
  case lying => exact (openPage_nil lines).liesIn_pagesFrom size 1 pos lines rfl
  case full =>
    intro page inside
    apply length_of_mem_dropLast_chunks size pos (contentOf lines)
    rw [← map_lines_distribute lines size pos, ← List.map_dropLast]
    exact List.mem_map_of_mem inside
  case bounded =>
    intro page inside
    apply length_of_mem_chunks size pos (contentOf lines)
    rw [← map_lines_distribute lines size pos]
    exact List.mem_map_of_mem inside
  case larger =>
    intro larger widens
    rw [total_distribute lines size pos, total_distribute lines larger (by omega)]
    exact ceilDiv_le_ceilDiv _ _ size larger pos (Nat.le_refl _) widens
  case more =>
    intro more added
    rw [total_distribute lines size pos, total_distribute more size pos]
    exact ceilDiv_le_ceilDiv _ _ size size pos (added.filter _).length_le (Nat.le_refl size)

/-- A full page, a blank line behind it, and a page with one line: the blank line lies in the range
of the first page. -/
theorem distribute_partitions_blank_between :
    0 < 2 ∧ 2 ≤ 3 ∧ (Text.lines "a\nb".toList).Sublist (Text.lines "a\n\nb\n \nc".toList) ∧
      (distribute (Text.lines "a\n\nb\n \nc".toList) 2).pages.flatMap Page.indices =
        [0, 1, 2, 3, 4] ∧
      SolidAt (Text.lines "a\n\nb\n \nc".toList) 4 ∧
      (distribute (Text.lines "a\n\nb\n \nc".toList) 3).total ≤
        (distribute (Text.lines "a\n\nb\n \nc".toList) 2).total ∧
      (distribute (Text.lines "a\nb".toList) 2).total ≤
        (distribute (Text.lines "a\n\nb\n \nc".toList) 2).total := by
  obtain ⟨divides, shrinks, _⟩ :=
    distribute_partitions (Text.lines "a\n\nb\n \nc".toList) 2 (by decide)
  have grows := (distribute_partitions (Text.lines "a\nb".toList) 2 (by decide)).2.2
  have added : (Text.lines "a\nb".toList).Sublist (Text.lines "a\n\nb\n \nc".toList) := by decide
  exact ⟨by decide, by decide, added, divides.tiled (by decide),
    divides.begun ⟨2, 4, 5, ["c".toList]⟩ (by decide), shrinks 3 (by decide), grows _ added⟩

end Listing
