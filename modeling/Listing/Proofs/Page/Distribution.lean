import Listing.Page.Distribution
import Listing.Proofs.Page.Chunks
import Mathlib.Data.List.Basic

/-!
The pages of a distribution hold the lines with content cut into chunks, and they are numbered from
one on. So looking up a run of pages gives the lines of a run of chunks.
-/

namespace Listing

def contentOf (lines : List Text) : List Text := lines.filter fun line => !line.isBlank

theorem contentOf_cons_blank (line : Text) (rest : List Text) (blank : line.isBlank = true) :
    contentOf (line :: rest) = contentOf rest :=
  List.filter_cons_of_neg (by simp [blank])

theorem contentOf_cons_solid (line : Text) (rest : List Text) (solid : line.isBlank = false) :
    contentOf (line :: rest) = line :: contentOf rest :=
  List.filter_cons_of_pos (by simp [solid])

theorem contentOf_nil : contentOf [] = [] := rfl

theorem contentOf_append (lines more : List Text) :
    contentOf (lines ++ more) = contentOf lines ++ contentOf more :=
  List.filter_append ..

theorem map_lines_pagesFrom (size number start index : Nat) (filled lines : List Text)
    (pos : 0 < size) (open_le : filled.length ≤ size) :
    (pagesFrom size number start index filled lines).map Page.lines =
      chunks size (filled ++ contentOf lines) := by
  induction lines generalizing number start index filled with
  | nil =>
    rw [pagesFrom, contentOf, List.filter_nil, List.append_nil]
    split_ifs with empty
    · rw [empty, chunks_nil, List.map_nil]
    · rw [chunks_of_ne_nil size pos filled empty, List.take_of_length_le open_le,
        List.drop_of_length_le open_le, chunks_nil, List.map_singleton]
  | cons line rest ih =>
    rw [pagesFrom]
    split_ifs with blank full
    · rw [ih number start (index + 1) filled open_le, contentOf_cons_blank line rest blank]
    · have solid : line.isBlank = false := by simpa using blank
      have more : filled ++ line :: contentOf rest ≠ [] := by simp
      rw [List.map_cons, ih (number + 1) index (index + 1) [line] pos,
        contentOf_cons_solid line rest solid, chunks_of_ne_nil size pos _ more, ← full,
        List.take_left, List.drop_left, List.singleton_append]
    · have solid : line.isBlank = false := by simpa using blank
      have room : (filled ++ [line]).length ≤ size := by
        rw [List.length_append, List.length_singleton]
        omega
      rw [ih number start (index + 1) (filled ++ [line]) room, contentOf_cons_solid line rest solid,
        List.append_assoc, List.singleton_append]

theorem map_number_pagesFrom (size number start index : Nat) (filled lines : List Text) :
    (pagesFrom size number start index filled lines).map Page.number =
      List.range' number (pagesFrom size number start index filled lines).length := by
  induction lines generalizing number start index filled with
  | nil =>
    rw [pagesFrom]
    split_ifs <;> rfl
  | cons line rest ih =>
    rw [pagesFrom]
    split_ifs
    · exact ih number start (index + 1) filled
    · rw [List.map_cons, ih (number + 1) index (index + 1) [line], List.length_cons,
        List.range'_succ]
    · exact ih number start (index + 1) (filled ++ [line])

theorem map_lines_distribute (lines : List Text) (size : Nat) (pos : 0 < size) :
    (distribute lines size).pages.map Page.lines = chunks size (contentOf lines) :=
  map_lines_pagesFrom size 1 0 0 [] lines pos (Nat.zero_le size)

theorem flatMap_lines_distribute (lines : List Text) (size : Nat) (pos : 0 < size) :
    (distribute lines size).pages.flatMap Page.lines = contentOf lines := by
  rw [List.flatMap_def, map_lines_distribute lines size pos, flatten_chunks]

theorem total_distribute (lines : List Text) (size : Nat) (pos : 0 < size) :
    (distribute lines size).total = (contentOf lines).length ⌈/⌉ size := by
  rw [← length_chunks size pos, ← map_lines_distribute lines size pos, List.length_map]
  rfl

theorem total_distribute_eq_zero_iff (lines : List Text) (size : Nat) (pos : 0 < size) :
    (distribute lines size).total = 0 ↔ contentOf lines = [] := by
  rw [← chunks_eq_nil_iff size, ← map_lines_distribute lines size pos, List.map_eq_nil_iff]
  exact List.length_eq_zero_iff

theorem map_number_distribute (lines : List Text) (size : Nat) :
    (distribute lines size).pages.map Page.number = List.range' 1 (distribute lines size).total :=
  map_number_pagesFrom size 1 0 0 [] lines

namespace Distribution

def run (d : Distribution) (first last : Int) : List Page :=
  (d.pages.drop (first - 1).toNat).take (last + 1 - first).toNat

theorem page_eq_ok (d : Distribution) (number : Int) (low : 1 ≤ number) (page : Page)
    (found : d.pages[(number - 1).toNat]? = some page) : d.page number = .ok page := by
  rw [Distribution.page, if_neg (by omega), found]

theorem number_of_page (lines : List Text) (size : Nat) (number : Int) (page : Page)
    (found : (distribute lines size).page number = .ok page) : (page.number : Int) = number := by
  unfold Distribution.page at found
  split_ifs at found with low
  split at found
  · next other place =>
    cases found
    have inside : (number - 1).toNat < (distribute lines size).total :=
      (List.getElem?_eq_some_iff.1 place).1
    have numbers := congrArg (fun items => items[(number - 1).toNat]?)
      (map_number_distribute lines size)
    rw [List.getElem?_map, place, Option.map_some, List.getElem?_range' inside,
      Option.some_inj] at numbers
    omega
  · cases found

theorem linesOf_eq_ok (d : Distribution) (first : Int) (count : Nat) (low : 1 ≤ first)
    (high : first + count ≤ d.total + 1) :
    d.linesOf first count =
      .ok (((d.pages.drop (first - 1).toNat).take count).flatMap Page.lines) := by
  induction count generalizing first with
  | zero => rfl
  | succ count ih =>
    have inside : (first - 1).toNat < d.pages.length := by
      unfold total at high
      omega
    have next : (first + 1 - 1).toNat = (first - 1).toNat + 1 := by omega
    have page := d.page_eq_ok first low _ (List.getElem?_eq_getElem inside)
    rw [linesOf, page, ih (first + 1) (by omega) (by omega), next, List.drop_eq_getElem_cons inside,
      List.take_succ_cons, List.flatMap_cons]
    rfl

theorem length_run (d : Distribution) (first last : Int) (low : 1 ≤ first) (ordered : first ≤ last)
    (high : last ≤ d.total) : ((d.run first last).length : Int) = last - first + 1 := by
  unfold total at high
  rw [run, List.length_take, List.length_drop]
  omega

theorem getElem?_run (d : Distribution) (first last : Int) (low : 1 ≤ first) (offset : Nat)
    (page : Page) (found : (d.run first last)[offset]? = some page) :
    d.page (first + offset) = .ok page := by
  have inside : d.pages[(first - 1).toNat + offset]? = some page := by
    rw [run, List.getElem?_take, List.getElem?_drop] at found
    split_ifs at found
    exact found
  have place : (first + offset - 1).toNat = (first - 1).toNat + offset := by omega
  exact d.page_eq_ok _ (by omega) page (by rw [place]; exact inside)

theorem run_total (d : Distribution) : d.run 1 d.total = d.pages := by
  have count : ((d.total : Int) + 1 - 1).toNat = d.pages.length := by
    unfold total
    omega
  rw [run, count]
  exact List.take_length

end Distribution

end Listing
