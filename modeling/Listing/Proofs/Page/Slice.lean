import Listing.Proofs.Except
import Listing.Proofs.Page.Distribution

/-!
Runs of pages as slices of the stream. The lines of a run of pages that there are stand together in
the lines with content, from a multiple of the size on, so runs that follow each other join to one.
A run that leaves the document fails at its first page outside, and a run of no pages is empty
wherever it stands.
-/

namespace Listing

def HasPage (total : Nat) (number : Int) : Prop := 1 ≤ number ∧ number ≤ total

/-- The first page of a run that a document of `total` pages does not have. -/
structure FirstMissing (total : Nat) (first last number : Int) : Prop where
  low : first ≤ number
  high : number ≤ last
  missing : ¬HasPage total number
  earlier : ∀ page, first ≤ page → page < number → HasPage total page

theorem exists_firstMissing (total : Nat) (first last : Int) (ordered : first ≤ last)
    (leaves : ¬(1 ≤ first ∧ last ≤ total)) : ∃ number, FirstMissing total first last number := by
  by_cases low : 1 ≤ first
  · have beyond : (total : Int) < last := by omega
    refine ⟨max first (total + 1), by omega, by omega, ?_, ?_⟩
    · unfold HasPage
      omega
    · intro page above below
      constructor
      · omega
      · omega
  · refine ⟨first, by omega, ordered, fun has => low has.1, ?_⟩
    intro page above below
    omega

theorem NoSuchPage.message_eq (number : Int) (total : Nat) :
    (NoSuchPage.mk number total).message =
      "Page " ++ toString number ++ " outside 1.." ++ toString total := by
  rw [message, outsideMessage, String.ofList_toList]

namespace Distribution

theorem page_eq_error (d : Distribution) (number : Int) (missing : ¬HasPage d.total number) :
    d.page number = .error ⟨number, d.total⟩ := by
  unfold HasPage total at missing
  rw [page]
  split_ifs with low
  · rfl
  · rw [List.getElem?_eq_none (by omega)]

theorem exists_page (d : Distribution) (number : Int) (has : HasPage d.total number) :
    ∃ page, d.page number = .ok page :=
  exists_of_isOk _ (d.page_isOk number has.1 has.2)

theorem linesOf_eq_error (d : Distribution) (first : Int) (count : Nat) (number : Int)
    (missing : FirstMissing d.total first (first + count - 1) number) :
    d.linesOf first count = .error ⟨number, d.total⟩ := by
  induction count generalizing first with
  | zero =>
    have low := missing.low
    have high := missing.high
    omega
  | succ count ih =>
    rw [linesOf]
    by_cases here : first = number
    · rw [here, d.page_eq_error number missing.missing]
      rfl
    · have low := missing.low
      have high := missing.high
      obtain ⟨page, found⟩ := d.exists_page first (missing.earlier first (by omega) (by omega))
      have rest : d.linesOf (first + 1) count = .error ⟨number, d.total⟩ := by
        apply ih
        refine ⟨by omega, by omega, missing.missing, ?_⟩
        intro page above below
        exact missing.earlier page (by omega) below
      rw [found, rest]
      rfl

theorem linesOf_add (d : Distribution) (first : Int) (count more : Nat) (upper lower : List Text)
    (head : d.linesOf first count = .ok upper)
    (tail : d.linesOf (first + count) more = .ok lower) :
    d.linesOf first (count + more) = .ok (upper ++ lower) := by
  induction count generalizing first upper with
  | zero =>
    cases head
    rw [Nat.zero_add, List.nil_append]
    simpa using tail
  | succ count ih =>
    obtain ⟨page, found, rest⟩ := (bind_eq_ok_iff _ _ _).1 head
    obtain ⟨others, later, same⟩ := (bind_eq_ok_iff _ _ _).1 rest
    cases same
    have place : first + (count + 1 : Nat) = first + 1 + count := by omega
    rw [place] at tail
    rw [Nat.succ_add, linesOf, found, List.append_assoc]
    change (d.linesOf (first + 1) (count + more) >>= _) = _
    rw [ih (first + 1) others later tail]
    rfl

/-- What looking up a run of pages gives, where the lines with content are `content` and a page
takes `size` of them. -/
structure Slices (d : Distribution) (content : List Text) (size : Nat) (first last : Int) :
    Prop where
  nothing : last < first → d.linesFor first last = .ok []
  slice : 1 ≤ first → first ≤ last → last ≤ d.total →
    d.linesFor first last = .ok (content.extract ((first - 1).toNat * size) (last.toNat * size))
  outside : first ≤ last → ¬(1 ≤ first ∧ last ≤ d.total) →
    ∃ number, FirstMissing d.total first last number ∧
      d.linesFor first last = .error ⟨number, d.total⟩

theorem flatMap_lines_run (lines : List Text) (size : Nat) (pos : 0 < size) (start count : Nat) :
    (((distribute lines size).pages.drop start).take count).flatMap Page.lines =
      (contentOf lines).extract (start * size) ((start + count) * size) := by
  have width : (start + count) * size - start * size = count * size := by
    rw [Nat.add_mul, Nat.add_sub_cancel_left]
  calc (((distribute lines size).pages.drop start).take count).flatMap Page.lines
      = (((chunks size (contentOf lines)).drop start).take count).flatten := by
        rw [List.flatMap_def, List.map_take, List.map_drop, map_lines_distribute lines size pos]
    _ = ((contentOf lines).drop (start * size)).take (count * size) := by
        rw [drop_chunks size pos, take_chunks size pos, flatten_chunks]
    _ = (contentOf lines).extract (start * size) ((start + count) * size) := by
        rw [List.extract, width]

end Distribution

theorem slices_distribute (lines : List Text) (size : Nat) (pos : 0 < size) (first last : Int) :
    (distribute lines size).Slices (contentOf lines) size first last := by
  constructor
  · intro reversed
    have none : (last + 1 - first).toNat = 0 := by omega
    rw [Distribution.linesFor, none, Distribution.linesOf]
  · intro low ordered high
    have stop : (first - 1).toNat + (last + 1 - first).toNat = last.toNat := by omega
    rw [Distribution.linesFor, Distribution.linesOf_eq_ok _ first _ low (by omega),
      Distribution.flatMap_lines_run lines size pos, stop]
  · intro ordered leaves
    obtain ⟨number, missing⟩ := exists_firstMissing _ first last ordered leaves
    refine ⟨number, missing, ?_⟩
    apply Distribution.linesOf_eq_error
    have stop : first + ((last + 1 - first).toNat : Int) - 1 = last := by omega
    rw [stop]
    exact missing

/-- Looking up a run of pages gives a slice of the lines with content, nothing for a run of no
pages, and else a failure that names the first page that is missing; and the lines of two runs that
follow each other are those of the whole run. -/
theorem linesFor_slices (lines : List Text) (size : Nat) (pos : 0 < size) :
    (∀ first last : Int, (distribute lines size).Slices (contentOf lines) size first last) ∧
      (∀ number : Int, (NoSuchPage.mk number (distribute lines size).total).message =
        "Page " ++ toString number ++ " outside 1.." ++ toString (distribute lines size).total) ∧
      ∀ first middle last : Int, 1 ≤ first → first ≤ middle → middle ≤ last →
        last ≤ (distribute lines size).total →
        ∃ upper lower, (distribute lines size).linesFor first middle = .ok upper ∧
          (distribute lines size).linesFor (middle + 1) last = .ok lower ∧
          (distribute lines size).linesFor first last = .ok (upper ++ lower) := by
  refine ⟨slices_distribute lines size pos, fun number => NoSuchPage.message_eq number _, ?_⟩
  intro first middle last low ordered others high
  have upper := Distribution.linesOf_eq_ok (distribute lines size) first
    (middle + 1 - first).toNat low (by omega)
  have lower := Distribution.linesOf_eq_ok (distribute lines size) (middle + 1)
    (last + 1 - (middle + 1)).toNat (by omega) (by omega)
  refine ⟨_, _, upper, lower, ?_⟩
  have next : middle + 1 = first + ((middle + 1 - first).toNat : Int) := by omega
  have count : (last + 1 - first).toNat =
      (middle + 1 - first).toNat + (last + 1 - (middle + 1)).toNat := by omega
  rw [Distribution.linesFor, count]
  apply Distribution.linesOf_add _ first _ _ _ _ upper
  rw [← next]
  exact lower

/-- Two lines on a page, of `a`, a blank line, `b` and `c`: the short last page, a run of no pages
that lies outside, a run that leaves the document at both ends, and the two pages joined. -/
theorem linesFor_slices_short_last :
    let d := distribute (Text.lines "a\n\nb\nc".toList) 2
    0 < 2 ∧ d.linesFor 2 2 = .ok ["c".toList] ∧ d.linesFor 7 (-1) = .ok [] ∧
      (∃ number, FirstMissing 2 (-1) 4 number ∧ d.linesFor (-1) 4 = .error ⟨number, 2⟩) ∧
      ∃ upper lower, d.linesFor 1 1 = .ok upper ∧ d.linesFor 2 2 = .ok lower ∧
        d.linesFor 1 2 = .ok (upper ++ lower) := by
  intro d
  obtain ⟨slices, _, joins⟩ := linesFor_slices (Text.lines "a\n\nb\nc".toList) 2 (by decide)
  have last := (slices 2 2).slice (by decide) (by decide) (by decide)
  have none := (slices 7 (-1)).nothing (by decide)
  have outside := (slices (-1) 4).outside (by decide) (by decide)
  have joined := joins 1 1 2 (by decide) (by decide) (by decide) (by decide)
  exact ⟨by decide, last, none, outside, joined⟩

end Listing
