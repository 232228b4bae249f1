import Listing.Generation
import Listing.Proofs.Page.Token

/-!
How a page range is complained of. A range selects pages of the document, or a failure of the
selecting stage names the first of its tokens that does not fit, with one way out: where that token
writes a number with more digits than can be read, the run ends for the number, and nothing is
reported of the token.
-/

namespace Listing

def ReportsRange (range : Text) (total : Int) (failure : GenerationError) : Prop :=
  ∃ e, pagesOfRange range (.int total) = .error e ∧
    ((SelectionError.range e).stop : Stop Empty) = .failed failure

/-- A range is answered with pages of the document, or with a failure of the selecting stage that
names one of its tokens. -/
inductive Answered (range : Text) (total : Int) : Prop where
  | pages {pages : List Int} (read : pagesOfRange range (.int total) = .ok pages)
      (inside : ∀ page ∈ pages, 1 ≤ page ∧ page ≤ total)
  | failure {failure : GenerationError} {raw : Text} {reason : Value}
      (reported : ReportsRange range total failure)
      (stage : failure.stage = .ofString "select") (token : raw ∈ range.splitOn ',')
      (named : failure = .pageRange (.text (blamed raw)) reason)

variable (range : Text) (total : Int)

theorem pagesOfRange_eq_tooLong_iff :
    (∃ count, pagesOfRange range (.int total) = .error (.number (.tooLong count))) ↔
      Unreadable total.toNat range := by
  constructor
  · rintro ⟨count, failed⟩
    obtain ⟨before, raw, after, split, fine, refused⟩ := pagesOfRange_stops total range _ failed
    cases refused with
    | digits overlong =>
      exact ⟨_, _, _, rangeTokens_of_splitOn split, List.forall_mem_map.2 fine, overlong⟩
  · exact pagesOfRange_unreadable total range

theorem not_answered_of_unreadable (unreadable : Unreadable total.toNat range) :
    ¬Answered range total := by
  obtain ⟨count, failed⟩ := pagesOfRange_unreadable total range unreadable
  rintro (⟨read, _⟩ | ⟨⟨e, stopped, reported⟩, _⟩)
  · cases failed.symm.trans read
  · cases failed.symm.trans stopped
    cases reported

theorem answered_of_readable (readable : ¬Unreadable total.toNat range) :
    Answered range total := by
  cases read : pagesOfRange range (.int total) with
  | ok pages => exact .pages read (pagesOfRange_bounds range total pages read)
  | error e =>
    obtain ⟨before, raw, after, split, fine, refused⟩ := pagesOfRange_stops total range e read
    cases refused with
    | digits => exact absurd ((pagesOfRange_eq_tooLong_iff range total).1 ⟨_, read⟩) readable
    | misfit =>
      have member : raw ∈ range.splitOn ',' := by
        rw [split]
        exact List.mem_append_cons_self
      exact .failure ⟨_, read, rfl⟩ rfl member rfl

/-- A range is answered, whatever it holds, unless the first of its tokens that does not fit the
document writes a number with too many digits to be read; that is what then ends the run. It is
answered with pages exactly if all its tokens fit. -/
theorem pagesOfRange_answered_iff :
    (Answered range total ↔ ¬Unreadable total.toNat range) ∧
      ((∃ count, pagesOfRange range (.int total) = .error (.number (.tooLong count))) ↔
        Unreadable total.toNat range) ∧
      ((∃ pages, pagesOfRange range (.int total) = .ok pages) ↔
        ∀ token ∈ rangeTokens range, Fits total.toNat token) := by
  refine ⟨?_, pagesOfRange_eq_tooLong_iff range total, pagesOfRange_eq_ok_iff total range⟩
  constructor
  · intro answered unreadable
    exact not_answered_of_unreadable range total unreadable answered
  · exact answered_of_readable range total

/-- A page number far beyond the document, and a page of one whose total is less than none. -/
theorem pagesOfRange_answered_beyond :
    Answered "2,100000000000000000000000000000".toList 5 ∧ Answered "1".toList (-1) := by
  have far : Readable "2,100000000000000000000000000000".toList :=
    fun digits inside _ => inside.length_le.trans (by decide)
  have near : Readable "1".toList := fun digits inside _ => inside.length_le.trans (by decide)
  exact ⟨(pagesOfRange_answered_iff _ 5).1.2 (far.not_unreadable 5),
    (pagesOfRange_answered_iff _ (-1)).1.2 (near.not_unreadable 0)⟩

theorem unreadable_of_digits (count : Nat) (digits : Text)
    (decimal : ∀ c ∈ digits, isDigit c = true) (long : digitLimit < digits.length) :
    Unreadable count digits := by
  have filled : digits ≠ [] := by
    rintro rfl
    exact Nat.not_lt_zero _ long
  have number : Writes digits digits := ⟨filled, decimal, [], [], rfl, rfl, by simp⟩
  have plain : ',' ∉ digits := fun inside => Bool.false_ne_true (decimal ',' inside)
  have single : rangeTokens digits = [digits] := by
    rw [rangeTokens, List.splitOn_eq_singleton plain, List.map_singleton, number.trim_eq]
  exact ⟨[], digits, [], single, List.forall_mem_nil _, .single digits, .single number, digits,
    List.mem_singleton_self _, long⟩

/-- A page number of 4301 digits is far outside a document of five pages, but is not reported. -/
theorem not_answered_of_many_nines : ¬Answered (List.replicate 4301 '9') 5 := by
  apply not_answered_of_unreadable
  apply unreadable_of_digits
  · intro c inside
    rw [List.eq_of_mem_replicate inside]
    decide
  · rw [List.length_replicate]
    decide

end Listing
