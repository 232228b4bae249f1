import Mathlib.Data.List.Induction
import Listing.Proofs.Text.Lines
import Listing.Sheet.Setting

/-!
Texts with their tabs filled. What stands behind a tab begins in a column that is a multiple of the
tab stop, so the pieces between the tabs of a text are filled one by one, and how far a piece is
filled depends on nothing but the characters behind its last line break.
-/

namespace Listing

namespace Text

def lastColumn (t : Text) : Nat :=
  (t.reverse.takeWhile fun c => c ≠ '\n' && c ≠ '\r').length

/-- A text and the spaces up to the next multiple of four columns, at least one. -/
def padded (t : Text) : Text := t ++ List.replicate (4 - t.lastColumn % 4) ' '

/-- A text with its tabs filled to columns of four: each piece before a tab is padded. -/
def filled (t : Text) : Text :=
  (t.splitOn '\t').dropLast.flatMap padded ++ (t.splitOn '\t').getLastD []

def columnAfter (column : Nat) (t : Text) : Nat :=
  t.foldl (fun column c => if c = '\n' ∨ c = '\r' then 0 else column + 1) column

theorem columnAfter_mod (column : Nat) (aligned : column % 4 = 0) (t : Text) :
    columnAfter column t % 4 = t.lastColumn % 4 := by
  induction t using List.reverseRecOn with
  | nil => exact aligned
  | append_singleton t c ih =>
    unfold columnAfter lastColumn at ih ⊢
    rw [List.foldl_append, List.foldl_cons, List.foldl_nil, List.reverse_append]
    by_cases breaks : c = '\n' ∨ c = '\r'
    · rw [if_pos breaks]
      obtain rfl | rfl := breaks <;> rfl
    · have kept : (decide (c ≠ '\n') && decide (c ≠ '\r')) = true := by simpa using breaks
      rw [if_neg breaks, List.reverse_singleton, List.singleton_append, List.takeWhile_cons,
        if_pos kept, List.length_cons]
      omega

end Text

theorem expandTabs_append (stop column : Nat) (piece rest : Text) (plain : '\t' ∉ piece) :
    expandTabs stop column (piece ++ rest) =
      piece ++ expandTabs stop (Text.columnAfter column piece) rest := by
  induction piece generalizing column with
  | nil => rfl
  | cons c piece ih =>
    obtain ⟨other, later⟩ := not_or.1 (List.mem_cons.not.1 plain)
    rw [List.cons_append, expandTabs, if_neg (Ne.symm other), ih _ later]
    rfl

theorem expandTabs_pieces (column : Nat) (aligned : column % 4 = 0) (pieces : List Text)
    (plain : ∀ piece ∈ pieces, '\t' ∉ piece) :
    expandTabs 4 column (List.intercalate ['\t'] pieces) =
      pieces.dropLast.flatMap Text.padded ++ pieces.getLastD [] := by
  induction pieces generalizing column with
  | nil => rfl
  | cons piece rest ih =>
    obtain ⟨first, later⟩ := List.forall_mem_cons.1 plain
    cases rest with
    | nil =>
      have alone := expandTabs_append 4 column piece [] first
      rw [List.append_nil] at alone
      rw [List.intercalate_singleton, alone]
      exact List.append_nil piece
    | cons next rest =>
      have gap := Text.columnAfter_mod column aligned piece
      rw [List.intercalate_cons_cons, List.append_assoc, expandTabs_append 4 column _ _ first,
        List.singleton_append, expandTabs, if_pos rfl]
      dsimp only
      rw [ih _ (by omega) later, gap]
      simp [Text.padded]

/-- The tabs of a line are filled to columns of four. -/
theorem expandTabs_eq_filled (t : Text) : expandTabs tabStop 0 t = t.filled := by
  have pieces := expandTabs_pieces 0 rfl (t.splitOn '\t') (Text.notMem_splitOn '\t' t)
  rw [List.intercalate_splitOn] at pieces
  exact pieces

example : Text.filled "a\tbcd\t\te\r\tf".toList = "a   bcd     e\r    f".toList := by decide

end Listing
