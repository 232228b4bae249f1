import Listing.Text.Basic

/-!
Text without its blank lines. The lines that stay lose the whitespace at their end, and runs of
line feeds are capped at two, which after the blank lines are gone is already so.
-/

namespace Listing.Text

/-- A text whose runs of line feeds are no longer than two; `run` line feeds came before it. -/
def capNewlines : (run : Nat) → Text → Text
  | _, [] => []
  | run, c :: rest =>
    if c = '\n' then
      if run < 2 then c :: capNewlines (run + 1) rest else capNewlines run rest
    else c :: capNewlines 0 rest

def contentLines (t : Text) : List Text :=
  (t.lines.filter fun line => !isBlank line).map trimEnd

def dropBlankLines (t : Text) : Text := capNewlines 0 (unlines (contentLines t))

theorem contentLines_not_blank (t : Text) : ∀ line ∈ contentLines t, line ≠ [] := by
  intro line member
  obtain ⟨source, kept, rfl⟩ := List.mem_map.1 member
  have solid := (List.mem_filter.1 kept).2
  intro empty
  rw [trimEnd_eq_nil_iff] at empty
  simp [empty] at solid

end Listing.Text
