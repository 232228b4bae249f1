import Listing.Comment.Delimited
import Listing.Proofs.Text.Lines

/-!
Line comments, seen from a whole text. Their removal reads the text once from the left: at a marker
it goes on with the end of the line, and any other character is kept. So nothing new comes about
within a line: what is left holds no marker, and a text without a marker stays as it is.
-/

namespace Listing

namespace Text

/-- What can delimit a comment: at least one character, and no line feed. -/
structure Delimiting (mark : Text) : Prop where
  solid : mark ≠ []
  plain : '\n' ∉ mark

theorem Delimiting.ne_newline {mark rest : Text} {c : Char} (delimits : mark.Delimiting)
    (starts : mark <+: c :: rest) : c ≠ '\n' := by
  rintro rfl
  obtain ⟨first, more, rfl⟩ := List.exists_cons_of_ne_nil delimits.solid
  exact delimits.plain ((List.cons_prefix_cons.1 starts).1 ▸ List.mem_cons_self)

/-- A text that is over or goes on with a line feed. -/
def AtLineEnd (t : Text) : Prop := ∀ c, t.head? = some c → c = '\n'

def firstLine (t : Text) : Text := t.takeWhile (· ≠ '\n')

def fromLineEnd (t : Text) : Text := t.dropWhile (· ≠ '\n')

theorem firstLine_append_fromLineEnd (t : Text) : t.firstLine ++ t.fromLineEnd = t :=
  List.takeWhile_append_dropWhile

theorem newline_notMem_firstLine (t : Text) : '\n' ∉ t.firstLine :=
  fun feed => by simpa using List.mem_takeWhile_imp feed

theorem atLineEnd_fromLineEnd (t : Text) : t.fromLineEnd.AtLineEnd := by
  intro c head
  have ends := List.head?_dropWhile_not (fun c => decide (c ≠ '\n')) t
  rw [fromLineEnd] at head
  rw [head] at ends
  simpa using ends

theorem firstLine_cons (c : Char) (rest : Text) (other : c ≠ '\n') :
    firstLine (c :: rest) = c :: firstLine rest :=
  List.takeWhile_cons_of_pos (decide_eq_true other)

theorem fromLineEnd_cons (c : Char) (rest : Text) (other : c ≠ '\n') :
    fromLineEnd (c :: rest) = fromLineEnd rest :=
  List.dropWhile_cons_of_pos (decide_eq_true other)

theorem fromLineEnd_suffix (t : Text) : t.fromLineEnd <:+ t := List.dropWhile_suffix _

theorem AtLineEnd.eq_nil_or {t : Text} (ends : t.AtLineEnd) :
    t = [] ∨ ∃ rest, t = '\n' :: rest := by
  cases t with
  | nil => exact .inl rfl
  | cons c rest => exact .inr ⟨rest, by rw [ends c rfl]⟩

theorem AtLineEnd.prefix_of_append {w line rest : Text} (ends : rest.AtLineEnd) (plain : '\n' ∉ w)
    (starts : w <+: line ++ rest) : w <+: line := by
  rcases List.prefix_or_prefix_of_prefix starts (List.prefix_append line rest) with inside | across
  · exact inside
  · obtain ⟨more, rfl⟩ := across
    rw [List.prefix_append_right_inj] at starts
    cases more with
    | nil => exact (List.append_nil line).symm ▸ List.prefix_refl line
    | cons c more =>
      obtain ⟨later, rfl⟩ := starts
      have feed : c = '\n' := ends c rfl
      exact absurd (List.mem_append_right line (feed ▸ List.mem_cons_self)) plain

theorem lines_of_plain {line : Text} (plain : '\n' ∉ line) : line.lines = [line] := by
  have single := lines_unlines [line] (by simpa using plain) (List.cons_ne_nil line [])
  rwa [unlines_singleton] at single

end Text

open Text

variable {marker : Text}

theorem dropLineComments_nil : dropLineComments marker [] = [] := rfl

theorem dropLineComments_append_newline (marker line t : Text) (plain : '\n' ∉ line) :
    dropLineComments marker (line ++ '\n' :: t) =
      cutAt marker line ++ '\n' :: dropLineComments marker t := by
  obtain ⟨next, more, below⟩ := List.exists_cons_of_ne_nil (lines_ne_nil t)
  rw [dropLineComments, dropLineComments, lines_append_newline, lines_of_plain plain, below,
    List.singleton_append, List.map_cons, List.map_cons, unlines_cons_cons]

theorem dropLineComments_append_lineEnd (marker line rest : Text) (plain : '\n' ∉ line)
    (ends : rest.AtLineEnd) :
    dropLineComments marker (line ++ rest) = cutAt marker line ++ dropLineComments marker rest := by
  rcases ends.eq_nil_or with rfl | ⟨t, rfl⟩
  · rw [List.append_nil, dropLineComments_nil, List.append_nil, dropLineComments,
      lines_of_plain plain, List.map_singleton, unlines_singleton]
  · have feed := dropLineComments_append_newline marker [] t List.not_mem_nil
    rw [dropLineComments_append_newline marker line t plain, ← List.nil_append ('\n' :: t), feed]
    rfl

theorem dropLineComments_newline (t : Text) :
    dropLineComments marker ('\n' :: t) = '\n' :: dropLineComments marker t :=
  dropLineComments_append_newline marker [] t List.not_mem_nil

theorem cutAt_marked (line : Text) (starts : marker <+: line) : cutAt marker line = [] := by
  cases line with
  | nil => rfl
  | cons c rest => exact if_pos (List.isPrefixOf_iff_prefix.2 starts)

theorem cutAt_cons (c : Char) (rest : Text) (other : ¬marker <+: c :: rest) :
    cutAt marker (c :: rest) = c :: cutAt marker rest :=
  if_neg (mt List.isPrefixOf_iff_prefix.1 other)

section
variable (mark : marker.Delimiting)
include mark

theorem dropLineComments_marked (t : Text) (starts : marker <+: t) :
    dropLineComments marker t = dropLineComments marker t.fromLineEnd := by
  have ends := atLineEnd_fromLineEnd t
  have early : marker <+: t.firstLine := by
    apply ends.prefix_of_append mark.plain
    rwa [firstLine_append_fromLineEnd]
  conv_lhs => rw [← firstLine_append_fromLineEnd t]
  rw [dropLineComments_append_lineEnd _ _ _ (newline_notMem_firstLine t) ends, cutAt_marked _ early]
  rfl

omit mark in
theorem dropLineComments_cons (c : Char) (rest : Text) (other : ¬marker <+: c :: rest) :
    dropLineComments marker (c :: rest) = c :: dropLineComments marker rest := by
  by_cases feed : c = '\n'
  · subst feed
    exact dropLineComments_newline rest
  · have ends := atLineEnd_fromLineEnd rest
    have plain := newline_notMem_firstLine rest
    have whole := firstLine_append_fromLineEnd rest
    have solid : '\n' ∉ c :: rest.firstLine := by
      rw [List.mem_cons, not_or]
      exact ⟨Ne.symm feed, plain⟩
    have late : ¬marker <+: c :: rest.firstLine := by
      intro starts
      apply other
      rw [← whole]
      exact List.prefix_append_of_prefix starts
    have above := dropLineComments_append_lineEnd marker _ _ solid ends
    have below := dropLineComments_append_lineEnd marker _ _ plain ends
    rw [whole] at below
    rw [List.cons_append, whole, cutAt_cons c _ late] at above
    rw [above, below, List.cons_append]

theorem lineComments_induction {motive : Text → Prop} (nil : motive [])
    (marked : ∀ t : Text, marker <+: t → motive t.fromLineEnd → motive t)
    (cons : ∀ c rest, ¬marker <+: c :: rest → motive rest → motive (c :: rest)) (t : Text) :
    motive t := by
  induction size : t.length using Nat.strong_induction_on generalizing t with
  | h n ih =>
    cases t with
    | nil => exact nil
    | cons c rest =>
      by_cases starts : marker <+: c :: rest
      · apply marked _ starts
        apply ih _ ?_ _ rfl
        have shorter := (fromLineEnd_suffix rest).length_le
        rw [fromLineEnd_cons c rest (mark.ne_newline starts), ← size]
        exact Nat.lt_succ_of_le shorter
      · exact cons c rest starts (ih _ (by rw [← size]; exact Nat.lt_succ_self _) rest rfl)

theorem exists_of_prefix_dropLineComments (w t : Text) (plain : '\n' ∉ w)
    (starts : w <+: dropLineComments marker t) :
    ∃ rest, t = w ++ rest ∧ dropLineComments marker t = w ++ dropLineComments marker rest := by
  induction w generalizing t with
  | nil => exact ⟨t, rfl, rfl⟩
  | cons d w ih =>
    rw [List.mem_cons, not_or] at plain
    by_cases marked : marker <+: t
    · rw [dropLineComments_marked mark t marked] at starts
      rcases (atLineEnd_fromLineEnd t).eq_nil_or with nothing | ⟨rest, feed⟩
      · rw [nothing] at starts
        exact absurd (List.prefix_nil.1 starts) (List.cons_ne_nil d w)
      · rw [feed, dropLineComments_newline] at starts
        exact absurd (List.cons_prefix_cons.1 starts).1.symm plain.1
    · cases t with
      | nil => exact absurd (List.prefix_nil.1 starts) (List.cons_ne_nil d w)
      | cons c rest =>
        rw [dropLineComments_cons c rest marked] at starts ⊢
        obtain ⟨rfl, later⟩ := List.cons_prefix_cons.1 starts
        obtain ⟨more, rfl, goes⟩ := ih rest plain.2 later
        exact ⟨more, rfl, by rw [goes, List.cons_append]⟩

theorem infix_of_infix_dropLineComments (w t : Text) (plain : '\n' ∉ w)
    (inside : w <:+: dropLineComments marker t) : w <:+: t := by
  induction t using lineComments_induction mark with
  | nil => exact inside
  | marked t starts ih =>
    rw [dropLineComments_marked mark t starts] at inside
    exact (ih inside).trans (fromLineEnd_suffix t).isInfix
  | cons c rest other ih =>
    rw [dropLineComments_cons c rest other, List.infix_cons_iff] at inside
    rcases inside with here | later
    · rw [← dropLineComments_cons c rest other] at here
      obtain ⟨more, same, _⟩ := exists_of_prefix_dropLineComments mark w _ plain here
      exact same ▸ (List.prefix_append w more).isInfix
    · exact (ih later).trans (List.suffix_cons c rest).isInfix

theorem not_marker_infix_dropLineComments (t : Text) : ¬marker <:+: dropLineComments marker t := by
  induction t using lineComments_induction mark with
  | nil => exact fun inside => mark.solid (List.infix_nil.1 inside)
  | marked t starts ih => rwa [dropLineComments_marked mark t starts]
  | cons c rest other ih =>
    rw [dropLineComments_cons c rest other, List.infix_cons_iff]
    rintro (here | later)
    · rw [← dropLineComments_cons c rest other] at here
      obtain ⟨more, same, _⟩ := exists_of_prefix_dropLineComments mark marker _ mark.plain here
      exact other ⟨more, same.symm⟩
    · exact ih later

theorem dropLineComments_sublist (t : Text) : (dropLineComments marker t).Sublist t := by
  induction t using lineComments_induction mark with
  | nil => exact List.Sublist.refl []
  | marked t starts ih =>
    rw [dropLineComments_marked mark t starts]
    exact ih.trans (fromLineEnd_suffix t).sublist
  | cons c rest other ih =>
    rw [dropLineComments_cons c rest other]
    exact ih.cons_cons c

end

theorem dropLineComments_append (marker w t : Text)
    (clear : ∀ u v, w = u ++ v → v ≠ [] → ¬marker <+: v ++ t) :
    dropLineComments marker (w ++ t) = w ++ dropLineComments marker t := by
  induction w with
  | nil => rfl
  | cons c rest ih =>
    have other : ¬marker <+: c :: (rest ++ t) := clear [] (c :: rest) rfl (List.cons_ne_nil c rest)
    have later := ih fun u v same => clear (c :: u) v (congrArg (c :: ·) same)
    rw [List.cons_append, dropLineComments_cons c _ other, later, List.cons_append]

theorem dropLineComments_eq_self (t : Text) (unmarked : ¬marker <:+: t) :
    dropLineComments marker t = t := by
  have whole := dropLineComments_append marker t [] ?_
  · rwa [dropLineComments_nil, List.append_nil] at whole
  · rintro u v rfl _ starts
    rw [List.append_nil] at starts
    exact unmarked (starts.isInfix.trans (List.suffix_append u v).isInfix)

theorem dropMarkedLines_again (sign : Char) (t : Text) :
    dropMarkedLines sign (dropMarkedLines sign t) = dropMarkedLines sign t := by
  have plain : ∀ line ∈ t.lines.map fun line => if line.head? = some sign then [] else line,
      '\n' ∉ line := by
    intro line inside
    obtain ⟨before, original, rfl⟩ := List.mem_map.1 inside
    split_ifs
    · exact List.not_mem_nil
    · exact newline_notMem_lines t before original
  have filled : t.lines.map (fun line => if line.head? = some sign then [] else line) ≠ [] :=
    mt List.map_eq_nil_iff.1 (lines_ne_nil t)
  rw [dropMarkedLines, dropMarkedLines, lines_unlines _ plain filled, List.map_map]
  congr 1
  apply List.map_congr_left
  intro line _
  rw [Function.comp_apply]
  by_cases marked : line.head? = some sign
  · rw [if_pos marked]
    rfl
  · rw [if_neg marked, if_neg marked]

end Listing
