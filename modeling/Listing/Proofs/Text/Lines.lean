import Listing.Text.Basic
import Mathlib.Data.List.DropRight

/-!
Trimming and lines. A trimmed text has no whitespace at either end, trimming again changes nothing,
and a text put below another one keeps both trimmed. Lines that hold no line feed come back from
their joined text, so joining texts that are not empty is the same as stacking them.
-/

namespace Listing.Text

def Trimmed (t : Text) : Prop := ∀ c, t.head? = some c ∨ t.getLast? = some c → isSpace c = false

/-- Two texts one below the other; an empty one takes no line. -/
def stack (upper lower : Text) : Text :=
  if upper = [] then lower else if lower = [] then upper else upper ++ '\n' :: lower

def rows (t : Text) : List Text := if t = [] then [] else t.lines

theorem trimEnd_append (t u : Text) (solid : u.isBlank = false) :
    trimEnd (t ++ u) = t ++ trimEnd u := by
  have kept : trimEnd u ≠ [] := by simp [trimEnd_eq_nil_iff, solid]
  have reversed : List.dropWhile isSpace u.reverse ≠ [] := by simpa [trimEnd] using kept
  rw [trimEnd, List.reverse_append, List.dropWhile_append]
  simp [reversed, trimEnd]

theorem trimStart_append (t u : Text) (solid : t.isBlank = false) :
    trimStart (t ++ u) = trimStart t ++ u := by
  have kept : trimStart t ≠ [] := by simp [trimStart_eq_nil_iff, solid]
  have nonempty : List.dropWhile isSpace t ≠ [] := kept
  rw [trimStart, List.dropWhile_append]
  simp [nonempty, trimStart]

theorem trimEnd_eq_self_iff (t : Text) :
    trimEnd t = t ↔ ∀ c, t.getLast? = some c → isSpace c = false := by
  change List.rdropWhile isSpace t = t ↔ _
  rw [List.rdropWhile_eq_self_iff]
  constructor
  · intro solid c last
    have filled : t ≠ [] := by rintro rfl; simp at last
    rw [List.getLast?_eq_some_getLast filled, Option.some.injEq] at last
    simpa [last] using solid filled
  · intro solid filled
    simpa using solid _ (List.getLast?_eq_some_getLast filled)

theorem isBlank_trimStart (t : Text) : isBlank (trimStart t) = isBlank t := by
  cases blank : isBlank t with
  | true => rw [(trimStart_eq_nil_iff t).2 blank]; rfl
  | false =>
    by_contra other
    have inner : isBlank (trimStart t) = true := by simpa using other
    have split := List.takeWhile_append_dropWhile (p := isSpace) (l := t)
    have both : isBlank (t.takeWhile isSpace ++ trimStart t) = true := by
      rw [isBlank, List.all_append, Bool.and_eq_true]
      exact ⟨List.all_takeWhile, inner⟩
    rw [trimStart, split, blank] at both
    cases both

theorem trim_eq_nil_iff (t : Text) : trim t = [] ↔ isBlank t = true := by
  rw [trim, trimEnd_eq_nil_iff, isBlank_trimStart]

theorem trimmed_trim (t : Text) : (trim t).Trimmed := by
  intro c outer
  rcases outer with first | last
  · obtain ⟨rest, same⟩ : trim t <+: trimStart t := List.rdropWhile_prefix isSpace _
    have head : (trimStart t).head? = some c := by rw [← same, List.head?_append, first]; rfl
    have solid := List.head?_dropWhile_not isSpace t
    rw [trimStart] at head
    rw [head] at solid
    simpa using solid
  · have idempotent : trimEnd (trim t) = trim t := List.rdropWhile_idempotent isSpace (trimStart t)
    exact (trimEnd_eq_self_iff (trim t)).1 idempotent c last

theorem Trimmed.trimEnd_eq {t : Text} (trimmed : t.Trimmed) : trimEnd t = t :=
  (trimEnd_eq_self_iff t).2 fun c last => trimmed c (Or.inr last)

theorem trimmed_nil : Trimmed [] := by
  intro c outer
  simp at outer

theorem Trimmed.stack {upper lower : Text} (above : upper.Trimmed) (below : lower.Trimmed) :
    (stack upper lower).Trimmed := by
  unfold Text.stack
  split_ifs with upperEmpty lowerEmpty
  · exact below
  · exact above
  · intro c outer
    rcases outer with first | last
    · apply above c (Or.inl _)
      cases upper with
      | nil => exact absurd rfl upperEmpty
      | cons d rest => simpa using first
    · apply below c (Or.inr _)
      rw [List.getLast?_append, List.getLast?_cons] at last
      rw [List.getLast?_eq_some_getLast lowerEmpty] at last ⊢
      simpa using last

theorem nil_stack (lower : Text) : stack [] lower = lower := if_pos rfl

theorem stack_nil (upper : Text) : stack upper [] = upper := by
  unfold stack
  split_ifs with empty
  · exact empty.symm
  · rfl
  · contradiction

theorem stack_assoc (t u v : Text) : stack (stack t u) v = stack t (stack u v) := by
  by_cases tEmpty : t = []
  · simp [tEmpty, nil_stack]
  by_cases uEmpty : u = []
  · simp [uEmpty, nil_stack, stack_nil]
  by_cases vEmpty : v = []
  · simp [vEmpty, stack_nil]
  simp [stack, tEmpty, uEmpty, vEmpty]

theorem unlines_cons_cons (line next : Text) (rest : List Text) :
    unlines (line :: next :: rest) = line ++ '\n' :: unlines (next :: rest) := by
  simp [unlines, List.intercalate_cons_cons]

theorem unlines_singleton (line : Text) : unlines [line] = line := by
  simp [unlines, List.intercalate_singleton]

theorem unlines_eq_nil_iff (ls : List Text) (filled : ∀ line ∈ ls, line ≠ []) :
    unlines ls = [] ↔ ls = [] := by
  cases ls with
  | nil => simp [unlines]
  | cons line rest =>
    have solid := filled line List.mem_cons_self
    cases rest with
    | nil => simp [unlines_singleton, solid]
    | cons next rest => simp [unlines_cons_cons]

theorem unlines_cons (line : Text) (rest : List Text) (solid : line ≠ [])
    (filled : ∀ next ∈ rest, next ≠ []) : unlines (line :: rest) = stack line (unlines rest) := by
  cases rest with
  | nil => rw [unlines_singleton]; exact (stack_nil line).symm
  | cons next rest =>
    have below : unlines (next :: rest) ≠ [] := by
      rw [ne_eq, unlines_eq_nil_iff _ filled]
      exact List.cons_ne_nil next rest
    rw [unlines_cons_cons, stack, if_neg solid, if_neg below]

theorem unlines_append (xs ys : List Text) (upper : ∀ line ∈ xs, line ≠ [])
    (lower : ∀ line ∈ ys, line ≠ []) : unlines (xs ++ ys) = stack (unlines xs) (unlines ys) := by
  induction xs with
  | nil => exact (nil_stack _).symm
  | cons line rest ih =>
    obtain ⟨solid, filled⟩ := List.forall_mem_cons.1 upper
    have both : ∀ next ∈ rest ++ ys, next ≠ [] := by
      intro next inside
      exact (List.mem_append.1 inside).elim (filled next) (lower next)
    rw [List.cons_append, unlines_cons line _ solid both, unlines_cons line rest solid filled,
      ih filled, stack_assoc]

theorem lines_ne_nil (t : Text) : t.lines ≠ [] := List.splitOn_ne_nil '\n' t

theorem length_lines (t : Text) : t.lines.length = t.count '\n' + 1 := by
  induction t with
  | nil => rfl
  | cons c rest ih =>
    rw [lines, List.splitOn_cons_eq_if_modifyHead, List.count_cons]
    change (rest.splitOn '\n').length = _ at ih
    split_ifs
    · rw [List.length_cons, ih]
    · rw [List.length_modifyHead, ih]

theorem lines_unlines (ls : List Text) (plain : ∀ line ∈ ls, '\n' ∉ line) (filled : ls ≠ []) :
    (unlines ls).lines = ls :=
  List.splitOn_intercalate '\n' plain filled

theorem lines_append_newline (t u : Text) : (t ++ '\n' :: u).lines = t.lines ++ u.lines :=
  List.splitOn_append_cons_self t u

theorem rows_stack (upper lower : Text) : (stack upper lower).rows = upper.rows ++ lower.rows := by
  by_cases upperEmpty : upper = []
  · simp [upperEmpty, nil_stack, rows]
  by_cases lowerEmpty : lower = []
  · simp [lowerEmpty, stack_nil, rows]
  simp [stack, rows, upperEmpty, lowerEmpty, lines_append_newline]

theorem rows_unlines (ts : List Text) (filled : ∀ t ∈ ts, t ≠ []) :
    (unlines ts).rows = ts.flatMap lines := by
  induction ts with
  | nil => rfl
  | cons t rest ih =>
    obtain ⟨solid, others⟩ := List.forall_mem_cons.1 filled
    rw [unlines_cons t rest solid others, rows_stack, ih others, rows, if_neg solid,
      List.flatMap_cons]

theorem notMem_splitOn (separator : Char) (t : Text) :
    ∀ part ∈ t.splitOn separator, separator ∉ part := by
  induction t with
  | nil => simp
  | cons c rest ih =>
    rw [List.splitOn_cons_eq_if_modifyHead]
    obtain ⟨first, more, same⟩ :=
      List.exists_cons_of_ne_nil (List.splitOn_ne_nil separator rest)
    rw [same] at ih ⊢
    split_ifs with cut
    · simpa using ih
    · have other : separator ≠ c := by
        rintro rfl
        exact cut (beq_self_eq_true _)
      simpa [other] using ih

theorem newline_notMem_lines (t : Text) : ∀ line ∈ t.lines, '\n' ∉ line :=
  notMem_splitOn '\n' t

end Listing.Text
