import Listing.Proofs.Text.Compact

/-!
The lines with content of a text. Texts one below the other have the content lines of both, a text
without content lines is blank, and dropping blank lines keeps them all. Whitespace around a text
holds none, so trimming a text only makes the first of them begin later.
-/

namespace Listing.Text

theorem isBlank_unlines (ls : List Text) : (unlines ls).isBlank = ls.all isBlank := by
  induction ls with
  | nil => rfl
  | cons line rest ih =>
    cases rest with
    | nil => simp [unlines_singleton]
    | cons next rest =>
      have feed : isBlank ('\n' :: unlines (next :: rest)) = isBlank (unlines (next :: rest)) := rfl
      rw [unlines_cons_cons, isBlank, List.all_append, ← isBlank, ← isBlank, feed, ih]
      rfl

theorem isBlank_trimEnd (t : Text) : isBlank (trimEnd t) = isBlank t := by
  have again : trimEnd (trimEnd t) = trimEnd t := List.rdropWhile_idempotent isSpace t
  have same : isBlank (trimEnd t) = true ↔ isBlank t = true := by
    rw [← trimEnd_eq_nil_iff, again, trimEnd_eq_nil_iff]
  rwa [Bool.eq_iff_iff]

theorem isBlank_append_blank (t w : Text) (blank : w.isBlank = true) :
    (t ++ w).isBlank = t.isBlank := by
  rw [isBlank, List.all_append, ← isBlank, ← isBlank, blank, Bool.and_true]

theorem trimEnd_append_blank (t w : Text) (blank : w.isBlank = true) :
    trimEnd (t ++ w) = trimEnd t := by
  have gone : w.reverse.dropWhile isSpace = [] := by
    have empty := (trimStart_eq_nil_iff w.reverse).2
    rw [isBlank, List.all_reverse] at empty
    exact empty blank
  rw [trimEnd, List.reverse_append, List.dropWhile_append, gone]
  rfl

theorem contentLines_eq_nil_iff_lines (t : Text) :
    contentLines t = [] ↔ ∀ line ∈ t.lines, line.isBlank = true := by
  rw [contentLines, List.map_eq_nil_iff, List.filter_eq_nil_iff]
  simp only [Bool.not_eq_true', Bool.not_eq_false]

theorem contentLines_eq_nil_iff (t : Text) : contentLines t = [] ↔ t.isBlank = true := by
  have joined : unlines t.lines = t := List.intercalate_splitOn '\n'
  rw [contentLines_eq_nil_iff_lines, ← List.all_eq_true, ← isBlank_unlines, joined]

theorem contentLines_of_plain (line : Text) (plain : '\n' ∉ line) :
    contentLines line = if line.isBlank then [] else [trimEnd line] := by
  have one : line.lines = [line] := List.splitOn_eq_singleton plain
  rw [contentLines, one]
  cases blank : line.isBlank <;> simp [blank]

theorem contentLines_append_newline (t u : Text) :
    contentLines (t ++ '\n' :: u) = contentLines t ++ contentLines u := by
  simp only [contentLines, lines_append_newline, List.filter_append, List.map_append]

theorem contentLines_unlines (ts : List Text) :
    contentLines (unlines ts) = ts.flatMap contentLines := by
  induction ts with
  | nil => rfl
  | cons t rest ih =>
    cases rest with
    | nil => rw [unlines_singleton, List.flatMap_singleton]
    | cons next rest => rw [unlines_cons_cons, contentLines_append_newline, ih, ← List.flatMap_cons]

theorem Solid.contentLines_eq {line : Text} (solid : line.Solid) : contentLines line = [line] := by
  rw [contentLines_of_plain line solid.plain, solid.not_blank, solid.trimmed]
  rfl

theorem contentLines_dropBlankLines (t : Text) :
    contentLines (dropBlankLines t) = contentLines t := by
  calc contentLines (dropBlankLines t)
      = (contentLines t).flatMap contentLines := by
        rw [dropBlankLines_eq_unlines, contentLines_unlines]
    _ = (contentLines t).flatMap fun line => [line] :=
        List.flatMap_congr fun line inside => (solid_contentLines t line inside).contentLines_eq
    _ = contentLines t := by simp

theorem isBlank_dropBlankLines (t : Text) : (dropBlankLines t).isBlank = t.isBlank := by
  rw [Bool.eq_iff_iff, ← contentLines_eq_nil_iff, contentLines_dropBlankLines,
    contentLines_eq_nil_iff]

theorem plain_or_last_line (t : Text) :
    '\n' ∉ t ∨ ∃ above line : Text, t = above ++ '\n' :: line ∧ '\n' ∉ line := by
  by_cases feed : '\n' ∈ t
  · obtain ⟨line, above, reversed, plain⟩ := List.eq_append_cons_of_mem (List.mem_reverse.2 feed)
    refine Or.inr ⟨above.reverse, line.reverse, ?_, by simpa using plain⟩
    rw [← List.reverse_reverse t, reversed]
    simp
  · exact Or.inl feed

theorem contentLines_append_blank_line (t w : Text) (plain : '\n' ∉ w) (blank : w.isBlank = true) :
    contentLines (t ++ w) = contentLines t := by
  have last : ∀ line : Text, '\n' ∉ line → contentLines (line ++ w) = contentLines line := by
    intro line single
    have both : '\n' ∉ line ++ w := by simp [single, plain]
    rw [contentLines_of_plain _ both, contentLines_of_plain line single,
      isBlank_append_blank line w blank, trimEnd_append_blank line w blank]
  rcases plain_or_last_line t with single | ⟨above, line, rfl, single⟩
  · exact last t single
  · rw [List.append_assoc, List.cons_append, contentLines_append_newline, last line single,
      contentLines_append_newline]

theorem contentLines_append_blank (t w : Text) (blank : w.isBlank = true) :
    contentLines (t ++ w) = contentLines t := by
  by_cases feed : '\n' ∈ w
  · obtain ⟨line, below, rfl, plain⟩ := List.eq_append_cons_of_mem feed
    rw [isBlank, List.all_append, List.all_cons, Bool.and_eq_true, Bool.and_eq_true] at blank
    have none := (contentLines_eq_nil_iff below).2 blank.2.2
    rw [← List.append_assoc, contentLines_append_newline, none, List.append_nil,
      contentLines_append_blank_line t line plain blank.1]
  · exact contentLines_append_blank_line t w feed blank

theorem exists_trimStart_append (t : Text) : ∃ w : Text, w.isBlank = true ∧ t = w ++ trimStart t :=
  ⟨t.takeWhile isSpace, List.all_takeWhile, List.takeWhile_append_dropWhile.symm⟩

theorem exists_trimEnd_append (t : Text) : ∃ w : Text, w.isBlank = true ∧ t = trimEnd t ++ w := by
  refine ⟨(t.reverse.takeWhile isSpace).reverse, ?_, ?_⟩
  · rw [isBlank, List.all_reverse, List.all_takeWhile]
  · rw [trimEnd, ← List.reverse_append, List.takeWhile_append_dropWhile, List.reverse_reverse]

theorem contentLines_trimEnd (t : Text) : contentLines (trimEnd t) = contentLines t := by
  obtain ⟨w, blank, split⟩ := exists_trimEnd_append t
  rw [← contentLines_append_blank (trimEnd t) w blank, ← split]

theorem trimStart_trimEnd_cons_space (c : Char) (t : Text) (space : isSpace c = true)
    (solid : t.isBlank = false) : trimStart (trimEnd (c :: t)) = trimStart (trimEnd t) := by
  have behind : trimEnd (c :: t) = c :: trimEnd t := trimEnd_append [c] t solid
  rw [behind, trimStart, List.dropWhile_cons_of_pos space]
  rfl

theorem contentLines_cons_space_line (c : Char) (line : Text) (rest : List Text)
    (space : isSpace c = true) (other : c ≠ '\n') (plain : '\n' ∉ line) :
    (contentLines (c :: line) ++ rest).modifyHead trimStart =
      (contentLines line ++ rest).modifyHead trimStart := by
  have both : '\n' ∉ c :: line := by simp [plain, other.symm]
  have blank : isBlank (c :: line) = line.isBlank := by simp [isBlank, space]
  rw [contentLines_of_plain _ both, contentLines_of_plain line plain, blank]
  cases solid : line.isBlank with
  | true => rfl
  | false => simp [trimStart_trimEnd_cons_space c line space solid]

theorem contentLines_cons_space (c : Char) (t : Text) (space : isSpace c = true) :
    (contentLines (c :: t)).modifyHead trimStart = (contentLines t).modifyHead trimStart := by
  by_cases other : c = '\n'
  · subst other
    rw [← List.nil_append ('\n' :: t), contentLines_append_newline]
    rfl
  by_cases feed : '\n' ∈ t
  · obtain ⟨line, below, rfl, plain⟩ := List.eq_append_cons_of_mem feed
    rw [← List.cons_append, contentLines_append_newline, contentLines_append_newline]
    exact contentLines_cons_space_line c line _ space other plain
  · simpa using contentLines_cons_space_line c t [] space other feed

theorem contentLines_trimStart_head (t : Text) :
    (contentLines (trimStart t)).modifyHead trimStart = (contentLines t).modifyHead trimStart := by
  induction t with
  | nil => rfl
  | cons c rest ih =>
    cases space : isSpace c with
    | true =>
      have gone : trimStart (c :: rest) = trimStart rest := List.dropWhile_cons_of_pos space
      rw [gone, ih, contentLines_cons_space c rest space]
    | false =>
      have stays : trimStart (c :: rest) = c :: rest := List.dropWhile_cons_of_neg (by simp [space])
      rw [stays]

theorem trimStart_trimEnd_cons (c : Char) (rest : Text) (solid : isSpace c = false) :
    trimStart (trimEnd (c :: rest)) = trimEnd (c :: rest) := by
  have filled : trimEnd (c :: rest) ≠ [] := by simp [trimEnd_eq_nil_iff, isBlank, solid]
  obtain ⟨d, others, same⟩ := List.exists_cons_of_ne_nil filled
  obtain ⟨tail, split⟩ : trimEnd (c :: rest) <+: c :: rest := List.rdropWhile_prefix isSpace _
  rw [same, List.cons_append, List.cons.injEq] at split
  rw [same, split.1]
  exact List.dropWhile_cons_of_neg (by simp [solid])

theorem modifyHead_contentLines_cons (c : Char) (rest : Text) (solid : isSpace c = false) :
    (contentLines (c :: rest)).modifyHead trimStart = contentLines (c :: rest) := by
  have first : ∀ line : Text, '\n' ∉ c :: line →
      contentLines (c :: line) = [trimEnd (c :: line)] := by
    intro line plain
    have filled : isBlank (c :: line) = false := by simp [isBlank, solid]
    rw [contentLines_of_plain _ plain, filled]
    rfl
  have other : '\n' ≠ c := by
    rintro rfl
    cases solid
  by_cases feed : '\n' ∈ rest
  · obtain ⟨line, below, rfl, plain⟩ := List.eq_append_cons_of_mem feed
    rw [← List.cons_append, contentLines_append_newline, first line (by simp [plain, other]),
      List.singleton_append, List.modifyHead_cons, trimStart_trimEnd_cons c line solid]
  · rw [first rest (by simp [feed, other]), List.modifyHead_cons,
      trimStart_trimEnd_cons c rest solid]

/-- Trimming keeps the lines with content of a text; only the first begins later. -/
theorem contentLines_trim (t : Text) :
    contentLines (trim t) = (contentLines t).modifyHead trimStart := by
  rw [trim, contentLines_trimEnd, ← contentLines_trimStart_head t]
  cases start : trimStart t with
  | nil => rfl
  | cons c rest =>
    have solid : isSpace c = false := by
      have first := List.head?_dropWhile_not isSpace t
      rw [trimStart] at start
      simpa [start] using first
    exact (modifyHead_contentLines_cons c rest solid).symm

end Listing.Text
