import Listing.Proofs.Comment.Reader
import Listing.Proofs.Comment.Scan
import Mathlib.Tactic.TFAE

/-!
Removing comments a second time. A second removal finds something exactly if a whole comment stands
in what the first one left, and then its delimiter was put together from both sides of a comment
that is gone. With slashes for both kinds of comments this cannot be.
-/

namespace Listing

/-- A block comment stands somewhere in a text. -/
def Block.Occurs (b : Block) (t : Text) : Prop :=
  ∃ before inner, t = before ++ (b.opening ++ inner) ∧ b.closing <:+: inner

theorem Block.Occurs.closing_infix {b : Block} {t : Text} (occurs : b.Occurs t) :
    b.closing <:+: t := by
  obtain ⟨before, inner, rfl, closed⟩ := occurs
  rw [← List.append_assoc]
  exact closed.trans (List.suffix_append (before ++ b.opening) inner).isInfix

namespace Span

theorem leftOf_sublist (spans : List Span) : (leftOf spans).Sublist (textOf spans) := by
  induction spans with
  | nil => exact List.Sublist.refl []
  | cons span rest ih =>
    cases span with
    | kept c => exact ih.cons_cons c
    | line comment => exact ih.trans (List.sublist_append_right comment (textOf rest))
    | block comment => exact ih.trans (List.sublist_append_right comment (textOf rest))

theorem exists_of_leftOf_eq_append (spans : List Span) (u v : Text) (c : Char)
    (same : leftOf spans = u ++ c :: v) :
    ∃ before after, spans = before ++ .kept c :: after ∧ leftOf before = u ∧ leftOf after = v := by
  induction spans generalizing u with
  | nil => exact absurd same.symm (List.append_ne_nil_of_right_ne_nil u (List.cons_ne_nil c v))
  | cons span rest ih =>
    cases span with
    | kept d =>
      cases u with
      | nil =>
        obtain ⟨rfl, later⟩ := List.cons.inj same
        exact ⟨[], rest, rfl, rfl, later⟩
      | cons e u =>
        obtain ⟨rfl, later⟩ := List.cons.inj same
        obtain ⟨before, after, rfl, above, below⟩ := ih u later
        exact ⟨.kept d :: before, after, rfl, congrArg (d :: ·) above, below⟩
    | line comment =>
      obtain ⟨before, after, rfl, above, below⟩ := ih u same
      exact ⟨.line comment :: before, after, rfl, above, below⟩
    | block comment =>
      obtain ⟨before, after, rfl, above, below⟩ := ih u same
      exact ⟨.block comment :: before, after, rfl, above, below⟩

theorem together_or_across (spans : List Span) (w v : Text) (same : leftOf spans = w ++ v) :
    (∃ after, spans = w.map .kept ++ after ∧ leftOf after = v) ∨
      ∃ x y span after, w = x ++ y ∧ y ≠ [] ∧ spans = x.map .kept ++ span :: after ∧
        span.left = [] ∧ leftOf after = y ++ v := by
  induction w generalizing spans with
  | nil => exact .inl ⟨spans, rfl, same⟩
  | cons c w ih =>
    have across : ∀ span rest, span.left = [] → leftOf (span :: rest) = c :: w ++ v →
        ∃ x y span' after, c :: w = x ++ y ∧ y ≠ [] ∧
          span :: rest = x.map .kept ++ span' :: after ∧ span'.left = [] ∧
            leftOf after = y ++ v := by
      intro span rest comment left
      rw [leftOf, List.flatMap_cons, comment] at left
      exact ⟨[], c :: w, span, rest, rfl, List.cons_ne_nil c w, rfl, comment, left⟩
    match spans with
    | [] => cases same
    | .kept d :: rest =>
      obtain ⟨rfl, later⟩ := List.cons.inj same
      rcases ih rest later with ⟨after, rfl, below⟩ | ⟨x, y, span, after, rfl, rest⟩
      · exact .inl ⟨after, rfl, below⟩
      · obtain ⟨solid, rfl, comment, below⟩ := rest
        exact .inr ⟨d :: x, y, span, after, rfl, solid, rfl, comment, below⟩
    | .line comment :: rest => exact .inr (across _ rest rfl same)
    | .block comment :: rest => exact .inr (across _ rest rfl same)

theorem leftOf_map_kept (w : Text) : leftOf (w.map .kept) = w := by
  induction w with
  | nil => rfl
  | cons c w ih => exact congrArg (c :: ·) ih

theorem textOf_map_kept (w : Text) : textOf (w.map .kept) = w := by
  induction w with
  | nil => rfl
  | cons c w ih => exact congrArg (c :: ·) ih

theorem textOf_kept_append (c : Char) (w : Text) (after : List Span) :
    textOf (.kept c :: (w.map .kept ++ after)) = c :: w ++ textOf after := by
  change c :: textOf (w.map .kept ++ after) = _
  rw [textOf_append, textOf_map_kept, List.cons_append]

end Span

namespace Delimiters

variable (d : Delimiters)

theorem not_isMarked_blocks (t : Text) : ¬d.blocks.isMarked t = true := by
  intro marked
  obtain ⟨m, known, _⟩ := (d.blocks.isMarked_iff t).1 marked
  cases known

theorem leftOf_scan_blocks (t : Text) : Span.leftOf (d.blocks.scan t) = d.block.drop t := by
  have clear : d.blocks.Clear t := fun _ _ _ _ _ _ _ _ => d.not_isMarked_blocks _
  exact (d.blocks.remove_eq_leftOf_scan t clear).symm

theorem drop_sublist (t : Text) : (d.block.drop t).Sublist t := by
  have kept := Span.leftOf_sublist (d.blocks.scan t)
  rwa [leftOf_scan_blocks, textOf_scan] at kept

theorem drop_eq_self_iff (t : Text) : d.block.drop t = t ↔ ¬d.block.Occurs t := by
  induction t using d.blocks.scan_induction with
  | nil =>
    refine iff_of_true (by rw [Block.drop]) ?_
    rintro ⟨before, inner, same, _⟩
    exact d.opens.solid (List.append_eq_nil_iff.1 (List.append_eq_nil_iff.1 same.symm).2).1
  | line t marked => exact absurd marked (d.not_isMarked_blocks t)
  | block inner tail unmarked closed =>
    refine iff_of_false ?_ (not_not.2 ?_)
    · intro same
      change d.block.drop (d.block.opening ++ (inner ++ tail)) =
        d.block.opening ++ (inner ++ tail) at same
      rw [Block.drop_block d.block d.opens.solid d.closes.solid inner tail closed] at same
      have shorter := (d.drop_sublist tail).length_le
      have solid := List.length_pos_of_ne_nil d.opens.solid
      have sizes := congrArg List.length same
      rw [List.length_append, List.length_append] at sizes
      omega
    · have ends := (Text.append_of_splitBehind? _ _ _ closed).2
      exact ⟨[], inner ++ tail, rfl, ends.isInfix.trans (List.prefix_append inner tail).isInfix⟩
  | kept c rest unmarked unclosed ih =>
    rw [Block.drop_cons d.block d.opens.solid d.closes.solid c rest unclosed, List.cons_inj_right,
      ih, not_iff_not]
    constructor
    · rintro ⟨before, inner, rfl, closed⟩
      exact ⟨c :: before, inner, rfl, closed⟩
    · rintro ⟨before, inner, same, closed⟩
      cases before with
      | nil => exact absurd closed (unclosed inner same)
      | cons e before => exact ⟨before, inner, (List.cons.inj same).2, closed⟩

/-- A whole comment stands somewhere in a text. -/
def Complete (d : Delimiters) (t : Text) : Prop :=
  (∃ m, d.marker? = some m ∧ m <:+: t) ∨ d.block.Occurs t

theorem cut_sublist (t : Text) : (d.cut t).Sublist t := by
  cases known : d.marker? with
  | none => rw [cut_of_none d known]
  | some m =>
    rw [cut_of_marker d known]
    exact dropLineComments_sublist (d.marks m known) t

theorem not_marker_infix_cut {m : Text} (known : d.marker? = some m) (t : Text) :
    ¬m <:+: d.cut t := by
  rw [cut_of_marker d known]
  exact not_marker_infix_dropLineComments (d.marks m known) t

theorem cut_eq_self_iff (t : Text) : d.cut t = t ↔ ¬∃ m, d.marker? = some m ∧ m <:+: t := by
  constructor
  · rintro same ⟨m, known, inside⟩
    exact d.not_marker_infix_cut known t (same.symm ▸ inside)
  · intro unmarked
    cases known : d.marker? with
    | none => exact cut_of_none d known t
    | some m =>
      rw [cut_of_marker d known]
      exact dropLineComments_eq_self t fun inside => unmarked ⟨m, known, inside⟩

theorem remove_eq_self_iff (t : Text) : d.remove t = t ↔ ¬d.Complete t := by
  rw [Complete, not_or, ← cut_eq_self_iff, ← drop_eq_self_iff]
  constructor
  · intro same
    -- Both passes only take away, so neither has taken anything.
    have dropped : (d.remove t).Sublist (d.cut t) := d.drop_sublist (d.cut t)
    rw [same] at dropped
    have whole := (d.cut_sublist t).antisymm dropped
    exact ⟨whole, by rwa [remove, whole] at same⟩
  · rintro ⟨whole, same⟩
    rw [remove, whole, same]

/-- At a comment that the second pass takes, what is left before and what is left behind make a
delimiter: a marker, or an opening that something behind it closes. -/
def Rejoins (d : Delimiters) (t : Text) : Prop :=
  ∃ before span after, d.blocks.scan (d.cut t) = before ++ span :: after ∧ span.left = [] ∧
    ∃ u x y v, Span.leftOf before = u ++ x ∧ Span.leftOf after = y ++ v ∧ x ≠ [] ∧ y ≠ [] ∧
      (d.marker? = some (x ++ y) ∨ d.block.opening = x ++ y ∧ d.block.closing <:+: v)

theorem not_closing_infix_leftOf (t : Text) (c : Char) (w : Text) (before after : List Span)
    (split : d.blocks.scan t = before ++ .kept c :: (w.map .kept ++ after))
    (opening : d.block.opening = c :: w) : ¬d.block.closing <:+: Span.leftOf after := by
  have scanned := d.blocks.scan_textOf t before _ split
  have behind : d.blocks.scan (Span.textOf after) = after := by
    apply d.blocks.scan_textOf t (before ++ .kept c :: w.map .kept) after
    rw [split, List.append_assoc]
    rfl
  rw [Span.textOf_kept_append, ← opening] at scanned
  rcases d.blocks.closed_or_unclosed (d.block.opening ++ Span.textOf after) with closed | unclosed
  · obtain ⟨inner, tail, same, closed⟩ := closed
    rw [same, d.blocks.scan_block inner tail (d.not_isMarked_blocks _) closed] at scanned
    cases scanned
  · have still : ¬d.block.closing <:+: Span.textOf after := unclosed _ rfl
    have stays := (d.drop_eq_self_iff _).2 fun occurs => still occurs.closing_infix
    rwa [← behind, leftOf_scan_blocks, stays]

theorem across_of_leftOf (t u w v : Text) (solid : w ≠ [])
    (left : Span.leftOf (d.blocks.scan t) = u ++ (w ++ v))
    (apart : ∀ before c rest after, w = c :: rest →
      d.blocks.scan t = before ++ .kept c :: (rest.map .kept ++ after) →
      Span.leftOf after ≠ v) :
    ∃ before span after, d.blocks.scan t = before ++ span :: after ∧ span.left = [] ∧
      ∃ x y, Span.leftOf before = u ++ x ∧ Span.leftOf after = y ++ v ∧ x ≠ [] ∧ y ≠ [] ∧
        w = x ++ y := by
  obtain ⟨c, rest, rfl⟩ := List.exists_cons_of_ne_nil solid
  obtain ⟨before, spans, split, above, below⟩ := Span.exists_of_leftOf_eq_append _ u _ c left
  rcases Span.together_or_across spans rest v below with ⟨after, rfl, same⟩ | found
  · exact absurd same (apart before c rest after rfl split)
  · obtain ⟨x, y, span, after, rfl, later, rfl, comment, behind⟩ := found
    refine ⟨before ++ .kept c :: x.map .kept, span, after, ?_, comment, c :: x, y, ?_, behind,
      List.cons_ne_nil c x, later, rfl⟩
    · rw [split, List.append_assoc, List.cons_append]
    · rw [Span.leftOf_append, above]
      change u ++ c :: Span.leftOf (x.map .kept) = _
      rw [Span.leftOf_map_kept]

theorem rejoins_of_marker_infix (t m : Text) (known : d.marker? = some m)
    (inside : m <:+: d.remove t) : d.Rejoins t := by
  obtain ⟨u, v, same⟩ := inside
  have left := d.leftOf_scan_blocks (d.cut t)
  have across := d.across_of_leftOf (d.cut t) u m v (d.marks m known).solid ?_ ?_
  · obtain ⟨before, span, after, split, comment, x, y, above, below, xs, ys, rfl⟩ := across
    exact ⟨before, span, after, split, comment, u, x, y, v, above, below, xs, ys, .inl known⟩
  · rw [left, ← List.append_assoc]
    exact same.symm
  · rintro before c rest after rfl split -
    apply d.not_marker_infix_cut known t
    have text := d.blocks.textOf_scan (d.cut t)
    rw [split, Span.textOf_append, Span.textOf_kept_append] at text
    exact ⟨Span.textOf before, Span.textOf after, by rw [← text, List.append_assoc]⟩

theorem rejoins_of_occurs (t : Text) (occurs : d.block.Occurs (d.remove t)) : d.Rejoins t := by
  obtain ⟨u, behind, same, closed⟩ := occurs
  have left := d.leftOf_scan_blocks (d.cut t)
  have across := d.across_of_leftOf (d.cut t) u d.block.opening behind d.opens.solid ?_ ?_
  · obtain ⟨before, span, after, split, comment, x, y, above, below, xs, ys, opening⟩ := across
    exact ⟨before, span, after, split, comment, u, x, y, behind, above, below, xs, ys,
      .inr ⟨opening, closed⟩⟩
  · exact left.trans same
  · rintro before c rest after opening split rfl
    exact d.not_closing_infix_leftOf (d.cut t) c rest before after split opening closed

theorem complete_of_rejoins (t : Text) (rejoins : d.Rejoins t) : d.Complete (d.remove t) := by
  obtain ⟨before, span, after, split, comment, u, x, y, v, above, below, -, -, joined⟩ := rejoins
  have whole : d.remove t = u ++ (x ++ y ++ v) := by
    rw [remove, ← leftOf_scan_blocks, split, Span.leftOf_append, above]
    change u ++ x ++ (span.left ++ Span.leftOf after) = _
    rw [comment, below, List.nil_append, List.append_assoc, List.append_assoc]
  rw [whole]
  rcases joined with known | ⟨opening, closed⟩
  · exact .inl ⟨x ++ y, known, u, v, by rw [List.append_assoc]⟩
  · exact .inr ⟨u, v, by rw [opening], closed⟩

theorem complete_remove_iff (t : Text) : d.Complete (d.remove t) ↔ d.Rejoins t := by
  refine ⟨?_, d.complete_of_rejoins t⟩
  rintro (⟨m, known, inside⟩ | occurs)
  · exact d.rejoins_of_marker_infix t m known inside
  · exact d.rejoins_of_occurs t occurs

theorem remove_remove_tfae (t : Text) :
    [d.remove (d.remove t) = d.remove t, ¬d.Complete (d.remove t), ¬d.Rejoins t].TFAE := by
  tfae_have 1 ↔ 2 := d.remove_eq_self_iff (d.remove t)
  tfae_have 2 ↔ 3 := not_congr (d.complete_remove_iff t)
  tfae_finish

theorem opening_prefix_of_comment (w : Text) (comment : d.blocks.Comment w) :
    d.block.opening <+: w := by
  cases comment with
  | line m inner known => cases known
  | block inner closed => exact List.prefix_append d.block.opening inner

theorem infix_of_leftOf_before (t : Text) (before : List Span) (span : Span) (after : List Span)
    (split : d.blocks.scan t = before ++ span :: after) (comment : span.left = []) (u : Text)
    (c : Char) (above : Span.leftOf before = u ++ [c]) : c :: d.block.opening <:+: t := by
  obtain ⟨first, others, rfl, -, nothing⟩ := Span.exists_of_leftOf_eq_append before u [] c above
  -- More comments may stand between the two; the next one is what counts.
  have next : ∃ next rest, others ++ span :: after = next :: rest ∧ next.left = [] := by
    cases others with
    | nil => exact ⟨span, after, rfl, comment⟩
    | cons other others => exact ⟨other, _, rfl, (List.append_eq_nil_iff.1 nothing).1⟩
  obtain ⟨next, rest, same, empty⟩ := next
  rw [List.append_assoc, List.cons_append, same] at split
  have text := d.blocks.textOf_scan t
  rw [split, Span.textOf_append] at text
  have taken : next ∈ d.blocks.scan t := by
    rw [split]
    exact List.mem_append_right _ (List.mem_cons_of_mem _ List.mem_cons_self)
  rcases d.blocks.comment_of_mem_scan t next taken with ⟨e, rfl⟩ | whole
  · cases empty
  · obtain ⟨inner, begins⟩ := d.opening_prefix_of_comment next.text whole
    refine ⟨Span.textOf first, inner ++ Span.textOf rest, ?_⟩
    rw [← text]
    change _ = Span.textOf first ++ c :: (next.text ++ Span.textOf rest)
    rw [← begins, List.append_assoc, List.append_assoc, List.cons_append]

theorem not_rejoins_slashed (t : Text) : ¬slashed.Rejoins t := by
  rintro ⟨before, span, after, split, comment, u, x, y, v, above, -, xs, ys, joined⟩
  have pair : x ++ y = ['/', '/'] ∨ x ++ y = ['/', '*'] := by
    rcases joined with known | ⟨opening, -⟩
    · exact .inl (Option.some.inj known).symm
    · exact .inr opening.symm
  have slash : x = ['/'] := by
    match x, y with
    | [c], [e] => rcases pair with same | same <;> rw [(List.cons.inj same).1]
    | [], _ => exact absurd rfl xs
    | _, [] => exact absurd rfl ys
    | [_], _ :: _ :: _ => rcases pair with same | same <;> cases same
    | _ :: _ :: _, _ :: _ => rcases pair with same | same <;> simp at same
  subst slash
  have slashes := slashed.infix_of_leftOf_before _ before span after split comment u '/' above
  apply slashed.not_marker_infix_cut rfl t
  exact (List.prefix_append ['/', '/'] ['*']).isInfix.trans slashes

end Delimiters

namespace Reader

theorem nextLine_of_begins (s : Reader) (c : Char) (reads : s ≠ .comment)
    (begins : s.next c = .comment) : s.nextLine = .code := by
  have outside := ((next_eq_comment_iff s c reads).1 begins).2
  cases s with
  | long q closing => cases outside
  | _ => rfl

/-- A reader that reads what one has kept keeps all of it, and a comment that is gone ends its line
as well as one that is read. -/
theorem kept_again (t : Text) :
    (∀ s : Reader, s ≠ .comment → s.kept (s.kept t) = s.kept t) ∧
      ∀ s : Reader, s.nextLine = .code → s.kept (comment.kept t) = comment.kept t := by
  induction t with
  | nil => exact ⟨fun _ _ => rfl, fun _ _ => rfl⟩
  | cons c rest ih =>
    obtain ⟨again, behind⟩ := ih
    constructor
    · intro s reads
      by_cases begins : s.next c = .comment
      · have gone : s.kept (c :: rest) = comment.kept rest := by
          rw [kept, if_pos begins, begins]
        rw [gone]
        exact behind s (s.nextLine_of_begins c reads begins)
      · rw [kept_cons s c rest begins, kept_cons s c _ begins, again _ begins]
    · intro s ends
      by_cases feed : c = '\n'
      · subst feed
        rw [kept_newline, kept_newline, ends]
        exact congrArg ('\n' :: ·) (again .code (by simp))
      · have stays : comment.kept (c :: rest) = comment.kept rest := by
          have step : comment.next c = .comment := next_of_ne _ c feed
          rw [kept, if_pos step, step]
        rw [stays]
        exact behind s ends

end Reader

/-- A second removal of comments finds nothing in the families where it cannot: those with slashes,
with literals, and with signs at the start of a line. With slashes, no whole comment is left. -/
theorem strip_idempotent (t : Text) :
    (CommentStyle.cStyle.strip (CommentStyle.cStyle.strip t) = CommentStyle.cStyle.strip t ∧
        CommentStyle.pythonStyle.strip (CommentStyle.pythonStyle.strip t) =
          CommentStyle.pythonStyle.strip t ∧
        CommentStyle.shellStyle.strip (CommentStyle.shellStyle.strip t) =
          CommentStyle.shellStyle.strip t) ∧
      ¬['/', '/'] <:+: CommentStyle.cStyle.strip t ∧
      ¬∃ before inner, CommentStyle.cStyle.strip t = before ++ (['/', '*'] ++ inner) ∧
        ['*', '/'] <:+: inner := by
  have complete : ¬Delimiters.slashed.Complete (Delimiters.slashed.remove t) :=
    mt (Delimiters.slashed.complete_remove_iff t).1 (Delimiters.not_rejoins_slashed t)
  refine ⟨⟨?_, ?_, dropMarkedLines_again '#' t⟩, ?_, ?_⟩
  · exact (Delimiters.slashed.remove_eq_self_iff _).2 complete
  · change dropHashComments (dropHashComments t) = dropHashComments t
    rw [Reader.dropHashComments_eq, Reader.dropHashComments_eq]
    exact (Reader.kept_again t).1 .code (by simp)
  · exact fun marker => complete (.inl ⟨['/', '/'], rfl, marker⟩)
  · exact fun occurs => complete (.inr occurs)

/-- In the other families with delimiters, a second removal finds nothing exactly if the first one
leaves no whole comment, and that is, if none was put together at a block that it took. -/
theorem strip_again_tfae (t : Text) :
    [CommentStyle.markup.strip (CommentStyle.markup.strip t) = CommentStyle.markup.strip t,
        ¬Delimiters.angled.Complete (CommentStyle.markup.strip t),
        ¬Delimiters.angled.Rejoins t].TFAE ∧
      [CommentStyle.cssStyle.strip (CommentStyle.cssStyle.strip t) = CommentStyle.cssStyle.strip t,
        ¬Delimiters.starred.Complete (CommentStyle.cssStyle.strip t),
        ¬Delimiters.starred.Rejoins t].TFAE ∧
      [CommentStyle.sqlStyle.strip (CommentStyle.sqlStyle.strip t) = CommentStyle.sqlStyle.strip t,
        ¬Delimiters.dashed.Complete (CommentStyle.sqlStyle.strip t),
        ¬Delimiters.dashed.Rejoins t].TFAE :=
  ⟨Delimiters.angled.remove_remove_tfae t, Delimiters.starred.remove_remove_tfae t,
    Delimiters.dashed.remove_remove_tfae t⟩

/-- Around a block that is gone, a delimiter comes together, and a second removal takes more. -/
theorem strip_again_differs :
    (CommentStyle.markup.strip "<!-<!-- a -->- b -->".toList = "<!-- b -->".toList ∧
        CommentStyle.markup.strip "<!-- b -->".toList = []) ∧
      (CommentStyle.cssStyle.strip "//* a */* b */".toList = "/* b */".toList ∧
        CommentStyle.cssStyle.strip "/* b */".toList = []) ∧
      CommentStyle.sqlStyle.strip "-/* a */- b".toList = "-- b".toList ∧
        CommentStyle.sqlStyle.strip "-- b".toList = [] := by
  decide +kernel

end Listing
