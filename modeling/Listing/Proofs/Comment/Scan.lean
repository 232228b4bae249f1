import Listing.Comment.Removal
import Listing.Proofs.Comment.Line
import Mathlib.Data.List.Infix

/-!
Line and block comments found in one pass. A scanner reads a text from the left. Where it stands it
takes a line comment, or else a block comment that something closes, or else one character, and only
such characters are left. The removal makes two passes, lines first. It leaves the same wherever no
marker begins inside of a block that the scanner takes, since then the first pass cuts no block.
-/

namespace Listing

namespace Text

/-- A text divided behind the first place where a mark stands. -/
def splitBehind? (mark : Text) : Text → Option (Text × Text)
  | [] => none
  | c :: rest =>
    if mark <+: c :: rest then some (mark, (c :: rest).drop mark.length)
    else (splitBehind? mark rest).map fun (upper, lower) => (c :: upper, lower)

variable {mark : Text}

theorem splitBehind?_cons_eq_some_iff (c : Char) (rest upper lower : Text)
    (other : ¬mark <+: c :: rest) :
    splitBehind? mark (c :: rest) = some (upper, lower) ↔
      ∃ more, upper = c :: more ∧ splitBehind? mark rest = some (more, lower) := by
  rw [splitBehind?, if_neg other, Option.map_eq_some_iff]
  constructor
  · rintro ⟨⟨more, below⟩, found, same⟩
    cases same
    exact ⟨more, rfl, found⟩
  · rintro ⟨more, rfl, found⟩
    exact ⟨(more, lower), found, rfl⟩

theorem append_of_splitBehind? (t upper lower : Text)
    (found : splitBehind? mark t = some (upper, lower)) : t = upper ++ lower ∧ mark <:+ upper := by
  induction t generalizing upper with
  | nil => cases found
  | cons c rest ih =>
    by_cases here : mark <+: c :: rest
    · rw [splitBehind?, if_pos here] at found
      cases found
      exact ⟨(List.prefix_iff_eq_append.1 here).symm, List.suffix_refl mark⟩
    · obtain ⟨more, rfl, later⟩ := (splitBehind?_cons_eq_some_iff c rest _ _ here).1 found
      obtain ⟨rfl, ends⟩ := ih more later
      exact ⟨rfl, ends.trans (List.suffix_cons c more)⟩

theorem splitBehind?_eq_none_iff (solid : mark ≠ []) (t : Text) :
    splitBehind? mark t = none ↔ ¬mark <:+: t := by
  induction t with
  | nil => exact iff_of_true rfl fun inside => solid (List.infix_nil.1 inside)
  | cons c rest ih =>
    rw [splitBehind?, List.infix_cons_iff, not_or]
    split_ifs with here
    · exact iff_of_false (by simp) fun none => none.1 here
    · rw [Option.map_eq_none_iff, ih]
      exact (and_iff_right here).symm

theorem splitBehind?_append (solid : mark ≠ []) (upper lower other : Text)
    (found : splitBehind? mark (upper ++ lower) = some (upper, lower)) :
    splitBehind? mark (upper ++ other) = some (upper, other) := by
  induction upper with
  | nil => exact absurd (List.suffix_nil.1 (append_of_splitBehind? _ _ _ found).2) solid
  | cons c rest ih =>
    rw [List.cons_append] at found ⊢
    by_cases here : mark <+: c :: (rest ++ lower)
    · rw [splitBehind?, if_pos here] at found
      obtain rfl : mark = c :: rest := congrArg Prod.fst (Option.some.inj found)
      have again : c :: rest <+: c :: (rest ++ other) := List.prefix_append (c :: rest) other
      rw [splitBehind?, if_pos again, ← List.cons_append, List.drop_left]
    · obtain ⟨more, same, later⟩ := (splitBehind?_cons_eq_some_iff c _ _ _ here).1 found
      obtain rfl := (List.cons.inj same).2
      have ends := (append_of_splitBehind? _ _ _ later).2
      have elsewhere : ¬mark <+: c :: (rest ++ other) := by
        intro starts
        apply here
        have short : mark.length ≤ (c :: rest).length := ends.length_le.trans (Nat.le_succ _)
        rw [← List.cons_append] at starts ⊢
        have within := List.prefix_of_prefix_length_le starts (List.prefix_append _ other) short
        exact List.prefix_append_of_prefix within
      rw [splitBehind?_cons_eq_some_iff c _ _ _ elsewhere]
      exact ⟨rest, rfl, ih later⟩

end Text

namespace Block

/-- What follows an opening up to its closing, and what follows the closing. -/
def Closes (b : Block) (inner tail : Text) : Prop :=
  Text.splitBehind? b.closing (inner ++ tail) = some (inner, tail)

def Unclosed (b : Block) (t : Text) : Prop :=
  ∀ inner, t = b.opening ++ inner → ¬b.closing <:+: inner

variable (b : Block)

theorem after?_eq (closes : b.closing ≠ []) (t : Text) :
    b.after? t = (Text.splitBehind? b.closing t).map Prod.snd := by
  induction t with
  | nil => rfl
  | cons c rest ih =>
    rw [after?, Text.splitBehind?]
    by_cases here : b.closing <+: c :: rest
    · obtain ⟨n, count⟩ := Nat.exists_eq_succ_of_ne_zero (mt List.length_eq_zero_iff.1 closes)
      rw [if_pos (List.isPrefixOf_iff_prefix.2 here), if_pos here, count]
      rfl
    · rw [if_neg (mt List.isPrefixOf_iff_prefix.1 here), if_neg here, ih, Option.map_map]
      rfl

section
variable (opens : b.opening ≠ []) (closes : b.closing ≠ [])
include opens

theorem drop_opening (c : Char) (rest : Text) :
    rest.drop (b.opening.length - 1) = (c :: rest).drop b.opening.length := by
  obtain ⟨n, count⟩ := Nat.exists_eq_succ_of_ne_zero (mt List.length_eq_zero_iff.1 opens)
  rw [count]
  rfl

include closes

theorem drop_block (inner tail : Text) (found : b.Closes inner tail) :
    b.drop (b.opening ++ (inner ++ tail)) = b.drop tail := by
  obtain ⟨c, more, start⟩ := List.exists_cons_of_ne_nil opens
  have behind : (more ++ (inner ++ tail)).drop (b.opening.length - 1) = inner ++ tail := by
    rw [drop_opening b opens c, ← List.cons_append, ← start, List.drop_left]
  have tails : b.after? (inner ++ tail) = some tail := by
    rw [after?_eq b closes, found]
    rfl
  conv_lhs => rw [start, List.cons_append, drop]
  rw [if_pos]
  · split
    · next rest reached =>
      rw [behind, tails] at reached
      cases reached
      rfl
    · next stuck =>
      rw [behind, tails] at stuck
      cases stuck
  · rw [List.isPrefixOf_iff_prefix, start]
    exact List.prefix_append (c :: more) (inner ++ tail)

theorem drop_cons (c : Char) (rest : Text) (unclosed : b.Unclosed (c :: rest)) :
    b.drop (c :: rest) = c :: b.drop rest := by
  rw [drop]
  split
  · next starts =>
    obtain ⟨inner, same⟩ := List.isPrefixOf_iff_prefix.1 starts
    have stuck : b.after? inner = none := by
      rw [after?_eq b closes, Option.map_eq_none_iff, Text.splitBehind?_eq_none_iff closes]
      exact unclosed inner same.symm
    have behind : rest.drop (b.opening.length - 1) = inner := by
      rw [drop_opening b opens c, ← same, List.drop_left]
    split
    · next reached =>
      rw [behind, stuck] at reached
      cases reached
    · rfl
  · rfl

end

end Block

/-- What a scanner takes at a place: a character, which is left, or a whole comment. -/
inductive Span where
  | kept (c : Char)
  | line (comment : Text)
  | block (comment : Text)
  deriving DecidableEq, Repr

namespace Span

def text : Span → Text
  | .kept c => [c]
  | .line comment => comment
  | .block comment => comment

def left : Span → Text
  | .kept c => [c]
  | _ => []

def textOf (spans : List Span) : Text := spans.flatMap text

def leftOf (spans : List Span) : Text := spans.flatMap left

theorem textOf_append (upper lower : List Span) :
    textOf (upper ++ lower) = textOf upper ++ textOf lower :=
  List.flatMap_append

theorem leftOf_append (upper lower : List Span) :
    leftOf (upper ++ lower) = leftOf upper ++ leftOf lower :=
  List.flatMap_append

end Span

/-- The comments of a family of languages: from a marker, if the family has one, to the end of its
line, and from an opening through the next closing. -/
structure Delimiters where
  marker? : Option Text
  block : Block
  marks : ∀ m, marker? = some m → m.Delimiting
  opens : block.opening.Delimiting
  closes : block.closing.Delimiting

namespace Delimiters

def slashed : Delimiters where
  marker? := some ['/', '/']
  block := .starred
  marks _ same := by cases same; exact ⟨by decide, by decide⟩
  opens := ⟨by decide, by decide⟩
  closes := ⟨by decide, by decide⟩

def dashed : Delimiters where
  marker? := some ['-', '-']
  block := .starred
  marks _ same := by cases same; exact ⟨by decide, by decide⟩
  opens := ⟨by decide, by decide⟩
  closes := ⟨by decide, by decide⟩

def angled : Delimiters where
  marker? := none
  block := .markup
  marks := nofun
  opens := ⟨by decide, by decide⟩
  closes := ⟨by decide, by decide⟩

def blocks (d : Delimiters) : Delimiters where
  marker? := none
  block := d.block
  marks := nofun
  opens := d.opens
  closes := d.closes

def starred : Delimiters := slashed.blocks

/-- The first pass of the removal. -/
def cut (d : Delimiters) (t : Text) : Text :=
  match d.marker? with
  | some m => dropLineComments m t
  | none => t

def remove (d : Delimiters) (t : Text) : Text := d.block.drop (d.cut t)

def isMarked (d : Delimiters) (t : Text) : Bool := d.marker?.any (·.isPrefixOf t)

/-- What a scanner takes of a text, one after the other. -/
def scan (d : Delimiters) : Text → List Span
  | [] => []
  | c :: rest =>
    if d.isMarked (c :: rest) then
      .line (c :: Text.firstLine rest) :: scan d (Text.fromLineEnd rest)
    else if d.block.opening <+: c :: rest then
      match _found : Text.splitBehind? d.block.closing (rest.drop (d.block.opening.length - 1)) with
      | some (inner, tail) => .block (d.block.opening ++ inner) :: scan d tail
      | none => .kept c :: scan d rest
    else .kept c :: scan d rest
termination_by t => t.length
decreasing_by
  · have shorter := (Text.fromLineEnd_suffix rest).length_le
    rw [List.length_cons]
    omega
  · have same := congrArg List.length (Text.append_of_splitBehind? _ _ _ _found).1
    rw [List.length_drop, List.length_append] at same
    rw [List.length_cons]
    omega
  · exact Nat.lt_succ_self _
  · exact Nat.lt_succ_self _

variable (d : Delimiters)

theorem isMarked_iff (t : Text) : d.isMarked t = true ↔ ∃ m, d.marker? = some m ∧ m <+: t := by
  rw [isMarked, Option.any_eq_true]
  simp only [List.isPrefixOf_iff_prefix]

theorem scan_nil : d.scan [] = [] := by
  rw [scan]

theorem scan_line (t : Text) (marked : d.isMarked t = true) :
    d.scan t = .line t.firstLine :: d.scan t.fromLineEnd := by
  obtain ⟨m, known, starts⟩ := (d.isMarked_iff t).1 marked
  cases t with
  | nil => exact absurd (List.prefix_nil.1 starts) (d.marks m known).solid
  | cons c rest =>
    have other := (d.marks m known).ne_newline starts
    rw [scan, if_pos marked, Text.firstLine_cons c rest other, Text.fromLineEnd_cons c rest other]

theorem scan_block (inner tail : Text)
    (unmarked : ¬d.isMarked (d.block.opening ++ (inner ++ tail)) = true)
    (closed : d.block.Closes inner tail) :
    d.scan (d.block.opening ++ (inner ++ tail)) =
      .block (d.block.opening ++ inner) :: d.scan tail := by
  obtain ⟨c, more, start⟩ := List.exists_cons_of_ne_nil d.opens.solid
  have behind : (more ++ (inner ++ tail)).drop (d.block.opening.length - 1) = inner ++ tail := by
    rw [d.block.drop_opening d.opens.solid c, ← List.cons_append, ← start, List.drop_left]
  have whole : d.block.opening ++ (inner ++ tail) = c :: (more ++ (inner ++ tail)) := by
    rw [start, List.cons_append]
  rw [whole] at unmarked ⊢
  rw [scan, if_neg unmarked, if_pos ⟨inner ++ tail, whole⟩]
  split
  · next upper lower found =>
    rw [behind, closed] at found
    cases found
    rfl
  · next stuck =>
    rw [behind, closed] at stuck
    cases stuck

theorem scan_kept (c : Char) (rest : Text) (unmarked : ¬d.isMarked (c :: rest) = true)
    (unclosed : d.block.Unclosed (c :: rest)) :
    d.scan (c :: rest) = .kept c :: d.scan rest := by
  rw [scan, if_neg unmarked]
  split
  · next starts =>
    obtain ⟨inner, same⟩ := starts
    have behind : rest.drop (d.block.opening.length - 1) = inner := by
      rw [d.block.drop_opening d.opens.solid c, ← same, List.drop_left]
    have stuck : Text.splitBehind? d.block.closing inner = none :=
      (Text.splitBehind?_eq_none_iff d.closes.solid inner).2 (unclosed inner same.symm)
    split
    · next upper lower found =>
      rw [behind, stuck] at found
      cases found
    · rfl
  · rfl

theorem closed_or_unclosed (t : Text) :
    (∃ inner tail, t = d.block.opening ++ (inner ++ tail) ∧ d.block.Closes inner tail) ∨
      d.block.Unclosed t := by
  by_cases starts : d.block.opening <+: t
  · obtain ⟨behind, rfl⟩ := starts
    cases found : Text.splitBehind? d.block.closing behind with
    | none =>
      right
      intro inner same
      rw [← List.append_cancel_left same]
      exact (Text.splitBehind?_eq_none_iff d.closes.solid behind).1 found
    | some parts =>
      obtain ⟨inner, tail⟩ := parts
      obtain ⟨rfl, _⟩ := Text.append_of_splitBehind? _ _ _ found
      exact .inl ⟨inner, tail, rfl, found⟩
  · exact .inr fun inner same => absurd ⟨inner, same.symm⟩ starts

/-- A scanner goes through a text from the left: one case for each thing that it can take. -/
theorem scan_induction {motive : Text → Prop} (nil : motive [])
    (line : ∀ t : Text, d.isMarked t = true → motive t.fromLineEnd → motive t)
    (block : ∀ inner tail, ¬d.isMarked (d.block.opening ++ (inner ++ tail)) = true →
      d.block.Closes inner tail → motive tail → motive (d.block.opening ++ (inner ++ tail)))
    (kept : ∀ c rest, ¬d.isMarked (c :: rest) = true → d.block.Unclosed (c :: rest) →
      motive rest → motive (c :: rest)) (t : Text) : motive t := by
  induction size : t.length using Nat.strong_induction_on generalizing t with
  | h n ih =>
    cases t with
    | nil => exact nil
    | cons c rest =>
      by_cases marked : d.isMarked (c :: rest) = true
      · obtain ⟨m, known, starts⟩ := (d.isMarked_iff _).1 marked
        apply line _ marked
        apply ih _ ?_ _ rfl
        rw [Text.fromLineEnd_cons c rest ((d.marks m known).ne_newline starts), ← size]
        exact Nat.lt_succ_of_le (Text.fromLineEnd_suffix rest).length_le
      · rcases d.closed_or_unclosed (c :: rest) with ⟨inner, tail, same, closed⟩ | unclosed
        · rw [same] at marked size ⊢
          apply block inner tail marked closed
          apply ih _ ?_ tail rfl
          have solid := List.length_pos_of_ne_nil d.opens.solid
          rw [← size, List.length_append, List.length_append]
          omega
        · exact kept c rest marked unclosed (ih _ (size ▸ Nat.lt_succ_self _) rest rfl)

theorem textOf_scan (t : Text) : Span.textOf (d.scan t) = t := by
  induction t using d.scan_induction with
  | nil => rw [scan_nil]; rfl
  | line t marked ih =>
    rw [scan_line d t marked]
    change t.firstLine ++ Span.textOf (d.scan t.fromLineEnd) = t
    rw [ih, Text.firstLine_append_fromLineEnd]
  | block inner tail unmarked closed ih =>
    rw [scan_block d inner tail unmarked closed]
    change d.block.opening ++ inner ++ Span.textOf (d.scan tail) = _
    rw [ih, List.append_assoc]
  | kept c rest unmarked unclosed ih =>
    rw [scan_kept d c rest unmarked unclosed]
    change c :: Span.textOf (d.scan rest) = c :: rest
    rw [ih]

theorem exists_scan_of_cons (t : Text) (first : Span) (spans : List Span)
    (split : d.scan t = first :: spans) : ∃ rest, d.scan rest = spans := by
  induction t using d.scan_induction with
  | nil =>
    rw [scan_nil] at split
    cases split
  | line t marked =>
    rw [scan_line d t marked] at split
    exact ⟨_, (List.cons.inj split).2⟩
  | block inner tail unmarked closed =>
    rw [scan_block d inner tail unmarked closed] at split
    exact ⟨_, (List.cons.inj split).2⟩
  | kept c rest unmarked unclosed =>
    rw [scan_kept d c rest unmarked unclosed] at split
    exact ⟨_, (List.cons.inj split).2⟩

theorem scan_textOf (t : Text) (before after : List Span) (split : d.scan t = before ++ after) :
    d.scan (Span.textOf after) = after := by
  induction before generalizing t with
  | nil =>
    rw [List.nil_append] at split
    rw [← split, textOf_scan]
  | cons first before ih =>
    obtain ⟨rest, later⟩ := d.exists_scan_of_cons t first (before ++ after) split
    exact ih rest later

/-- A whole comment: a marker with what follows it in its line, or an opening with what follows it
through the next closing. -/
inductive Comment (d : Delimiters) : Text → Prop where
  | line (m inner : Text) (known : d.marker? = some m) (plain : '\n' ∉ inner) :
      Comment d (m ++ inner)
  | block (inner : Text) (closed : d.block.Closes inner []) : Comment d (d.block.opening ++ inner)

theorem comment_firstLine (t : Text) (marked : d.isMarked t = true) : d.Comment t.firstLine := by
  obtain ⟨m, known, starts⟩ := (d.isMarked_iff t).1 marked
  have within : m <+: t.firstLine := by
    apply t.atLineEnd_fromLineEnd.prefix_of_append (d.marks m known).plain
    rwa [Text.firstLine_append_fromLineEnd]
  obtain ⟨inner, same⟩ := within
  have plain := t.newline_notMem_firstLine
  rw [← same] at plain ⊢
  exact .line m inner known (mt (List.mem_append_right m) plain)

theorem comment_of_mem_scan (t : Text) (span : Span) (taken : span ∈ d.scan t) :
    (∃ c, span = .kept c) ∨ d.Comment span.text := by
  induction t using d.scan_induction with
  | nil =>
    rw [scan_nil] at taken
    cases taken
  | line t marked ih =>
    rw [scan_line d t marked, List.mem_cons] at taken
    rcases taken with rfl | later
    · exact .inr (d.comment_firstLine t marked)
    · exact ih later
  | block inner tail unmarked closed ih =>
    rw [scan_block d inner tail unmarked closed, List.mem_cons] at taken
    rcases taken with rfl | later
    · exact .inr (.block inner (Text.splitBehind?_append d.closes.solid inner tail [] closed))
    · exact ih later
  | kept c rest unmarked unclosed ih =>
    rw [scan_kept d c rest unmarked unclosed, List.mem_cons] at taken
    rcases taken with rfl | later
    · exact .inl ⟨c, rfl⟩
    · exact ih later

/-- No marker begins inside of a block that the scanner takes, not even with its last character. -/
def Clear (d : Delimiters) (t : Text) : Prop :=
  ∀ before comment after, d.scan t = before ++ .block comment :: after →
    ∀ u v, comment = u ++ v → v ≠ [] → ¬d.isMarked (v ++ Span.textOf after) = true

def nextBlock : List Span → Text
  | .block comment :: _ => comment
  | _ => []

theorem clear_iff (t : Text) :
    d.Clear t ↔ ∀ spans ∈ (d.scan t).tails, ∀ v ∈ (nextBlock spans).tails, v ≠ [] →
      ¬d.isMarked (v ++ Span.textOf spans.tail) = true := by
  constructor
  · intro clear spans later v ends solid
    obtain ⟨before, split⟩ := (List.mem_tails spans _).1 later
    obtain ⟨u, same⟩ := (List.mem_tails v _).1 ends
    match spans with
    | .block comment :: after => exact clear before comment after split.symm u v same.symm solid
    | [] | .kept _ :: _ | .line _ :: _ =>
      exact absurd (List.append_eq_nil_iff.1 same).2 solid
  · intro clear before comment after split u v same
    have later : .block comment :: after ∈ (d.scan t).tails :=
      (List.mem_tails _ _).2 ⟨before, split.symm⟩
    exact clear _ later v ((List.mem_tails _ _).2 ⟨u, same.symm⟩)

instance (t : Text) : Decidable (d.Clear t) := decidable_of_iff _ (d.clear_iff t).symm

variable {d} in
theorem Clear.of_cons {t rest : Text} {first : Span} (clear : d.Clear t)
    (split : d.scan t = first :: d.scan rest) : d.Clear rest := by
  intro before comment after later
  exact clear (first :: before) comment after (by rw [split, later, List.cons_append])

/-! The first pass, with or without a marker. -/

theorem cut_nil : d.cut [] = [] := by
  unfold cut
  split <;> rfl

theorem cut_of_marker {m : Text} (known : d.marker? = some m) (t : Text) :
    d.cut t = dropLineComments m t := by
  rw [cut, known]

theorem cut_of_none (known : d.marker? = none) (t : Text) : d.cut t = t := by
  rw [cut, known]

theorem cut_line (t : Text) (marked : d.isMarked t = true) : d.cut t = d.cut t.fromLineEnd := by
  obtain ⟨m, known, starts⟩ := (d.isMarked_iff t).1 marked
  rw [cut_of_marker d known, cut_of_marker d known]
  exact dropLineComments_marked (d.marks m known) t starts

theorem cut_append (w t : Text)
    (clear : ∀ u v, w = u ++ v → v ≠ [] → ¬d.isMarked (v ++ t) = true) :
    d.cut (w ++ t) = w ++ d.cut t := by
  cases known : d.marker? with
  | none => rw [cut_of_none d known, cut_of_none d known]
  | some m =>
    rw [cut_of_marker d known, cut_of_marker d known]
    apply dropLineComments_append
    intro u v same solid starts
    exact clear u v same solid ((d.isMarked_iff _).2 ⟨m, known, starts⟩)

theorem cut_cons (c : Char) (rest : Text) (unmarked : ¬d.isMarked (c :: rest) = true) :
    d.cut (c :: rest) = c :: d.cut rest := by
  cases known : d.marker? with
  | none => rw [cut_of_none d known, cut_of_none d known]
  | some m =>
    rw [cut_of_marker d known, cut_of_marker d known]
    apply dropLineComments_cons
    exact fun starts => unmarked ((d.isMarked_iff _).2 ⟨m, known, starts⟩)

theorem exists_of_prefix_cut (w t : Text) (plain : '\n' ∉ w) (starts : w <+: d.cut t) :
    ∃ rest, t = w ++ rest ∧ d.cut t = w ++ d.cut rest := by
  cases known : d.marker? with
  | none =>
    rw [cut_of_none d known] at starts
    obtain ⟨rest, rfl⟩ := starts
    exact ⟨rest, rfl, by rw [cut_of_none d known, cut_of_none d known]⟩
  | some m =>
    rw [cut_of_marker d known] at starts ⊢
    obtain ⟨rest, same, goes⟩ :=
      exists_of_prefix_dropLineComments (d.marks m known) w t plain starts
    exact ⟨rest, same, by rw [goes, cut_of_marker d known]⟩

theorem infix_of_infix_cut (w t : Text) (plain : '\n' ∉ w) (inside : w <:+: d.cut t) :
    w <:+: t := by
  cases known : d.marker? with
  | none => rwa [cut_of_none d known] at inside
  | some m =>
    rw [cut_of_marker d known] at inside
    exact infix_of_infix_dropLineComments (d.marks m known) w t plain inside

theorem unclosed_cut (t : Text) (unclosed : d.block.Unclosed t) : d.block.Unclosed (d.cut t) := by
  intro inner same closed
  obtain ⟨rest, rfl, goes⟩ :=
    d.exists_of_prefix_cut d.block.opening t d.opens.plain ⟨inner, same.symm⟩
  obtain rfl : inner = d.cut rest := List.append_cancel_left (same.symm.trans goes)
  exact unclosed rest rfl (d.infix_of_infix_cut d.block.closing rest d.closes.plain closed)

/-- Where no marker begins inside of a block, the two passes leave what the scanner leaves. -/
theorem remove_eq_leftOf_scan (t : Text) (clear : d.Clear t) :
    d.remove t = Span.leftOf (d.scan t) := by
  induction t using d.scan_induction with
  | nil =>
    rw [remove, cut_nil, scan_nil, Block.drop]
    rfl
  | line t marked ih =>
    have split := scan_line d t marked
    rw [remove, cut_line d t marked, split]
    exact ih (clear.of_cons split)
  | block inner tail unmarked closed ih =>
    have split := scan_block d inner tail unmarked closed
    have here := clear [] (d.block.opening ++ inner) (d.scan tail) split
    rw [textOf_scan] at here
    have whole := d.cut_append (d.block.opening ++ inner) tail here
    rw [List.append_assoc, List.append_assoc] at whole
    have again := Text.splitBehind?_append d.closes.solid inner tail (d.cut tail) closed
    rw [remove, whole, Block.drop_block _ d.opens.solid d.closes.solid inner _ again, split]
    exact ih (clear.of_cons split)
  | kept c rest unmarked unclosed ih =>
    have split := scan_kept d c rest unmarked unclosed
    have first := d.cut_cons c rest unmarked
    have stillOpen := first ▸ d.unclosed_cut (c :: rest) unclosed
    rw [remove, first, Block.drop_cons _ d.opens.solid d.closes.solid c _ stillOpen, split]
    exact congrArg (c :: ·) (ih (clear.of_cons split))

end Delimiters

/-- Where no marker begins inside of a block comment, the families with line and block comments
leave what one pass leaves: a text is divided into characters that are left and whole comments. -/
theorem strip_eq_leftOf_scan (t : Text) :
    (Delimiters.slashed.Clear t →
        CommentStyle.cStyle.strip t = Span.leftOf (Delimiters.slashed.scan t)) ∧
      (Delimiters.dashed.Clear t →
        CommentStyle.sqlStyle.strip t = Span.leftOf (Delimiters.dashed.scan t)) ∧
      ∀ d : Delimiters, Span.textOf (d.scan t) = t ∧
        ∀ span ∈ d.scan t, (∃ c, span = .kept c) ∨ d.Comment span.text :=
  ⟨Delimiters.slashed.remove_eq_leftOf_scan t, Delimiters.dashed.remove_eq_leftOf_scan t,
    fun d => ⟨d.textOf_scan t, d.comment_of_mem_scan t⟩⟩

/-- A block over two lines, a line comment with an opening in it, and an opening that stays. -/
theorem strip_eq_leftOf_scan_mixed :
    let slashes := "a/*b\n*/c//*d\ne/*f".toList
    let dashes := "a/*b\n*/c--/*d\ne/*f--g".toList
    Delimiters.slashed.Clear slashes ∧ CommentStyle.cStyle.strip slashes = "ac\ne/*f".toList ∧
      Delimiters.dashed.Clear dashes ∧ CommentStyle.sqlStyle.strip dashes = "ac\ne/*f".toList := by
  intro slashes dashes
  have first : Delimiters.slashed.Clear slashes := by decide +kernel
  have second : Delimiters.dashed.Clear dashes := by decide +kernel
  refine ⟨first, ?_, second, ?_⟩
  · rw [(strip_eq_leftOf_scan slashes).1 first]
    decide +kernel
  · rw [(strip_eq_leftOf_scan dashes).2.1 second]
    decide +kernel

end Listing
