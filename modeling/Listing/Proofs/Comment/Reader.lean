import Listing.Comment.Literal
import Listing.Proofs.Text.Lines

/-!
Comments behind a `#`, found by a reader that takes one character at a time and never looks ahead.
Of the text before, its state holds what the next character may depend on: how much of a delimiter
has been seen, and in which literal. The reader keeps the same text as the removal that looks three
characters ahead, so a line is cut at its first `#` outside of literals and nowhere else.
-/

namespace Listing

inductive Quote where
  | single
  | double
  deriving DecidableEq, Repr

namespace Quote

def char : Quote → Char
  | .single => '\''
  | .double => '"'

def ofChar? (c : Char) : Option Quote :=
  if c = '\'' then some .single else if c = '"' then some .double else none

theorem ofChar?_char (q : Quote) : ofChar? q.char = some q := by
  cases q <;> rfl

theorem char_ne (q : Quote) : q.char ≠ '#' ∧ q.char ≠ '\n' ∧ q.char ≠ '\\' := by
  cases q <;> decide

theorem exists_of_isQuote (c : Char) (quote : isQuote c = true) : ∃ q : Quote, q.char = c := by
  simp only [isQuote, Bool.or_eq_true, beq_iff_eq] at quote
  rcases quote with rfl | rfl
  · exact ⟨.single, rfl⟩
  · exact ⟨.double, rfl⟩

theorem ofChar?_eq_none (c : Char) (other : ¬isQuote c = true) : ofChar? c = none := by
  simp only [isQuote, Bool.or_eq_true, beq_iff_eq, not_or] at other
  rw [ofChar?, if_neg other.1, if_neg other.2]

end Quote

/-- Where a reader is: in code, behind one or two quotes that may open a literal, in a literal of
one line or just behind a backslash there, in a literal that may span lines with the closing quotes
seen so far, or in a comment. -/
inductive Reader where
  | code
  | opened (q : Quote)
  | openedTwice (q : Quote)
  | literal (q : Quote)
  | escaped (q : Quote)
  | long (q : Quote) (closing : Fin 3)
  | comment
  deriving DecidableEq, Repr

namespace Reader

/-- A line feed ends everything but a literal that may span lines. -/
def nextLine : Reader → Reader
  | .long q _ => .long q 0
  | _ => .code

def nextInCode (c : Char) : Reader :=
  if c = '#' then .comment
  else
    match Quote.ofChar? c with
    | some q => .opened q
    | none => .code

def nextInLiteral (q : Quote) (c : Char) : Reader :=
  if c = q.char then .code else if c = '\\' then .escaped q else .literal q

def nextInLine : Reader → Char → Reader
  | .code, c => nextInCode c
  | .opened q, c => if c = q.char then .openedTwice q else nextInLiteral q c
  | .openedTwice q, c => if c = q.char then .long q 0 else nextInCode c
  | .literal q, c => nextInLiteral q c
  | .escaped q, _ => .literal q
  | .long q closing, c =>
    if c ≠ q.char then .long q 0 else if closing = 2 then .code else .long q (closing + 1)
  | .comment, _ => .comment

def next (s : Reader) (c : Char) : Reader := if c = '\n' then s.nextLine else s.nextInLine c

def after (s : Reader) (t : Text) : Reader := t.foldl next s

/-- What a reader keeps of a text: every character that does not take it into a comment. -/
def kept : Reader → Text → Text
  | _, [] => []
  | s, c :: rest =>
    if s.next c = .comment then (s.next c).kept rest else c :: (s.next c).kept rest

/-- Whether a `#` would begin a comment. Behind an empty literal it would. -/
def isOutside : Reader → Bool
  | .code | .openedTwice _ => true
  | _ => false

theorem after_append (s : Reader) (t u : Text) : s.after (t ++ u) = (s.after t).after u :=
  List.foldl_append

theorem kept_append (s : Reader) (t u : Text) :
    s.kept (t ++ u) = s.kept t ++ (s.after t).kept u := by
  induction t generalizing s with
  | nil => rfl
  | cons c rest ih =>
    change kept s (c :: (rest ++ u)) = kept s (c :: rest) ++ ((s.next c).after rest).kept u
    simp only [kept, ih]
    split <;> rfl

theorem next_newline (s : Reader) : s.next '\n' = s.nextLine := if_pos rfl

theorem next_of_ne (s : Reader) (c : Char) (other : c ≠ '\n') : s.next c = s.nextInLine c :=
  if_neg other

theorem nextLine_ne_comment (s : Reader) : s.nextLine ≠ .comment := by
  cases s <;> exact nofun

theorem kept_newline (s : Reader) (t : Text) : s.kept ('\n' :: t) = '\n' :: s.nextLine.kept t := by
  rw [kept, next_newline, if_neg (nextLine_ne_comment s)]

theorem kept_cons (s : Reader) (c : Char) (rest : Text) (stays : s.next c ≠ .comment) :
    s.kept (c :: rest) = c :: (s.next c).kept rest :=
  if_neg stays

theorem kept_comment (line : Text) (plain : '\n' ∉ line) :
    comment.kept line = [] ∧ comment.after line = .comment := by
  induction line with
  | nil => exact ⟨rfl, rfl⟩
  | cons c rest ih =>
    rw [List.mem_cons, not_or] at plain
    have stays : comment.next c = .comment := next_of_ne _ c (Ne.symm plain.1)
    change kept comment (c :: rest) = [] ∧ (comment.next c).after rest = .comment
    rw [kept, stays, if_pos rfl]
    exact ih plain.2

theorem nextInCode_eq_comment_iff (c : Char) : nextInCode c = .comment ↔ c = '#' := by
  unfold nextInCode
  split_ifs with sign
  · exact iff_of_true rfl sign
  · split <;> exact iff_of_false nofun sign

theorem nextInLiteral_ne_comment (q : Quote) (c : Char) : nextInLiteral q c ≠ .comment := by
  unfold nextInLiteral
  split_ifs <;> exact nofun

theorem nextInLine_eq_comment_iff (s : Reader) (c : Char) (reads : s ≠ .comment) :
    s.nextInLine c = .comment ↔ c = '#' ∧ s.isOutside = true := by
  cases s with
  | code => exact (nextInCode_eq_comment_iff c).trans (and_iff_left rfl).symm
  | openedTwice q =>
    rw [nextInLine]
    split_ifs with third
    · exact iff_of_false nofun fun sign => q.char_ne.1 (third.symm.trans sign.1)
    · exact (nextInCode_eq_comment_iff c).trans (and_iff_left rfl).symm
  | opened q =>
    refine iff_of_false ?_ fun sign => Bool.false_ne_true sign.2
    rw [nextInLine]
    split_ifs
    · exact nofun
    · exact nextInLiteral_ne_comment q c
  | literal q =>
    exact iff_of_false (nextInLiteral_ne_comment q c) fun sign => Bool.false_ne_true sign.2
  | escaped q => exact iff_of_false nofun fun sign => Bool.false_ne_true sign.2
  | long q closing =>
    refine iff_of_false ?_ fun sign => Bool.false_ne_true sign.2
    rw [nextInLine]
    split_ifs <;> exact nofun
  | comment => exact absurd rfl reads

theorem next_eq_comment_iff (s : Reader) (c : Char) (reads : s ≠ .comment) :
    s.next c = .comment ↔ c = '#' ∧ s.isOutside = true := by
  by_cases feed : c = '\n'
  · subst feed
    rw [next_newline]
    exact iff_of_false (nextLine_ne_comment s) fun sign => absurd sign.1 (by decide)
  · rw [next_of_ne s c feed, nextInLine_eq_comment_iff s c reads]

/-- How a line is cut: no `#` that is kept stands outside of literals, and where the line ends
early there is one that does. -/
structure Cuts (s : Reader) (line part : Text) : Prop where
  first : ∀ before, before ++ ['#'] <+: part → (s.after before).isOutside = false
  whole_or_outside : part = line ∨ part ++ ['#'] <+: line ∧ (s.after part).isOutside = true

theorem Cuts.prefix_line {s : Reader} {line part : Text} (cut : s.Cuts line part) :
    part <+: line := by
  rcases cut.whole_or_outside with whole | ⟨more, _⟩
  · exact whole ▸ List.prefix_refl _
  · exact (List.prefix_append part ['#']).trans more

theorem cuts_kept (s : Reader) (line : Text) (plain : '\n' ∉ line) (reads : s ≠ .comment) :
    s.Cuts line (s.kept line) := by
  induction line generalizing s with
  | nil => exact ⟨fun before starts => absurd (List.prefix_nil.1 starts) (by simp), .inl rfl⟩
  | cons c rest ih =>
    rw [List.mem_cons, not_or] at plain
    have step : s.next c = s.nextInLine c := next_of_ne s c (Ne.symm plain.1)
    by_cases begins : s.next c = .comment
    · obtain ⟨rfl, outside⟩ := (nextInLine_eq_comment_iff s c reads).1 (step ▸ begins)
      have nothing : s.kept ('#' :: rest) = [] := by
        rw [kept, if_pos begins, begins, (kept_comment rest plain.2).1]
      rw [nothing]
      refine ⟨fun before starts => absurd (List.prefix_nil.1 starts) (by simp), .inr ⟨?_, outside⟩⟩
      exact List.prefix_append ['#'] rest
    · obtain ⟨first, whole_or_outside⟩ := ih (s.next c) plain.2 begins
      rw [kept_cons s c rest begins]
      constructor
      · intro before starts
        cases before with
        | nil =>
          have sign : c = '#' := (List.cons_prefix_cons.1 starts).1.symm
          by_contra outside
          have here : s.isOutside = true := (Bool.not_eq_false _).mp outside
          exact begins (step.trans ((nextInLine_eq_comment_iff s c reads).2 ⟨sign, here⟩))
        | cons d before =>
          obtain ⟨rfl, later⟩ := List.cons_prefix_cons.1 starts
          exact first before later
      · rcases whole_or_outside with whole | ⟨more, outside⟩
        · exact .inl (congrArg (c :: ·) whole)
        · exact .inr ⟨List.cons_prefix_cons.2 ⟨rfl, more⟩, outside⟩

/-- Two readers read a line alike: they keep the same, and go on alike on the next line. -/
def Alike (s u : Reader) (line : Text) : Prop :=
  s.kept line = u.kept line ∧ (s.after line).nextLine = (u.after line).nextLine

theorem alike_of_next_eq (s u : Reader) (c : Char) (rest : Text) (same : s.next c = u.next c) :
    s.Alike u (c :: rest) := by
  constructor
  · rw [kept, kept, same]
  · change (after (s.next c) rest).nextLine = (after (u.next c) rest).nextLine
    rw [same]

theorem alike_of_alike_next (s u : Reader) (c : Char) (rest : Text)
    (stays : s.next c ≠ .comment ∧ u.next c ≠ .comment) (later : (s.next c).Alike (u.next c) rest) :
    s.Alike u (c :: rest) := by
  constructor
  · rw [kept_cons s c rest stays.1, kept_cons u c rest stays.2, later.1]
  · exact later.2

theorem next_opened_quote (q : Quote) : (opened q).next q.char = .openedTwice q :=
  (next_of_ne _ _ q.char_ne.2.1).trans (if_pos rfl)

theorem next_openedTwice_quote (q : Quote) : (openedTwice q).next q.char = .long q 0 :=
  (next_of_ne _ _ q.char_ne.2.1).trans (if_pos rfl)

theorem next_literal_quote (q : Quote) : (literal q).next q.char = .code :=
  (next_of_ne _ _ q.char_ne.2.1).trans (if_pos rfl)

theorem next_literal_backslash (q : Quote) : (literal q).next '\\' = .escaped q :=
  (if_neg (Ne.symm q.char_ne.2.2)).trans (if_pos rfl)

theorem next_code_quote (q : Quote) : code.next q.char = .opened q := by
  rw [next_of_ne _ _ q.char_ne.2.1, nextInLine, nextInCode, if_neg q.char_ne.1, Quote.ofChar?_char]

theorem next_long_quote (q : Quote) (closing : Fin 3) :
    (long q closing).next q.char = if closing = 2 then .code else .long q (closing + 1) :=
  (next_of_ne _ _ q.char_ne.2.1).trans (if_neg (not_not.2 rfl))

theorem next_long_other (q : Quote) (closing : Fin 3) (c : Char) (other : c ≠ q.char) :
    (long q closing).next c = .long q 0 := by
  unfold next
  split_ifs
  · rfl
  · exact if_pos other

theorem alike_opened (q : Quote) (line : Text) (plain : '\n' ∉ line)
    (single : ¬[q.char, q.char] <+: line) : (opened q).Alike (literal q) line := by
  cases line with
  | nil => exact ⟨rfl, rfl⟩
  | cons d tail =>
    rw [List.mem_cons, not_or] at plain
    by_cases closes : d = q.char
    · subst closes
      apply alike_of_alike_next
      · rw [next_opened_quote, next_literal_quote]
        exact ⟨nofun, nofun⟩
      rw [next_opened_quote, next_literal_quote]
      cases tail with
      | nil => exact ⟨rfl, rfl⟩
      | cons e tail =>
        have other : e ≠ q.char := by
          rintro rfl
          exact single ⟨tail, rfl⟩
        rw [List.mem_cons, not_or] at plain
        apply alike_of_next_eq
        rw [next_of_ne _ _ (Ne.symm plain.2.1), next_of_ne _ _ (Ne.symm plain.2.1)]
        exact if_neg other
    · apply alike_of_next_eq
      rw [next_of_ne _ _ (Ne.symm plain.1), next_of_ne _ _ (Ne.symm plain.1)]
      exact if_neg closes

theorem alike_long (q : Quote) (line : Text) (few : ¬[q.char, q.char] <+: line) :
    (long q 1).Alike (long q 0) line := by
  cases line with
  | nil => exact ⟨rfl, rfl⟩
  | cons d tail =>
    by_cases closes : d = q.char
    · subst closes
      apply alike_of_alike_next
      · rw [next_long_quote, next_long_quote]
        exact ⟨nofun, nofun⟩
      rw [next_long_quote, next_long_quote]
      cases tail with
      | nil => exact ⟨rfl, rfl⟩
      | cons e tail =>
        have other : e ≠ q.char := by
          rintro rfl
          exact few ⟨tail, rfl⟩
        apply alike_of_next_eq
        exact (next_long_other q 2 e other).trans (next_long_other q 1 e other).symm
    · apply alike_of_next_eq
      rw [next_long_other q 1 d closes, next_long_other q 0 d closes]

end Reader

/-- A reader that has just entered a region. -/
inductive Region.Entered : Region → Reader → Prop where
  | code : Entered .code .code
  | literal (q : Quote) : Entered (.literal q.char) (.literal q)
  | long (q : Quote) : Entered (.long q.char) (.long q 0)

namespace Reader

/-- A reader keeps a part of a line and goes on from the next line as from a region. -/
def Makes (s : Reader) (line : Text) (result : Text × Region) : Prop :=
  result.1 = s.kept line ∧ result.2.nextLine.Entered (s.after line).nextLine

theorem Makes.cons {s u : Reader} {c : Char} {rest part : Text} {region : Region}
    (step : s.next c = u) (reads : u ≠ .comment) (later : u.Makes rest (part, region)) :
    s.Makes (c :: rest) (c :: part, region) := by
  subst step
  exact ⟨(congrArg (c :: ·) later.1).trans (kept_cons s c rest reads).symm, later.2⟩

theorem Makes.alike {s u : Reader} {line : Text} {result : Text × Region}
    (makes : u.Makes line result) (alike : s.Alike u line) : s.Makes line result :=
  ⟨makes.1.trans alike.1.symm, alike.2 ▸ makes.2⟩

theorem makes_nil {region : Region} {s : Reader} (entered : region.Entered s) :
    s.Makes [] ([], region) := by
  cases entered with
  | code => exact ⟨rfl, .code⟩
  | literal q => exact ⟨rfl, .code⟩
  | long q => exact ⟨rfl, .long q⟩

theorem makes_sign (rest : Text) (plain : '\n' ∉ rest) : code.Makes ('#' :: rest) ([], .code) := by
  obtain ⟨nothing, stays⟩ := kept_comment rest plain
  have begins : code.next '#' = .comment := rfl
  constructor
  · rw [kept, if_pos begins, begins, nothing]
  · change Region.code.Entered ((code.next '#').after rest).nextLine
    rw [begins, stays]
    exact .code

theorem makes_quote (q : Quote) (rest part : Text) (region : Region) (plain : '\n' ∉ rest)
    (single : ¬[q.char, q.char] <+: rest) (later : (literal q).Makes rest (part, region)) :
    code.Makes (q.char :: rest) (q.char :: part, region) :=
  .cons (next_code_quote q) nofun (later.alike (alike_opened q rest plain single))

theorem makes_long (q : Quote) (c : Char) (rest part : Text) (region : Region)
    (few : c = q.char → ¬[q.char, q.char] <+: rest) (later : (long q 0).Makes rest (part, region)) :
    (long q 0).Makes (c :: rest) (c :: part, region) := by
  by_cases closes : c = q.char
  · subst closes
    exact .cons (next_long_quote q 0) nofun (later.alike (alike_long q rest (few rfl)))
  · exact .cons (next_long_other q 0 c closes) nofun later

/-- A line is read alike with three characters in view and with one. -/
theorem makes_stripLine (region : Region) (s : Reader) (line : Text) (plain : '\n' ∉ line)
    (entered : region.Entered s) : s.Makes line (stripLine region line) := by
  -- One case for each way on of the removal. Where it takes several characters at once, the reader
  -- follows them one by one and is again where the induction hypothesis speaks of.
  fun_induction stripLine region line generalizing s with
  | case1 => exact makes_nil entered
  | case2 rest =>
    cases entered
    exact makes_sign rest (List.not_mem_of_not_mem_cons plain)
  | case3 c sign quote d e tail triple part region read ih =>
    cases entered
    obtain ⟨q, rfl⟩ := Quote.exists_of_isQuote c quote
    obtain ⟨rfl, rfl⟩ := triple
    simp only [List.mem_cons, not_or] at plain
    have later := ih (long q 0) plain.2.2.2 (.long q)
    rw [read] at later
    have second := Makes.cons (next_openedTwice_quote q) nofun later
    exact .cons (next_code_quote q) nofun (.cons (next_opened_quote q) nofun second)
  | case4 c sign quote d e tail single part region read ih =>
    cases entered
    obtain ⟨q, rfl⟩ := Quote.exists_of_isQuote c quote
    have below := List.not_mem_of_not_mem_cons plain
    have later := ih (literal q) below (.literal q)
    rw [read] at later
    apply makes_quote q _ part region below ?_ later
    rintro ⟨rest, same⟩
    cases same
    exact single ⟨rfl, rfl⟩
  | case5 c sign quote rest short part region read ih =>
    cases entered
    obtain ⟨q, rfl⟩ := Quote.exists_of_isQuote c quote
    have below := List.not_mem_of_not_mem_cons plain
    have later := ih (literal q) below (.literal q)
    rw [read] at later
    apply makes_quote q _ part region below ?_ later
    rintro ⟨tail, rfl⟩
    exact short _ _ tail rfl
  | case6 c rest sign other part region read ih =>
    cases entered
    rw [List.mem_cons, not_or] at plain
    have step : code.next c = .code := by
      rw [next_of_ne _ _ (Ne.symm plain.1), nextInLine, nextInCode, if_neg sign,
        Quote.ofChar?_eq_none c other]
    have later := ih code plain.2 .code
    rw [read] at later
    exact .cons step nofun later
  | case7 quote rest part region read ih =>
    cases entered with
    | literal q =>
      have later := ih code (List.not_mem_of_not_mem_cons plain) .code
      rw [read] at later
      exact .cons (next_literal_quote q) nofun later
  | case8 quote other =>
    cases entered with
    | literal q =>
      exact .cons (next_literal_backslash q) nofun ⟨rfl, .code⟩
  | case9 quote d tail part region read other ih =>
    cases entered with
    | literal q =>
      simp only [List.mem_cons, not_or] at plain
      have step : (escaped q).next d = .literal q := next_of_ne _ _ (Ne.symm plain.2.1)
      have later := ih (literal q) plain.2.2 (.literal q)
      rw [read] at later
      exact .cons (next_literal_backslash q) nofun (.cons step nofun later)
  | case10 quote c rest unclosed unescaped part region read ih =>
    cases entered with
    | literal q =>
      rw [List.mem_cons, not_or] at plain
      have step : (literal q).next c = .literal q := by
        rw [next_of_ne _ _ (Ne.symm plain.1), nextInLine, nextInLiteral, if_neg unclosed,
          if_neg unescaped]
      have later := ih (literal q) plain.2 (.literal q)
      rw [read] at later
      exact .cons step nofun later
  | case11 quote c d e tail triple part region read ih =>
    cases entered with
    | long q =>
      obtain ⟨rfl, rfl, rfl⟩ := triple
      simp only [List.mem_cons, not_or] at plain
      have later := ih code plain.2.2.2 .code
      rw [read] at later
      have third := Makes.cons (next_long_quote q 2) nofun later
      exact .cons (next_long_quote q 0) nofun (.cons (next_long_quote q 1) nofun third)
  | case12 quote c d e tail few part region read ih =>
    cases entered with
    | long q =>
      have later := ih (long q 0) (List.not_mem_of_not_mem_cons plain) (.long q)
      rw [read] at later
      apply makes_long q c _ part region ?_ later
      rintro first ⟨rest, same⟩
      cases same
      exact few ⟨first, rfl, rfl⟩
  | case13 quote c rest short part region read ih =>
    cases entered with
    | long q =>
      have later := ih (long q 0) (List.not_mem_of_not_mem_cons plain) (.long q)
      rw [read] at later
      apply makes_long q c _ part region ?_ later
      rintro rfl ⟨tail, rfl⟩
      exact short _ _ tail rfl

theorem stripLines_cons (region : Region) (line : Text) (rest : List Text) :
    stripLines region (line :: rest) = (stripLine region line).1 ::
      stripLines (stripLine region line).2.nextLine rest :=
  rfl

/-- Where a reader is at the start of a line of a text, by the number of lines above it. -/
def atLine (s : Reader) (lines : List Text) (i : Nat) : Reader :=
  s.after ((lines.take i).flatMap fun line => line ++ ['\n'])

theorem atLine_cons (s : Reader) (line : Text) (rest : List Text) (i : Nat) :
    s.atLine (line :: rest) (i + 1) = (s.after line).nextLine.atLine rest i := by
  unfold atLine
  rw [List.take_succ_cons, List.flatMap_cons, after_append, after_append]
  change ((s.after line).next '\n').after _ = _
  rw [next_newline]

variable (region : Region) (s : Reader) (lines : List Text) (plain : ∀ line ∈ lines, '\n' ∉ line)
  (entered : region.Entered s)

include plain entered

theorem kept_unlines : s.kept (Text.unlines lines) = Text.unlines (stripLines region lines) := by
  induction lines generalizing region s with
  | nil => rfl
  | cons line rest ih =>
    obtain ⟨solid, others⟩ := List.forall_mem_cons.1 plain
    obtain ⟨part, goes⟩ := makes_stripLine region s line solid entered
    cases rest with
    | nil =>
      rw [stripLines_cons, stripLines, Text.unlines_singleton, Text.unlines_singleton, part]
    | cons next rest =>
      have below := ih _ _ others goes
      rw [Text.unlines_cons_cons, kept_append, kept_newline, below, stripLines_cons region, part,
        stripLines_cons, Text.unlines_cons_cons]

theorem getElem?_stripLines (i : Nat) (line : Text) (found : lines[i]? = some line) :
    (stripLines region lines)[i]? = some ((s.atLine lines i).kept line) ∧
      s.atLine lines i ≠ .comment := by
  induction lines generalizing region s i with
  | nil => cases found
  | cons first rest ih =>
    obtain ⟨solid, others⟩ := List.forall_mem_cons.1 plain
    obtain ⟨part, goes⟩ := makes_stripLine region s first solid entered
    cases i with
    | zero =>
      cases found
      refine ⟨congrArg some part, ?_⟩
      cases entered <;> exact nofun
    | succ i =>
      rw [atLine_cons]
      exact ih _ _ others goes i found

end Reader

theorem lines_dropHashComments (t : Text) :
    (dropHashComments t).lines = stripLines .code t.lines := by
  apply Text.lines_unlines
  · intro part inside
    obtain ⟨i, found⟩ := List.mem_iff_getElem?.1 inside
    have bound : i < t.lines.length := by
      rw [← stripLines_length .code t.lines]
      exact (List.getElem?_eq_some_iff.1 found).1
    have plain := Text.newline_notMem_lines t
    obtain ⟨read, reads⟩ := Reader.getElem?_stripLines .code .code t.lines plain .code i _
      (List.getElem?_eq_getElem bound)
    have solid := plain _ (List.getElem_mem bound)
    cases found.symm.trans read
    exact fun feed => solid ((Reader.cuts_kept _ _ solid reads).prefix_line.subset feed)
  · rw [ne_eq, ← List.length_eq_zero_iff, stripLines_length, List.length_eq_zero_iff]
    exact Text.lines_ne_nil t

/-- The removal that looks three characters ahead keeps what a reader keeps. -/
theorem Reader.dropHashComments_eq (t : Text) : dropHashComments t = Reader.code.kept t := by
  have whole := Reader.kept_unlines .code .code t.lines (Text.newline_notMem_lines t) .code
  rw [Text.unlines, Text.lines, List.intercalate_splitOn] at whole
  exact whole.symm

theorem Reader.kept_of_no_sign (s : Reader) (t : Text) (reads : s ≠ .comment) (unsigned : '#' ∉ t) :
    s.kept t = t := by
  induction t generalizing s with
  | nil => rfl
  | cons c rest ih =>
    rw [List.mem_cons, not_or] at unsigned
    have stays : s.next c ≠ .comment := by
      by_cases feed : c = '\n'
      · rw [feed, next_newline]
        exact nextLine_ne_comment s
      · rw [next_of_ne s c feed, ne_eq, nextInLine_eq_comment_iff s c reads]
        exact fun sign => unsigned.1 sign.1.symm
    rw [kept_cons s c rest stays, ih _ stays unsigned.2]

/-- Removing comments behind a `#` is reading a text once, character by character. As many lines
come out, each cut at the first `#` that the reader meets outside of literals and otherwise whole;
a text without a `#` stays as it is. -/
theorem dropHashComments_eq_kept (t : Text) :
    dropHashComments t = Reader.code.kept t ∧
      (dropHashComments t).lines.length = t.lines.length ∧
      (∀ i line, t.lines[i]? = some line →
        ∃ part, (dropHashComments t).lines[i]? = some part ∧ part <+: line ∧
          (Reader.code.atLine t.lines i).Cuts line part) ∧
      ('#' ∉ t → dropHashComments t = t) := by
  refine ⟨Reader.dropHashComments_eq t, ?_, ?_, ?_⟩
  · rw [lines_dropHashComments, stripLines_length]
  · intro i line found
    have plain := Text.newline_notMem_lines t
    obtain ⟨kept, reads⟩ := Reader.getElem?_stripLines .code .code t.lines plain .code i line found
    have cut := Reader.cuts_kept (Reader.code.atLine t.lines i) line
      (plain line (List.mem_of_getElem? found)) reads
    exact ⟨_, (lines_dropHashComments t).symm ▸ kept, cut.prefix_line, cut⟩
  · intro unsigned
    rw [Reader.dropHashComments_eq, Reader.kept_of_no_sign .code t (by decide) unsigned]

/-- The first sign stands in a literal that goes on behind the line break, the second in a literal
of one line behind an escaped quote, and only the third, behind an empty literal, is outside. -/
example : Reader.code.kept "'''a\n#'''\"\\\"#\"\n''#c".toList =
    "'''a\n#'''\"\\\"#\"\n''".toList := by
  decide

end Listing
