import Listing.Proofs.Comment.Line
import Listing.Proofs.Comment.Reader

/-!
Texts that are made of code, comments and whole literals, where in every literal a backslash takes
the next character with it. The removal heeds a backslash in literals of one line only. So it keeps
the literals and takes exactly the comments as long as no escaped quote begins three equal quotes
inside of a long literal; in general, exactly if its reader is outside of literals at the signs that
begin comments and at no other sign.
-/

namespace Listing

def Quote.triple (q : Quote) : Text := [q.char, q.char, q.char]

/-- What stands between the delimiters of a literal: a backslash takes the next character with it,
and the closing delimiter begins nowhere else before its place. -/
inductive LiteralBody (delimiter : Text) : Text → Prop where
  | nil : LiteralBody delimiter []
  | plain (c : Char) (rest : Text) (unescaped : c ≠ '\\')
      (inside : ¬delimiter <+: (c :: rest) ++ delimiter) (more : LiteralBody delimiter rest) :
      LiteralBody delimiter (c :: rest)
  | escape (c : Char) (rest : Text) (more : LiteralBody delimiter rest) :
      LiteralBody delimiter ('\\' :: c :: rest)

inductive Token where
  | code (c : Char)
  | comment (inner : Text)
  | literal (q : Quote) (inner : Text)
  | long (q : Quote) (inner : Text)
  deriving DecidableEq, Repr

namespace Token

def text : Token → Text
  | code c => [c]
  | comment inner => '#' :: inner
  | literal q inner => q.char :: (inner ++ [q.char])
  | long q inner => q.triple ++ (inner ++ q.triple)

def left : Token → Text
  | comment _ => []
  | token => token.text

def isComment : Token → Bool
  | comment _ => true
  | _ => false

def textOf (tokens : List Token) : Text := tokens.flatMap text

def leftOf (tokens : List Token) : Text := tokens.flatMap left

/-- Whether a text can be taken as a token before another text. A comment takes the whole line with
it, and a literal does not begin with three quotes unless it is a long one. -/
def Fits : Token → Text → Prop
  | code c, _ => c ≠ '#' ∧ isQuote c = false
  | comment inner, after => '\n' ∉ inner ∧ after.AtLineEnd
  | literal q inner, after =>
    LiteralBody [q.char] inner ∧ '\n' ∉ inner ∧
      ¬q.triple <+: q.char :: (inner ++ [q.char]) ++ after
  | long q inner, _ => LiteralBody q.triple inner

/-- A text divided into code, comments and whole literals. -/
def Divides : List Token → Prop
  | [] => True
  | token :: rest => token.Fits (textOf rest) ∧ Divides rest

/-- The three quotes that close a long literal are the first ones behind its opening, escaped ones
included. -/
def EndsFirst (q : Quote) (inner : Text) : Prop := ¬q.triple <:+: inner ++ [q.char, q.char]

theorem textOf_cons (token : Token) (rest : List Token) :
    textOf (token :: rest) = token.text ++ textOf rest :=
  List.flatMap_cons

theorem leftOf_cons (token : Token) (rest : List Token) :
    leftOf (token :: rest) = token.left ++ leftOf rest :=
  List.flatMap_cons

theorem atLineEnd_cases (tokens : List Token) (ends : (textOf tokens).AtLineEnd) :
    tokens = [] ∨ ∃ rest, tokens = .code '\n' :: rest := by
  match tokens with
  | [] => exact .inl rfl
  | .code c :: rest => exact .inr ⟨rest, by rw [ends c rfl]⟩
  | .comment inner :: rest => exact absurd (ends '#' rfl) (by decide)
  | .literal q inner :: rest => exact absurd (ends q.char rfl) q.char_ne.2.1
  | .long q inner :: rest => exact absurd (ends q.char rfl) q.char_ne.2.1

theorem atLineEnd_leftOf (tokens : List Token) (ends : (textOf tokens).AtLineEnd) :
    (leftOf tokens).AtLineEnd := by
  rcases atLineEnd_cases tokens ends with rfl | ⟨rest, rfl⟩
  · exact nofun
  · rintro c ⟨⟩
    rfl

end Token

namespace Reader

def Keeps (s : Reader) (w : Text) : Prop :=
  ∀ part, part ++ ['#'] <+: w → (s.after part).isOutside = false

theorem keeps_cons_iff (s : Reader) (c : Char) (w : Text) :
    s.Keeps (c :: w) ↔ (c = '#' → s.isOutside = false) ∧ (s.next c).Keeps w := by
  constructor
  · intro keeps
    refine ⟨?_, fun part starts => keeps (c :: part) (List.cons_prefix_cons.2 ⟨rfl, starts⟩)⟩
    rintro rfl
    exact keeps [] ⟨w, rfl⟩
  · rintro ⟨first, keeps⟩ part starts
    cases part with
    | nil => exact first (List.cons_prefix_cons.1 starts).1.symm
    | cons d part =>
      obtain ⟨rfl, later⟩ := List.cons_prefix_cons.1 starts
      exact keeps part later

theorem atLineEnd_kept_comment (t : Text) : (comment.kept t).AtLineEnd := by
  induction t with
  | nil => exact nofun
  | cons c rest ih =>
    by_cases feed : c = '\n'
    · subst feed
      rw [kept_newline]
      rintro c ⟨⟩
      rfl
    · have step : comment.next c = .comment := next_of_ne _ c feed
      rwa [kept, if_pos step, step]

theorem kept_append_eq_iff (s : Reader) (w t u : Text) (reads : s ≠ .comment) :
    s.kept (w ++ t) = w ++ u ↔ s.Keeps w ∧ (s.after w).kept t = u := by
  induction w generalizing s with
  | nil => exact (and_iff_right fun part starts => absurd (List.prefix_nil.1 starts) (by simp)).symm
  | cons c w ih =>
    rw [List.cons_append, List.cons_append, keeps_cons_iff, and_assoc]
    by_cases begins : s.next c = .comment
    · obtain ⟨rfl, outside⟩ := (next_eq_comment_iff s c reads).1 begins
      refine iff_of_false ?_ fun keeps => ?_
      · rw [kept, if_pos begins, begins]
        intro same
        have ends := atLineEnd_kept_comment (w ++ t)
        rw [same] at ends
        exact absurd (ends '#' rfl) (by decide)
      · rw [keeps.1 rfl] at outside
        cases outside
    · have quiet : c = '#' → s.isOutside = false := by
        intro sign
        by_contra outside
        exact begins ((next_eq_comment_iff s c reads).2 ⟨sign, (Bool.not_eq_false _).mp outside⟩)
      rw [kept_cons s c _ begins, List.cons_inj_right, ih (s.next c) begins, and_iff_right quiet]
      rfl

theorem Keeps.after_ne_comment {s : Reader} {w : Text} (keeps : s.Keeps w) (reads : s ≠ .comment) :
    s.after w ≠ .comment := by
  induction w generalizing s with
  | nil => exact reads
  | cons c w ih =>
    obtain ⟨first, later⟩ := (keeps_cons_iff s c w).1 keeps
    refine ih later fun begins => ?_
    obtain ⟨sign, outside⟩ := (next_eq_comment_iff s c reads).1 begins
    rw [first sign] at outside
    cases outside

/-- Within a token, the reader is outside of literals at the sign that begins a comment and at no
other sign. -/
def ReadsToken (s : Reader) (token : Token) : Prop :=
  ∀ part, part ++ ['#'] <+: token.text →
    ((s.after part).isOutside = true ↔ token.isComment = true ∧ part = [])

/-- The same for all tokens of a text, each read where the ones before it take the reader. -/
def ReadsSigns (s : Reader) (tokens : List Token) : Prop :=
  ∀ before token after, tokens = before ++ token :: after →
    (s.after (Token.textOf before)).ReadsToken token

theorem readsSigns_cons_iff (s : Reader) (token : Token) (rest : List Token) :
    s.ReadsSigns (token :: rest) ↔
      s.ReadsToken token ∧ (s.after token.text).ReadsSigns rest := by
  constructor
  · intro reads
    refine ⟨reads [] token rest rfl, ?_⟩
    rintro before other after rfl
    have later := reads (token :: before) other after rfl
    rwa [Token.textOf_cons, after_append] at later
  · rintro ⟨here, later⟩ before other after split
    cases before with
    | nil =>
      cases split
      exact here
    | cons first before =>
      cases split
      rw [Token.textOf_cons, after_append]
      exact later before other after rfl

theorem kept_eq_leftOf_literal_iff (s : Reader) (token : Token) (rest : List Token)
    (reads : s ≠ .comment) (whole : token.left = token.text) (literal : token.isComment = false)
    (later : s.after token.text ≠ .comment →
      ((s.after token.text).kept (Token.textOf rest) = Token.leftOf rest ↔
        (s.after token.text).ReadsSigns rest)) :
    s.kept (Token.textOf (token :: rest)) = Token.leftOf (token :: rest) ↔
      s.ReadsSigns (token :: rest) := by
  have signs : s.Keeps token.text ↔ s.ReadsToken token := by
    simp only [Keeps, ReadsToken, literal, Bool.false_eq_true, false_and, iff_false,
      Bool.not_eq_true]
  rw [Token.textOf_cons, Token.leftOf_cons, whole, kept_append_eq_iff s _ _ _ reads,
    readsSigns_cons_iff, ← signs]
  exact and_congr_right fun keeps => later (keeps.after_ne_comment reads)

theorem after_sign (s : Reader) (part : Text) (begins : s.next '#' = .comment)
    (plain : '\n' ∉ part) : s.after ('#' :: part) = .comment := by
  change (s.next '#').after part = .comment
  rw [begins]
  exact (kept_comment part plain).2

theorem readsToken_comment_iff (s : Reader) (inner : Text) (reads : s ≠ .comment)
    (plain : '\n' ∉ inner) : s.ReadsToken (.comment inner) ↔ s.isOutside = true := by
  constructor
  · intro signs
    exact (signs [] ⟨inner, rfl⟩).2 ⟨rfl, rfl⟩
  · intro outside part starts
    cases part with
    | nil => exact iff_of_true outside ⟨rfl, rfl⟩
    | cons c part =>
      obtain ⟨rfl, within⟩ := List.cons_prefix_cons.1 starts
      have solid : '\n' ∉ part := fun feed => plain (within.subset (List.mem_append_left _ feed))
      have begins : s.next '#' = .comment := (next_eq_comment_iff s '#' reads).2 ⟨rfl, outside⟩
      rw [after_sign s part begins solid]
      exact iff_of_false Bool.false_ne_true fun both => List.cons_ne_nil _ _ both.2

theorem kept_eq_leftOf_comment_iff (s : Reader) (inner : Text) (rest : List Token)
    (reads : s ≠ .comment) (plain : '\n' ∉ inner) (ends : (Token.textOf rest).AtLineEnd)
    (later : comment.kept (Token.textOf rest) = Token.leftOf rest ↔ comment.ReadsSigns rest) :
    s.kept (Token.textOf (.comment inner :: rest)) = Token.leftOf (.comment inner :: rest) ↔
      s.ReadsSigns (.comment inner :: rest) := by
  rw [Token.textOf_cons, Token.leftOf_cons, readsSigns_cons_iff,
    readsToken_comment_iff s inner reads plain]
  change s.kept ('#' :: (inner ++ Token.textOf rest)) = Token.leftOf rest ↔
    _ ∧ (s.after ('#' :: inner)).ReadsSigns rest
  by_cases outside : s.isOutside = true
  · have begins : s.next '#' = .comment := (next_eq_comment_iff s '#' reads).2 ⟨rfl, outside⟩
    rw [kept, if_pos begins, begins, kept_append, (kept_comment inner plain).1,
      (kept_comment inner plain).2, List.nil_append, after_sign s inner begins plain, later]
    exact (and_iff_right outside).symm
  · -- The sign is kept, where the comment should be gone up to the end of its line.
    refine iff_of_false ?_ fun signs => outside signs.1
    rw [kept_cons s '#' _ fun begins => outside ((next_eq_comment_iff s '#' reads).1 begins).2]
    intro same
    have line := Token.atLineEnd_leftOf rest ends
    rw [← same] at line
    exact absurd (line '#' rfl) (by decide)

theorem kept_eq_leftOf_iff (tokens : List Token) (divides : Token.Divides tokens) (s : Reader)
    (reads : s = .comment → (Token.textOf tokens).AtLineEnd) :
    s.kept (Token.textOf tokens) = Token.leftOf tokens ↔ s.ReadsSigns tokens := by
  induction tokens generalizing s with
  | nil =>
    refine iff_of_true rfl fun before token after split => ?_
    exact absurd split.symm (List.append_ne_nil_of_right_ne_nil _ (List.cons_ne_nil _ _))
  | cons token rest ih =>
    obtain ⟨fits, others⟩ := divides
    cases token with
    | code c =>
      have stays : s.next c ≠ .comment := by
        by_cases skips : s = .comment
        · have feed : c = '\n' := reads skips c rfl
          rw [feed, next_newline]
          exact nextLine_ne_comment s
        · exact fun begins => fits.1 ((next_eq_comment_iff s c skips).1 begins).1
      have unsigned : s.ReadsToken (.code c) := by
        intro part starts
        have sign : '#' ∈ [c] := starts.subset List.mem_append_cons_self
        exact absurd (List.mem_singleton.1 sign).symm fits.1
      rw [readsSigns_cons_iff]
      change s.kept (c :: Token.textOf rest) = c :: Token.leftOf rest ↔
        _ ∧ (s.next c).ReadsSigns rest
      rw [kept_cons s c _ stays, List.cons_inj_right, and_iff_right unsigned]
      exact ih others (s.next c) fun skips => absurd skips stays
    | comment inner =>
      have begins : s ≠ .comment := fun skips => absurd (reads skips '#' rfl) (by decide)
      exact kept_eq_leftOf_comment_iff s inner rest begins fits.1 fits.2
        (ih others .comment fun _ => fits.2)
    | literal q inner =>
      have opens : s ≠ .comment := fun skips => absurd (reads skips q.char rfl) q.char_ne.2.1
      exact kept_eq_leftOf_literal_iff s _ rest opens rfl rfl fun stays =>
        ih others _ fun skips => absurd skips stays
    | long q inner =>
      have opens : s ≠ .comment := fun skips => absurd (reads skips q.char rfl) q.char_ne.2.1
      exact kept_eq_leftOf_literal_iff s _ rest opens rfl rfl fun stays =>
        ih others _ fun skips => absurd skips stays

/-! Whole literals, read from code. -/

theorem kept_step {s u : Reader} {c : Char} (step : s.next c = u) (reads : u ≠ .comment)
    (rest : Text) : s.kept (c :: rest) = c :: u.kept rest := by
  subst step
  exact kept_cons s c rest reads

theorem kept_openedTwice (q : Quote) (t : Text) (other : ¬[q.char] <+: t) :
    (openedTwice q).kept t = code.kept t := by
  cases t with
  | nil => rfl
  | cons c rest =>
    have single : c ≠ q.char := by
      rintro rfl
      exact other ⟨rest, rfl⟩
    have same : (openedTwice q).next c = code.next c := by
      by_cases feed : c = '\n'
      · subst feed
        rw [next_newline, next_newline]
        rfl
      · rw [next_of_ne _ c feed, next_of_ne _ c feed]
        exact if_neg single
    rw [kept, kept, same]

theorem kept_literalBody (q : Quote) (inner t : Text) (body : LiteralBody [q.char] inner)
    (plain : '\n' ∉ inner) :
    (literal q).kept (inner ++ q.char :: t) = inner ++ q.char :: code.kept t := by
  induction body with
  | nil => exact kept_step (next_literal_quote q) (by simp) t
  | plain c rest unescaped inside more ih =>
    rw [List.mem_cons, not_or] at plain
    have other : c ≠ q.char := by
      rintro rfl
      exact inside ⟨rest ++ [q.char], rfl⟩
    have stays : (literal q).next c = .literal q := by
      rw [next_of_ne _ c (Ne.symm plain.1), nextInLine, nextInLiteral, if_neg other,
        if_neg unescaped]
    rw [List.cons_append, kept_step stays (by simp), ih plain.2, List.cons_append]
  | escape c rest more ih =>
    simp only [List.mem_cons, not_or] at plain
    have back : (escaped q).next c = .literal q := next_of_ne _ c (Ne.symm plain.2.1)
    rw [List.cons_append, List.cons_append, kept_step (next_literal_backslash q) (by simp),
      kept_step back (by simp), ih plain.2.2, List.cons_append, List.cons_append]

theorem kept_literal (q : Quote) (inner t : Text) (body : LiteralBody [q.char] inner)
    (plain : '\n' ∉ inner) (short : ¬q.triple <+: q.char :: (inner ++ q.char :: t)) :
    code.kept (q.char :: (inner ++ q.char :: t)) = q.char :: (inner ++ q.char :: code.kept t) := by
  rw [kept_step (next_code_quote q) (by simp)]
  congr 1
  cases inner with
  | nil =>
    -- The empty literal: no third quote follows, so the reader is as good as in code.
    have other : ¬[q.char] <+: t := by
      rintro ⟨rest, rfl⟩
      exact short ⟨rest, rfl⟩
    rw [List.nil_append, kept_step (next_opened_quote q) (by simp), kept_openedTwice q t other,
      List.nil_append]
  | cons c rest =>
    have other : c ≠ q.char := by
      cases body with
      | plain _ _ _ inside =>
        rintro rfl
        exact inside ⟨rest ++ [q.char], rfl⟩
      | escape => exact Ne.symm q.char_ne.2.2
    have inLine : c ≠ '\n' := fun feed => plain (feed ▸ List.mem_cons_self)
    have same : (opened q).next c = (literal q).next c := by
      rw [next_of_ne _ c inLine, next_of_ne _ c inLine]
      exact if_neg other
    have whole := kept_literalBody q (c :: rest) t body plain
    rw [List.cons_append, kept] at whole ⊢
    rwa [same]

theorem kept_longBody (q : Quote) (closing : Fin 3) (inner t : Text)
    (first : ¬q.triple <:+: List.replicate closing q.char ++ (inner ++ [q.char, q.char])) :
    (long q closing).kept (inner ++ (q.triple ++ t)) = inner ++ (q.triple ++ code.kept t) := by
  have one : (long q 0).next q.char = .long q 1 := next_long_quote q 0
  have two : (long q 1).next q.char = .long q 2 := next_long_quote q 1
  have three : (long q 2).next q.char = .code := next_long_quote q 2
  induction inner generalizing closing with
  | nil =>
    match closing with
    | 0 =>
      rw [List.nil_append, List.nil_append]
      change (long q 0).kept (q.char :: q.char :: q.char :: t) = _
      rw [kept_step one (by simp), kept_step two (by simp), kept_step three (by simp)]
      rfl
    | 1 => exact absurd (List.infix_refl q.triple) first
    | 2 => exact absurd (List.suffix_cons q.char q.triple).isInfix first
  | cons c rest ih =>
    by_cases closes : c = q.char
    · subst closes
      -- One more quote in a row; a third one would have closed the literal.
      match closing with
      | 0 => rw [List.cons_append, kept_step one (by simp), ih 1 first, List.cons_append]
      | 1 => rw [List.cons_append, kept_step two (by simp), ih 2 first, List.cons_append]
      | 2 => exact absurd (List.prefix_append q.triple (rest ++ [q.char, q.char])).isInfix first
    · have later : ¬q.triple <:+: rest ++ [q.char, q.char] := by
        intro inside
        apply first
        rw [List.cons_append, ← List.singleton_append, ← List.append_assoc]
        exact inside.trans (List.suffix_append _ _).isInfix
      rw [List.cons_append, kept_step (next_long_other q closing c closes) (by simp), ih 0 later,
        List.cons_append]

theorem kept_long (q : Quote) (inner t : Text) (first : Token.EndsFirst q inner) :
    code.kept (q.triple ++ (inner ++ (q.triple ++ t))) =
      q.triple ++ (inner ++ (q.triple ++ code.kept t)) := by
  have whole := kept_longBody q 0 inner t first
  change code.kept (q.char :: q.char :: q.char :: (inner ++ (q.triple ++ t))) = _
  rw [kept_step (next_code_quote q) (by simp), kept_step (next_opened_quote q) (by simp),
    kept_step (next_openedTwice_quote q) (by simp), whole]
  rfl

/-- As long as every long literal ends with its first three quotes, exactly the comments go. -/
theorem kept_eq_leftOf (tokens : List Token) (divides : Token.Divides tokens)
    (first : ∀ q inner, Token.long q inner ∈ tokens → Token.EndsFirst q inner) :
    code.kept (Token.textOf tokens) = Token.leftOf tokens := by
  induction tokens with
  | nil => rfl
  | cons token rest ih =>
    obtain ⟨fits, others⟩ := divides
    have later := ih others fun q inner inside => first q inner (List.mem_cons_of_mem _ inside)
    rw [Token.textOf_cons, Token.leftOf_cons]
    cases token with
    | code c =>
      obtain ⟨unsigned, other⟩ := fits
      have stays : code.next c = .code := by
        by_cases feed : c = '\n'
        · rw [feed, next_newline]
          rfl
        · rw [next_of_ne _ c feed, nextInLine, nextInCode, if_neg unsigned,
            Quote.ofChar?_eq_none c (Bool.eq_false_iff.1 other)]
      change code.kept (c :: Token.textOf rest) = c :: Token.leftOf rest
      rw [kept_step stays (by simp), later]
    | comment inner =>
      obtain ⟨plain, ends⟩ := fits
      have same : comment.kept (Token.textOf rest) = code.kept (Token.textOf rest) := by
        rcases ends.eq_nil_or with nothing | ⟨below, feed⟩
        · rw [nothing]
          rfl
        · rw [feed, kept_newline, kept_newline]
          rfl
      change code.kept ('#' :: (inner ++ Token.textOf rest)) = Token.leftOf rest
      have begins : code.next '#' = .comment := rfl
      rw [kept, if_pos begins, begins, ← later, ← same, kept_append, (kept_comment inner plain).1,
        (kept_comment inner plain).2, List.nil_append]
    | literal q inner =>
      obtain ⟨body, plain, short⟩ := fits
      have shape : ∀ t, Token.text (.literal q inner) ++ t =
          q.char :: (inner ++ q.char :: t) := by
        intro t
        change q.char :: (inner ++ [q.char] ++ t) = _
        rw [List.append_assoc, List.singleton_append]
      change code.kept _ = Token.text (.literal q inner) ++ _
      rw [shape, shape, ← later]
      exact kept_literal q inner _ body plain (shape _ ▸ short)
    | long q inner =>
      have shape : ∀ t, Token.text (.long q inner) ++ t =
          q.triple ++ (inner ++ (q.triple ++ t)) := by
        intro t
        change q.triple ++ (inner ++ q.triple) ++ t = _
        rw [List.append_assoc, List.append_assoc]
      change code.kept _ = Token.text (.long q inner) ++ _
      rw [shape, shape, ← later]
      exact kept_long q inner _ (first q inner List.mem_cons_self)

end Reader

/-- Of a text made of code, comments and whole literals, the removal leaves all but the comments
exactly if its reader is outside of literals at the signs that begin comments and at no other sign.
It does so if each long literal ends with the first three quotes behind its opening. -/
theorem dropHashComments_eq_leftOf_iff (tokens : List Token) (divides : Token.Divides tokens) :
    (dropHashComments (Token.textOf tokens) = Token.leftOf tokens ↔
        Reader.code.ReadsSigns tokens) ∧
      ((∀ q inner, Token.long q inner ∈ tokens → Token.EndsFirst q inner) →
        dropHashComments (Token.textOf tokens) = Token.leftOf tokens) := by
  rw [Reader.dropHashComments_eq]
  exact ⟨Reader.kept_eq_leftOf_iff tokens divides .code (by simp),
    Reader.kept_eq_leftOf tokens divides⟩

/-- Signs in both kinds of literals, one behind an escaped quote and one on a second line, and a
comment right behind an empty literal. -/
theorem dropHashComments_eq_leftOf_mixed :
    let tokens : List Token := [.literal .single "\\'#".toList, .literal .double [],
      .comment "c".toList, .code '\n', .long .single "\\\n#".toList]
    Token.Divides tokens ∧
      (∀ q inner, Token.long q inner ∈ tokens → Token.EndsFirst q inner) ∧
      dropHashComments (Token.textOf tokens) = "'\\'#'\"\"\n'''\\\n#'''".toList := by
  intro tokens
  have divides : Token.Divides tokens := by
    refine ⟨⟨?_, by decide, by decide⟩, ⟨.nil, by decide, by decide⟩, ⟨by decide, ?_⟩,
      ⟨by decide, rfl⟩, ?_, trivial⟩
    · exact .escape _ _ (.plain _ _ (by decide) (by decide) .nil)
    · rintro c ⟨⟩
      rfl
    · exact .escape _ _ (.plain _ _ (by decide) (by decide) .nil)
  have first : ∀ q inner, Token.long q inner ∈ tokens → Token.EndsFirst q inner := by
    intro q inner inside
    simp only [tokens, List.mem_cons, Token.long.injEq, reduceCtorEq, List.not_mem_nil, or_false,
      false_or] at inside
    obtain ⟨rfl, rfl⟩ := inside
    rw [Token.EndsFirst]
    decide
  exact ⟨divides, first, (dropHashComments_eq_leftOf_iff tokens divides).2 first⟩

/-- A backslash keeps a long literal from ending only for the text, not for the removal, which cuts
the literal at its sign. -/
theorem dropHashComments_cuts_literal :
    let tokens : List Token := [.long .double "\\\"\"\"#".toList]
    Token.Divides tokens ∧ Token.textOf tokens = "\"\"\"\\\"\"\"#\"\"\"".toList ∧
      Token.leftOf tokens = Token.textOf tokens ∧
      dropHashComments (Token.textOf tokens) = "\"\"\"\\\"\"\"".toList := by
  refine ⟨⟨?_, trivial⟩, by decide, by decide, by decide +kernel⟩
  refine .escape _ _ (.plain _ _ (by decide) (by decide) ?_)
  exact .plain _ _ (by decide) (by decide) (.plain _ _ (by decide) (by decide) .nil)

end Listing
