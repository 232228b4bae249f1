import Listing.Proofs.Page.Range
import Listing.Proofs.Text.Content

/-!
The tokens of a page range, by how they are written: a number, or two with a hyphen between. A token
that is written so and fits the document selects pages, any other one is refused, and there is no
third way for a range whose numbers can be read.
-/

namespace Listing

/-- A number is written in a text: its digits, with blanks around them at will. -/
structure Writes (digits t : Text) : Prop where
  filled : digits ≠ []
  decimal : ∀ c ∈ digits, isDigit c = true
  among_blanks : ∃ before after : Text,
    before.isBlank = true ∧ after.isBlank = true ∧ t = before ++ (digits ++ after)

inductive RangeToken.Spells : RangeToken → Text → Prop where
  | single {digits t} (number : Writes digits t) : Spells (.single digits) t
  | range {first last s t} (left : Writes first s) (right : Writes last t) :
      Spells (.range first last) (s ++ '-' :: t)

theorem isSpace_of_isDigit (c : Char) (digit : isDigit c = true) : isSpace c = false := by
  obtain ⟨value, known⟩ := Option.isSome_iff_exists.1 digit
  obtain ⟨first, found, _⟩ := Option.map_eq_some_iff.1 known
  have listed := List.mem_of_find?_eq_some found
  have near := List.find?_some found
  simp only [Bool.and_eq_true, decide_eq_true_eq] at near
  have apart : ∀ first ∈ decimalZeros, ∀ offset < 10,
      isSpace (Char.ofNat (first + offset)) = false := by
    decide +kernel
  have here := apart first listed (c.toNat - first) (by omega)
  rwa [Nat.add_sub_cancel' near.1, Char.ofNat_toNat] at here

namespace Writes

variable {digits t : Text} (number : Writes digits t)

include number

theorem trim_eq : t.trim = digits := by
  obtain ⟨before, after, blankBefore, blankAfter, rfl⟩ := number.among_blanks
  obtain ⟨c, rest, rfl⟩ := List.exists_cons_of_ne_nil number.filled
  have solid : isSpace c = false := isSpace_of_isDigit c (number.decimal c List.mem_cons_self)
  have front : Text.trimStart (before ++ (c :: rest ++ after)) = c :: rest ++ after := by
    have gone : before.dropWhile isSpace = [] := (Text.trimStart_eq_nil_iff before).2 blankBefore
    rw [Text.trimStart, List.dropWhile_append, gone]
    exact List.dropWhile_cons_of_neg (by simp [solid])
  rw [Text.trim, front, Text.trimEnd_append_blank _ _ blankAfter, Text.trimEnd_eq_self_iff]
  intro last inside
  exact isSpace_of_isDigit last (number.decimal last (List.mem_of_getLast? inside))

theorem no_hyphen : '-' ∉ t := by
  obtain ⟨before, after, blankBefore, blankAfter, rfl⟩ := number.among_blanks
  rw [Text.isBlank, List.all_eq_true] at blankBefore blankAfter
  simp only [List.mem_append, not_or]
  exact ⟨fun inside => Bool.false_ne_true (blankBefore _ inside),
    fun inside => Bool.false_ne_true (number.decimal _ inside),
    fun inside => Bool.false_ne_true (blankAfter _ inside)⟩

theorem infix_text : digits <:+: t := by
  obtain ⟨before, after, _, _, rfl⟩ := number.among_blanks
  exact ⟨before, after, List.append_assoc ..⟩

end Writes

theorem numeral?_eq_some_iff (t digits : Text) : numeral? t = some digits ↔ Writes digits t := by
  constructor
  · intro read
    unfold numeral? at read
    split_ifs at read with decimal
    cases read
    obtain ⟨before, blankBefore, start⟩ := Text.exists_trimStart_append t
    obtain ⟨after, blankAfter, stop⟩ := Text.exists_trimEnd_append t.trimStart
    refine ⟨decimal.1, List.all_eq_true.1 decimal.2, before, after, blankBefore, blankAfter, ?_⟩
    rw [Text.trim, ← stop, ← start]
  · intro number
    have decimal : digits.all isDigit = true := List.all_eq_true.2 number.decimal
    rw [numeral?, number.trim_eq, if_pos ⟨number.filled, decimal⟩]

namespace RangeToken

theorem ofText?_eq_some_iff (t : Text) (form : RangeToken) :
    ofText? t = some form ↔ form.Spells t := by
  constructor
  · intro read
    have joined : List.intercalate ['-'] (t.splitOn '-') = t := List.intercalate_splitOn '-'
    unfold ofText? at read
    split at read
    · next one split =>
      obtain ⟨digits, number, rfl⟩ := Option.map_eq_some_iff.1 read
      rw [split, List.intercalate_singleton] at joined
      rw [← joined]
      exact .single ((numeral?_eq_some_iff ..).1 number)
    · next left right split =>
      obtain ⟨first, lower, more⟩ := Option.bind_eq_some_iff.1 read
      obtain ⟨last, upper, same⟩ := Option.bind_eq_some_iff.1 more
      cases same
      rw [split, List.intercalate_cons_cons, List.intercalate_singleton,
        List.append_assoc] at joined
      rw [← joined]
      exact .range ((numeral?_eq_some_iff ..).1 lower) ((numeral?_eq_some_iff ..).1 upper)
    · cases read
  · rintro (number | ⟨left, right⟩)
    · have one : t.splitOn '-' = [t] := List.splitOn_eq_singleton number.no_hyphen
      rw [ofText?, one]
      exact Option.map_eq_some_iff.2 ⟨_, (numeral?_eq_some_iff ..).2 number, rfl⟩
    · rw [ofText?, List.splitOn_append_cons_self, List.splitOn_eq_singleton left.no_hyphen,
        List.splitOn_eq_singleton right.no_hyphen]
      exact Option.bind_eq_some_iff.2 ⟨_, (numeral?_eq_some_iff ..).2 left,
        Option.bind_eq_some_iff.2 ⟨_, (numeral?_eq_some_iff ..).2 right, rfl⟩⟩

theorem Spells.unique {t : Text} {form other : RangeToken} (spelled : form.Spells t)
    (again : other.Spells t) : other = form := by
  rw [← ofText?_eq_some_iff] at spelled again
  rw [spelled] at again
  exact (Option.some.inj again).symm

def numerals : RangeToken → List Text
  | .single digits => [digits]
  | .range first last => [first, last]

theorem Spells.writes {t : Text} {form : RangeToken} (spelled : form.Spells t) :
    ∀ digits ∈ form.numerals, ∃ part, part <:+: t ∧ Writes digits part := by
  cases spelled with
  | single number => exact List.forall_mem_singleton.2 ⟨t, List.infix_refl t, number⟩
  | @range _ _ s u left right =>
    rw [numerals, List.forall_mem_cons, List.forall_mem_singleton]
    exact ⟨⟨s, (List.prefix_append s _).isInfix, left⟩,
      ⟨u, ((List.suffix_cons '-' u).trans (List.suffix_append s _)).isInfix, right⟩⟩

def numbers : RangeToken → List Int
  | .single digits => [digitsValue digits]
  | .range first last => [digitsValue first, digitsValue last]

end RangeToken

/-- A token that selects no pages of a document of `total` pages: it is malformed, its ends are
reversed, or it writes a number that no page has. -/
inductive Misfit (total : Nat) (token : Text) : Prop where
  | malformed (unspelled : ∀ form : RangeToken, ¬form.Spells token)
  | reversed {first last} (spelled : (RangeToken.range first last).Spells token)
      (less : digitsValue last < digitsValue first)
  | outside {form : RangeToken} {number : Int} (spelled : form.Spells token)
      (written : number ∈ form.numbers) (beyond : number < 1 ∨ total < number)

/-- A text whose runs of digits are all short enough to be read as numbers. -/
def Readable (t : Text) : Prop :=
  ∀ digits : Text, digits <:+: t → (∀ c ∈ digits, isDigit c = true) → digits.length ≤ digitLimit

theorem Readable.of_infix {t part : Text} (readable : Readable t) (inside : part <:+: t) :
    Readable part :=
  fun digits within => readable digits (within.trans inside)

def Overlong (token : Text) : Prop :=
  ∃ form : RangeToken, form.Spells token ∧ ∃ digits ∈ form.numerals, digitLimit < digits.length

theorem Readable.not_overlong {token : Text} (readable : Readable token) : ¬Overlong token := by
  rintro ⟨form, spelled, digits, member, long⟩
  obtain ⟨part, inside, number⟩ := spelled.writes digits member
  have short := readable digits (number.infix_text.trans inside) number.decimal
  omega

theorem pageNumber_of_short {form : RangeToken} {token : Text} (short : ¬Overlong token)
    (spelled : form.Spells token) (digits : Text) (member : digits ∈ form.numerals) :
    pageNumber digits = .ok (digitsValue digits) :=
  if_neg fun long => short ⟨form, spelled, digits, member, long⟩

theorem misfit_single_iff (total : Nat) (token digits : Text)
    (spelled : (RangeToken.single digits).Spells token) :
    Misfit total token ↔ (digitsValue digits : Int) < 1 ∨ (total : Int) < digitsValue digits := by
  constructor
  · rintro (unspelled | ⟨again, _⟩ | ⟨again, written, beyond⟩)
    · exact absurd spelled (unspelled _)
    · cases spelled.unique again
    · cases spelled.unique again
      rwa [← List.mem_singleton.1 written]
  · exact .outside spelled (List.mem_singleton_self _)

theorem misfit_range_iff (total : Nat) (token first last : Text)
    (spelled : (RangeToken.range first last).Spells token) :
    Misfit total token ↔
      ((digitsValue first : Int) < 1 ∨ (total : Int) < digitsValue first) ∨
        ((digitsValue last : Int) < 1 ∨ (total : Int) < digitsValue last) ∨
          (digitsValue last : Int) < digitsValue first := by
  constructor
  · rintro (unspelled | ⟨again, less⟩ | ⟨again, written, beyond⟩)
    · exact absurd spelled (unspelled _)
    · cases spelled.unique again
      exact .inr (.inr (Int.ofNat_lt.2 less))
    · cases spelled.unique again
      rcases List.mem_pair.1 written with rfl | rfl
      · exact .inl beyond
      · exact .inr (.inl beyond)
  · rintro (beyond | beyond | less)
    · exact .outside spelled List.mem_cons_self beyond
    · exact .outside spelled (List.mem_cons_of_mem _ (List.mem_singleton_self _)) beyond
    · exact .reversed spelled (Int.ofNat_lt.1 less)

/-- A token as a complaint shows it: without the blanks around it, unless it is all blanks. -/
def blamed (raw : Text) : Text := if raw.trim = [] then raw else raw.trim

theorem outside_toNat_iff (total number : Int) :
    number < 1 ∨ (total.toNat : Int) < number ↔ number < 1 ∨ total < number := by
  omega

section Outcome

variable (total : Int) (raw : Text)

theorem tokenPages_of_unspelled (unspelled : ∀ form : RangeToken, ¬form.Spells raw.trim) :
    ∃ fault, tokenPages (.int total) raw = .error (.token (blamed raw) fault) ∧
      fault ≠ .rangeRequired := by
  have unread : RangeToken.ofText? raw.trim = none := by
    rw [Option.eq_none_iff_forall_ne_some]
    exact fun form read => unspelled form ((RangeToken.ofText?_eq_some_iff ..).1 read)
  unfold tokenPages blamed
  dsimp only
  rw [unread]
  split_ifs
  · exact ⟨_, rfl, nofun⟩
  · exact ⟨_, rfl, nofun⟩

theorem trim_ne_nil_of_spells {form : RangeToken} (spelled : form.Spells raw.trim) :
    raw.trim ≠ [] := by
  intro empty
  rw [empty, ← RangeToken.ofText?_eq_some_iff] at spelled
  cases spelled

theorem blamed_of_spells {form : RangeToken} (spelled : form.Spells raw.trim) :
    blamed raw = raw.trim :=
  if_neg (trim_ne_nil_of_spells raw spelled)

theorem tokenPages_overlong (overlong : Overlong raw.trim) :
    ∃ count, tokenPages (.int total) raw = .error (.number (.tooLong count)) := by
  obtain ⟨form, spelled, digits, member, long⟩ := overlong
  have read := (RangeToken.ofText?_eq_some_iff ..).2 spelled
  unfold tokenPages
  dsimp only
  rw [if_neg (trim_ne_nil_of_spells raw spelled), read]
  have refused : pageNumber digits = .error (.number (.tooLong digits.length)) := if_pos long
  cases form with
  | single one =>
    obtain rfl := List.mem_singleton.1 member
    dsimp only
    rw [refused]
    exact ⟨_, rfl⟩
  | range first last =>
    dsimp only
    by_cases head : digitLimit < first.length
    · rw [pageNumber, if_pos head]
      exact ⟨_, rfl⟩
    · obtain rfl | rfl := List.mem_pair.1 member
      · exact absurd long head
      · have lower : pageNumber first = .ok (digitsValue first) := if_neg head
        rw [lower, refused]
        exact ⟨_, rfl⟩

variable (short : ¬Overlong raw.trim)

include short

theorem tokenPages_single (digits : Text) (spelled : (RangeToken.single digits).Spells raw.trim) :
    tokenPages (.int total) raw =
      if (digitsValue digits : Int) < 1 ∨ total < digitsValue digits then
        .error (.token raw.trim (.outOfBounds (toString total).toList))
      else .ok (digitsValue digits, digitsValue digits) := by
  have read := (RangeToken.ofText?_eq_some_iff ..).2 spelled
  unfold tokenPages
  dsimp only
  rw [if_neg (trim_ne_nil_of_spells raw spelled), read]
  dsimp only
  rw [pageNumber_of_short short spelled digits (List.mem_singleton_self _)]
  change (checkPage raw.trim (.int total) (digitsValue digits) >>= _) = _
  rw [checkPage_int]
  split_ifs <;> rfl

theorem tokenPages_range (first last : Text)
    (spelled : (RangeToken.range first last).Spells raw.trim) :
    tokenPages (.int total) raw =
      if (digitsValue first : Int) < 1 ∨ total < digitsValue first then
        .error (.token raw.trim (.outOfBounds (toString total).toList))
      else if (digitsValue last : Int) < 1 ∨ total < digitsValue last then
        .error (.token raw.trim (.outOfBounds (toString total).toList))
      else if (digitsValue last : Int) < digitsValue first then .error (.token raw.trim .reversed)
      else .ok (digitsValue first, digitsValue last) := by
  have read := (RangeToken.ofText?_eq_some_iff ..).2 spelled
  have filled := trim_ne_nil_of_spells raw spelled
  have lower := pageNumber_of_short short spelled first List.mem_cons_self
  have upper := pageNumber_of_short short spelled last (by simp [RangeToken.numerals])
  unfold tokenPages
  dsimp only
  rw [if_neg filled, read]
  dsimp only
  rw [lower, upper]
  change (checkPage raw.trim (.int total) (digitsValue first) >>= fun _ =>
    checkPage raw.trim (.int total) (digitsValue last) >>= _) = _
  rw [checkPage_int, checkPage_int]
  split_ifs <;> rfl

theorem tokenPages_outcome :
    (∃ run, tokenPages (.int total) raw = .ok run ∧ ¬Misfit total.toNat raw.trim) ∨
      ∃ fault, tokenPages (.int total) raw = .error (.token (blamed raw) fault) ∧
        fault ≠ .rangeRequired ∧ Misfit total.toNat raw.trim := by
  by_cases spelling : ∃ form : RangeToken, form.Spells raw.trim
  · obtain ⟨form, spelled⟩ := spelling
    rw [blamed_of_spells raw spelled]
    cases form with
    | single digits =>
      rw [misfit_single_iff _ _ digits spelled, outside_toNat_iff,
        tokenPages_single total raw short digits spelled]
      split_ifs with beyond
      · exact .inr ⟨_, rfl, nofun, beyond⟩
      · exact .inl ⟨_, rfl, beyond⟩
    | range first last =>
      rw [misfit_range_iff _ _ first last spelled, outside_toNat_iff, outside_toNat_iff,
        tokenPages_range total raw short first last spelled]
      split_ifs with low high less
      · exact .inr ⟨_, rfl, nofun, .inl low⟩
      · exact .inr ⟨_, rfl, nofun, .inr (.inl high)⟩
      · exact .inr ⟨_, rfl, nofun, .inr (.inr less)⟩
      · exact .inl ⟨_, rfl, not_or.2 ⟨low, not_or.2 ⟨high, less⟩⟩⟩
  · obtain ⟨fault, failed, other⟩ :=
      tokenPages_of_unspelled total raw fun form spelled => spelling ⟨form, spelled⟩
    exact .inr ⟨fault, failed, other, .malformed fun form spelled => spelling ⟨form, spelled⟩⟩

end Outcome

def rangeTokens (range : Text) : List Text := (range.splitOn ',').map Text.trim

theorem rangeTokens_of_splitOn {range raw : Text} {before after : List Text}
    (split : range.splitOn ',' = before ++ raw :: after) :
    rangeTokens range = before.map Text.trim ++ raw.trim :: after.map Text.trim := by
  rw [rangeTokens, split, List.map_append, List.map_cons]

theorem infix_intercalate (separator : Text) (parts : List Text) :
    ∀ part ∈ parts, part <:+: List.intercalate separator parts := by
  induction parts with
  | nil => simp
  | cons part rest ih =>
    cases rest with
    | nil => simp
    | cons next rest =>
      rw [List.intercalate_cons_cons, List.forall_mem_cons]
      constructor
      · rw [List.append_assoc]
        exact (List.prefix_append part _).isInfix
      · intro later member
        exact (ih later member).trans (List.suffix_append _ _).isInfix

theorem Readable.token {range : Text} (readable : Readable range) (raw : Text)
    (member : raw ∈ range.splitOn ',') : Readable raw.trim := by
  have inside : raw <:+: range := by
    have part := infix_intercalate [','] (range.splitOn ',') raw member
    rwa [List.intercalate_splitOn] at part
  have trimmed : Text.trim raw <:+: raw :=
    (List.rdropWhile_prefix isSpace _).isInfix.trans (List.dropWhile_suffix isSpace).isInfix
  exact readable.of_infix (trimmed.trans inside)

def Fits (total : Nat) (token : Text) : Prop := ¬Overlong token ∧ ¬Misfit total token

/-- A range whose first token that does not fit writes a number with too many digits to be read. -/
def Unreadable (total : Nat) (range : Text) : Prop :=
  ∃ before token after, rangeTokens range = before ++ token :: after ∧
    (∀ other ∈ before, Fits total other) ∧ Overlong token

/-- How a token is refused: it writes a number with too many digits to be read, or it is a misfit
and is blamed. -/
inductive RefusedFor (total : Nat) (raw : Text) : RangeError → Prop where
  | digits {count} (overlong : Overlong raw.trim) : RefusedFor total raw (.number (.tooLong count))
  | misfit {fault} (short : ¬Overlong raw.trim) (other : fault ≠ .rangeRequired)
      (misfit : Misfit total raw.trim) : RefusedFor total raw (.token (blamed raw) fault)

theorem RefusedFor.not_fits {total : Nat} {raw : Text} {e : RangeError}
    (refused : RefusedFor total raw e) : ¬Fits total raw.trim := by
  intro fits
  cases refused with
  | digits overlong => exact fits.1 overlong
  | misfit _ _ misfit => exact fits.2 misfit

theorem tokenPages_cases (total : Int) (raw : Text) :
    (∃ run, tokenPages (.int total) raw = .ok run ∧ Fits total.toNat raw.trim) ∨
      ∃ e, tokenPages (.int total) raw = .error e ∧ RefusedFor total.toNat raw e := by
  by_cases overlong : Overlong raw.trim
  · obtain ⟨count, refused⟩ := tokenPages_overlong total raw overlong
    exact .inr ⟨_, refused, .digits overlong⟩
  · rcases tokenPages_outcome total raw overlong with
      ⟨run, read, fits⟩ | ⟨fault, failed, other, misfit⟩
    · exact .inl ⟨run, read, overlong, fits⟩
    · exact .inr ⟨_, failed, .misfit overlong other misfit⟩

theorem tokenPages_eq_ok_iff (total : Int) (raw : Text) :
    (∃ run, tokenPages (.int total) raw = .ok run) ↔ Fits total.toNat raw.trim := by
  rcases tokenPages_cases total raw with ⟨run, read, fits⟩ | ⟨e, failed, refused⟩
  · exact iff_of_true ⟨run, read⟩ fits
  · rw [failed]
    exact iff_of_false nofun refused.not_fits

/-- A range fails as its first token that does not fit. -/
theorem pagesOfRange_stops (total : Int) (range : Text) (e : RangeError)
    (failed : pagesOfRange range (.int total) = .error e) :
    ∃ before raw after, range.splitOn ',' = before ++ raw :: after ∧
      (∀ other ∈ before, Fits total.toNat other.trim) ∧ RefusedFor total.toNat raw e := by
  unfold pagesOfRange at failed
  cases read : (range.splitOn ',').mapM (tokenPages (.int total)) with
  | ok runs =>
    rw [read] at failed
    cases failed
  | error other =>
    rw [read] at failed
    cases failed
    obtain ⟨before, raw, after, split, fine, same⟩ := (mapM_eq_error_iff _ _ _).1 read
    refine ⟨before, raw, after, split, fun other earlier => ?_, ?_⟩
    · exact (tokenPages_eq_ok_iff total other).1 (fine other earlier)
    · rcases tokenPages_cases total raw with ⟨run, done, _⟩ | ⟨e, stopped, refused⟩
      · cases same.symm.trans done
      · cases same.symm.trans stopped
        exact refused

theorem pagesOfRange_eq_ok_iff (total : Int) (range : Text) :
    (∃ pages, pagesOfRange range (.int total) = .ok pages) ↔
      ∀ token ∈ rangeTokens range, Fits total.toNat token := by
  constructor
  · rintro ⟨pages, done⟩
    obtain ⟨runs, read, _⟩ := (bind_eq_ok_iff _ _ _).1 done
    refine List.forall_mem_map.2 fun raw member => ?_
    exact (tokenPages_eq_ok_iff total raw).1 (exists_of_mapM_eq_ok _ _ _ read raw member)
  · intro fit
    cases read : pagesOfRange range (.int total) with
    | ok pages => exact ⟨pages, rfl⟩
    | error e =>
      obtain ⟨before, raw, after, split, _, refused⟩ := pagesOfRange_stops total range e read
      have member : raw.trim ∈ rangeTokens range := by
        rw [rangeTokens_of_splitOn split]
        exact List.mem_append_cons_self
      exact absurd (fit _ member) refused.not_fits

theorem pagesOfRange_unreadable (total : Int) (range : Text)
    (unreadable : Unreadable total.toNat range) :
    ∃ count, pagesOfRange range (.int total) = .error (.number (.tooLong count)) := by
  obtain ⟨before, token, after, split, fit, overlong⟩ := unreadable
  obtain ⟨first, rest, parts, rfl, more⟩ := List.map_eq_append_iff.1 split
  obtain ⟨raw, last, rfl, rfl, rfl⟩ := List.map_eq_cons_iff.1 more
  obtain ⟨count, refused⟩ := tokenPages_overlong total raw overlong
  have failed := (mapM_eq_error_iff (tokenPages (.int total)) (range.splitOn ',') _).2
    ⟨first, raw, last, parts, fun other member =>
      (tokenPages_eq_ok_iff total other).2 (fit _ (List.mem_map_of_mem member)), refused⟩
  exact ⟨count, by rw [pagesOfRange, failed]; rfl⟩

/-- A range gives its pages if every token fits, and else a complaint about one that does not,
unless a number before has too many digits to be read. -/
theorem pagesOfRange_cases (total : Nat) (range : Text) :
    (∃ pages, pagesOfRange range (.int total) = .ok pages ∧
        ∀ token ∈ rangeTokens range, Fits total token) ∨
      (∃ token fault, pagesOfRange range (.int total) = .error (.token token fault) ∧
        fault ≠ .rangeRequired ∧ ∃ token ∈ rangeTokens range, Misfit total token) ∨
      ∃ count, pagesOfRange range (.int total) = .error (.number (.tooLong count)) ∧
        Unreadable total range := by
  cases read : pagesOfRange range (.int total) with
  | ok pages => exact .inl ⟨pages, rfl, (pagesOfRange_eq_ok_iff total range).1 ⟨pages, read⟩⟩
  | error e =>
    obtain ⟨before, raw, after, split, fine, refused⟩ := pagesOfRange_stops total range e read
    have tokens := rangeTokens_of_splitOn split
    cases refused with
    | digits overlong =>
      exact .inr (.inr ⟨_, rfl, _, _, _, tokens, List.forall_mem_map.2 fine, overlong⟩)
    | misfit _ other misfit =>
      have member : raw.trim ∈ rangeTokens range := by
        rw [tokens]
        exact List.mem_append_cons_self
      exact .inr (.inl ⟨_, _, rfl, other, _, member, misfit⟩)

theorem Readable.fits_iff {range : Text} (readable : Readable range) (total : Nat) (token : Text)
    (member : token ∈ rangeTokens range) : Fits total token ↔ ¬Misfit total token := by
  obtain ⟨raw, inside, rfl⟩ := List.mem_map.1 member
  exact and_iff_right (readable.token raw inside).not_overlong

theorem Readable.not_unreadable {range : Text} (readable : Readable range) (total : Nat) :
    ¬Unreadable total range := by
  rintro ⟨before, token, after, split, _, overlong⟩
  have member : token ∈ rangeTokens range := by
    rw [split]
    exact List.mem_append_cons_self
  obtain ⟨raw, inside, rfl⟩ := List.mem_map.1 member
  exact (readable.token raw inside).not_overlong overlong

theorem pagesOfRange_outcome (total : Nat) (range : Text) (readable : Readable range) :
    (∃ pages, pagesOfRange range (.int total) = .ok pages ∧
        ∀ token ∈ rangeTokens range, ¬Misfit total token) ∨
      ∃ token fault, pagesOfRange range (.int total) = .error (.token token fault) ∧
        fault ≠ .rangeRequired ∧ ∃ token ∈ rangeTokens range, Misfit total token := by
  rcases pagesOfRange_cases total range with ⟨pages, read, fit⟩ | complaint | ⟨_, _, unreadable⟩
  · exact .inl ⟨pages, read, fun token member =>
      (readable.fits_iff total token member).1 (fit token member)⟩
  · exact .inr complaint
  · exact absurd unreadable (readable.not_unreadable total)

end Listing
