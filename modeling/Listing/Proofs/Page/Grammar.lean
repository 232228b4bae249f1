import Listing.Proofs.Page.Token

/-!
The meaning of a page range. A token names one page, or the pages from one to another, and a range
means the pages that its tokens name, whatever their order and however often they repeat or overlap.
A range with a token that names no pages means nothing, and the first such token is blamed.
-/

namespace Listing

/-- The pages of a document of `total` pages that a token names, from the first to the last. -/
inductive Names (total : Nat) (token : Text) : Nat → Nat → Prop where
  | page {digits} (spelled : (RangeToken.single digits).Spells token)
      (low : 1 ≤ digitsValue digits) (high : digitsValue digits ≤ total) :
      Names total token (digitsValue digits) (digitsValue digits)
  | pages {first last} (spelled : (RangeToken.range first last).Spells token)
      (low : 1 ≤ digitsValue first) (ordered : digitsValue first ≤ digitsValue last)
      (high : digitsValue last ≤ total) :
      Names total token (digitsValue first) (digitsValue last)

def NamesPages (total : Nat) (token : Text) : Prop := ∃ first last, Names total token first last

theorem namesPages_iff (total : Nat) (token : Text) :
    NamesPages total token ↔ ¬Misfit total token := by
  constructor
  · rintro ⟨_, _, names⟩
    cases names with
    | page spelled low high =>
      rw [misfit_single_iff total token _ spelled]
      omega
    | pages spelled low ordered high =>
      rw [misfit_range_iff total token _ _ spelled]
      omega
  · intro fits
    by_cases spelling : ∃ form : RangeToken, form.Spells token
    · obtain ⟨form, spelled⟩ := spelling
      cases form with
      | single digits =>
        rw [misfit_single_iff total token digits spelled] at fits
        exact ⟨_, _, .page spelled (by omega) (by omega)⟩
      | range first last =>
        rw [misfit_range_iff total token first last spelled] at fits
        exact ⟨_, _, .pages spelled (by omega) (by omega) (by omega)⟩
    · exact absurd (.malformed fun form spelled => spelling ⟨form, spelled⟩) fits

theorem tokenPages_of_names (total : Nat) (raw : Text) (short : ¬Overlong raw.trim)
    (first last : Nat) (names : Names total raw.trim first last) :
    tokenPages (.int total) raw = .ok (first, last) := by
  cases names with
  | page spelled low high =>
    rw [tokenPages_single total raw short _ spelled, if_neg (by omega)]
  | pages spelled low ordered high =>
    rw [tokenPages_range total raw short _ _ spelled, if_neg (by omega), if_neg (by omega),
      if_neg (by omega)]

theorem tokenSelects_iff_names (total : Nat) (page : Int) (raw : Text)
    (short : ¬Overlong raw.trim) :
    tokenSelects total page raw = true ↔
      ∃ first last : Nat, Names total raw.trim first last ∧ first ≤ page ∧ page ≤ last := by
  rw [tokenSelects_iff]
  constructor
  · rintro ⟨run, read, between⟩
    have fits := (tokenPages_eq_ok_iff total raw).1 ⟨run, read⟩
    obtain ⟨first, last, names⟩ := (namesPages_iff total raw.trim).2 fits.2
    cases read.symm.trans (tokenPages_of_names total raw short first last names)
    exact ⟨first, last, names, between⟩
  · rintro ⟨first, last, names, between⟩
    exact ⟨_, tokenPages_of_names total raw short first last names, between⟩

theorem pagesOfRange_eq_error (range : Text) (total : Nat) (readable : Readable range)
    (e : RangeError) (failed : pagesOfRange range (.int total) = .error e) :
    ∃ (before : List Text) (raw : Text) (after : List Text) (fault : RangeFault),
      range.splitOn ',' = before ++ raw :: after ∧
        (∀ other ∈ before, NamesPages total other.trim) ∧ ¬NamesPages total raw.trim ∧
          e = .token (blamed raw) fault := by
  obtain ⟨before, raw, after, split, fine, refused⟩ := pagesOfRange_stops total range e failed
  cases refused with
  | digits overlong =>
    have member : raw ∈ range.splitOn ',' := by
      rw [split]
      exact List.mem_append_cons_self
    exact absurd overlong (readable.token raw member).not_overlong
  | misfit _ _ misfit =>
    refine ⟨before, raw, after, _, split, ?_, ?_, rfl⟩
    · intro other earlier
      rw [namesPages_iff]
      exact (fine other earlier).2
    · rw [namesPages_iff]
      exact not_not_intro misfit

/-- A range whose numbers can be read gives pages exactly if each of its tokens names some. They are
the pages that the tokens name, increasing. Otherwise the leftmost token that names none is
blamed. -/
theorem pagesOfRange_grammar (range : Text) (total : Nat) (readable : Readable range) :
    ((∃ pages, pagesOfRange range (.int total) = .ok pages) ↔
        ∀ token ∈ rangeTokens range, NamesPages total token) ∧
      (∀ pages, pagesOfRange range (.int total) = .ok pages → pages.Pairwise (· < ·) ∧
        ∀ page, page ∈ pages ↔ ∃ token ∈ rangeTokens range, ∃ first last : Nat,
          Names total token first last ∧ first ≤ page ∧ page ≤ last) ∧
      ((¬∀ token ∈ rangeTokens range, NamesPages total token) →
        ∃ (before : List Text) (raw : Text) (after : List Text) (fault : RangeFault),
          range.splitOn ',' = before ++ raw :: after ∧
            (∀ other ∈ before, NamesPages total other.trim) ∧ ¬NamesPages total raw.trim ∧
              pagesOfRange range (.int total) = .error (.token (blamed raw) fault)) := by
  have accepted : (∃ pages, pagesOfRange range (.int total) = .ok pages) ↔
      ∀ token ∈ rangeTokens range, NamesPages total token := by
    simp only [namesPages_iff]
    rcases pagesOfRange_outcome total range readable with
      ⟨pages, read, fit⟩ | ⟨_, _, failed, _, token, member, misfit⟩
    · exact iff_of_true ⟨pages, read⟩ fit
    · rw [failed]
      exact iff_of_false nofun fun fit => fit token member misfit
  refine ⟨accepted, ?meaning, ?blame⟩
  case meaning =>
    intro pages read
    obtain ⟨increasing, members⟩ := pagesOfRange_spec range total pages read
    refine ⟨increasing, fun page => ?_⟩
    rw [members page, List.any_eq_true, rangeTokens]
    simp only [List.mem_map, exists_exists_and_eq_and]
    apply exists_congr
    intro raw
    apply and_congr_right
    intro member
    exact tokenSelects_iff_names total page raw (readable.token raw member).not_overlong
  case blame =>
    intro refused
    rw [← accepted] at refused
    cases read : pagesOfRange range (.int total) with
    | ok pages => exact absurd ⟨pages, read⟩ refused
    | error e =>
      obtain ⟨before, raw, after, fault, split, fine, bad, rfl⟩ :=
        pagesOfRange_eq_error range total readable e read
      exact ⟨before, raw, after, fault, split, fine, bad, rfl⟩

/-- Tokens that overlap, blanks around numbers and a digit of another script; and a range with two
tokens that name no pages. -/
theorem pagesOfRange_grammar_mixed :
    Readable " 2 - 4 ,1,\u0663".toList ∧ Readable "1, 5-2 ,9".toList ∧
      (∃ pages, pagesOfRange " 2 - 4 ,1,\u0663".toList (.int (5 : Nat)) = .ok pages ∧
        pages.Pairwise (· < ·) ∧ 3 ∈ pages) ∧
      ∃ (before : List Text) (raw : Text) (after : List Text) (fault : RangeFault),
        List.splitOn ',' "1, 5-2 ,9".toList = before ++ raw :: after ∧
          (∀ other ∈ before, NamesPages 6 other.trim) ∧ ¬NamesPages 6 raw.trim ∧
            pagesOfRange "1, 5-2 ,9".toList (.int (6 : Nat)) =
              .error (.token (blamed raw) fault) := by
  have short : Readable " 2 - 4 ,1,\u0663".toList :=
    fun digits inside _ => inside.length_le.trans (by decide)
  have shortOther : Readable "1, 5-2 ,9".toList :=
    fun digits inside _ => inside.length_le.trans (by decide)
  have range : Names 5 "2 - 4".toList 2 4 :=
    .pages ((RangeToken.ofText?_eq_some_iff _ (.range "2".toList "4".toList)).1 (by decide))
      (by decide) (by decide) (by decide)
  have one : Names 5 "1".toList 1 1 :=
    .page ((RangeToken.ofText?_eq_some_iff _ (.single "1".toList)).1 (by decide))
      (by decide) (by decide)
  have three : Names 5 "\u0663".toList 3 3 :=
    .page ((RangeToken.ofText?_eq_some_iff _ (.single "\u0663".toList)).1 (by decide))
      (by decide) (by decide)
  have tokens : rangeTokens " 2 - 4 ,1,\u0663".toList =
    ["2 - 4".toList, "1".toList, "\u0663".toList] := by decide
  have reversed : (RangeToken.range "5".toList "2".toList).Spells "5-2".toList :=
    (RangeToken.ofText?_eq_some_iff ..).1 (by decide)
  obtain ⟨accepted, meaning, _⟩ := pagesOfRange_grammar _ 5 short
  rw [tokens, List.forall_mem_cons, List.forall_mem_cons, List.forall_mem_singleton] at accepted
  obtain ⟨pages, read⟩ := accepted.2 ⟨⟨2, 4, range⟩, ⟨1, 1, one⟩, ⟨3, 3, three⟩⟩
  obtain ⟨increasing, members⟩ := meaning pages read
  rw [tokens] at members
  have third := (members 3).2 ⟨_, List.mem_cons_self, 2, 4, range, by decide, by decide⟩
  have refused : ¬∀ token ∈ rangeTokens "1, 5-2 ,9".toList, NamesPages 6 token := by
    intro fine
    have named := fine "5-2".toList (by decide)
    exact (namesPages_iff 6 _).1 named (.reversed reversed (by decide))
  exact ⟨short, shortOther, ⟨pages, read, increasing, third⟩,
    (pagesOfRange_grammar _ 6 shortOther).2.2 refused⟩

end Listing
