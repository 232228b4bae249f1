import Listing.Page.Range
import Listing.Proofs.Except
import Mathlib.Data.List.Sort

/-!
What a page range selects. Every token selects pages inside the document, the pages of a range are
increasing and are those of its tokens, and cutting them into runs loses nothing.
-/

namespace Listing

theorem checkPage_bounds (token : Text) (total number : Int) (done : Unit)
    (checked : checkPage token (.int total) number = .ok done) : 1 ≤ number ∧ number ≤ total := by
  rw [checkPage_int] at checked
  split_ifs at checked with outside
  omega

theorem tokenPages_bounds (total : Int) (raw : Text) (run : Int × Int)
    (read : tokenPages (.int total) raw = .ok run) :
    1 ≤ run.1 ∧ run.1 ≤ run.2 ∧ run.2 ≤ total := by
  unfold tokenPages at read
  dsimp only at read
  split_ifs at read
  split at read
  · cases read
  · obtain ⟨number, _, read⟩ := (bind_eq_ok_iff _ _ _).1 read
    obtain ⟨_, checked, read⟩ := (bind_eq_ok_iff _ _ _).1 read
    have bounds := checkPage_bounds _ _ _ _ checked
    cases read
    exact ⟨bounds.1, Int.le_refl number, bounds.2⟩
  · obtain ⟨first, _, read⟩ := (bind_eq_ok_iff _ _ _).1 read
    obtain ⟨last, _, read⟩ := (bind_eq_ok_iff _ _ _).1 read
    obtain ⟨_, checkedFirst, read⟩ := (bind_eq_ok_iff _ _ _).1 read
    obtain ⟨_, checkedLast, read⟩ := (bind_eq_ok_iff _ _ _).1 read
    have low := checkPage_bounds _ _ _ _ checkedFirst
    have high := checkPage_bounds _ _ _ _ checkedLast
    split_ifs at read with reversed
    cases read
    exact ⟨low.1, by omega, high.2⟩

theorem eraseRepsBy_loop (a : Int) (rest done : List Int) :
    List.eraseRepsBy.loop (· == ·) a rest done = done.reverse ++ (a :: rest).eraseReps := by
  induction rest generalizing a done with
  | nil => simp [List.eraseReps, List.eraseRepsBy, List.eraseRepsBy.loop]
  | cons b rest ih =>
    simp only [List.eraseReps, List.eraseRepsBy, List.eraseRepsBy.loop]
    cases a == b with
    | true =>
      change List.eraseRepsBy.loop _ a rest done = _ ++ List.eraseRepsBy.loop _ a rest []
      rw [ih a done, ih a []]
      rfl
    | false =>
      change List.eraseRepsBy.loop _ b rest (a :: done) = _ ++ List.eraseRepsBy.loop _ b rest [a]
      rw [ih b (a :: done), ih b [a]]
      simp

theorem eraseReps_cons_cons (a b : Int) (rest : List Int) :
    (a :: b :: rest).eraseReps =
      if a = b then (a :: rest).eraseReps else a :: (b :: rest).eraseReps := by
  have step : (a :: b :: rest).eraseReps = match a == b with
      | true => List.eraseRepsBy.loop (· == ·) a rest []
      | false => List.eraseRepsBy.loop (· == ·) b rest [a] := rfl
  rw [step]
  split_ifs with same
  · simp [same, eraseRepsBy_loop]
  · have other : (a == b) = false := by simpa using same
    simp [other, eraseRepsBy_loop]

theorem mem_eraseReps (items : List Int) (n : Int) : n ∈ items.eraseReps ↔ n ∈ items := by
  match items with
  | [] => rfl
  | [a] => rfl
  | a :: b :: rest =>
    rw [eraseReps_cons_cons]
    split_ifs with same
    · rw [mem_eraseReps (a :: rest) n, same]
      simp
    · rw [List.mem_cons, mem_eraseReps (b :: rest) n, ← List.mem_cons]

theorem pairwise_eraseReps (items : List Int) (ordered : items.Pairwise (· ≤ ·)) :
    items.eraseReps.Pairwise (· < ·) := by
  match items with
  | [] => exact .nil
  | [a] => exact List.pairwise_singleton _ a
  | a :: b :: rest =>
    obtain ⟨first, others⟩ := List.pairwise_cons.1 ordered
    rw [eraseReps_cons_cons]
    split_ifs with same
    · exact pairwise_eraseReps (a :: rest) (by rw [same]; exact others)
    · refine List.pairwise_cons.2 ⟨?_, pairwise_eraseReps (b :: rest) others⟩
      intro n inside
      have above := first b List.mem_cons_self
      have behind : b ≤ n := by
        rcases List.mem_cons.1 ((mem_eraseReps _ n).1 inside) with rfl | later
        · exact Int.le_refl n
        · exact (List.pairwise_cons.1 others).1 n later
      omega

theorem mem_sortedPages (pages : List Int) (n : Int) : n ∈ sortedPages pages ↔ n ∈ pages := by
  rw [sortedPages, mem_eraseReps, List.mem_mergeSort]

theorem pairwise_sortedPages (pages : List Int) : (sortedPages pages).Pairwise (· < ·) := by
  apply pairwise_eraseReps
  have transitive : ∀ a b c : Int, decide (a ≤ b) → decide (b ≤ c) → decide (a ≤ c) := by
    intro a b c first second
    simp only [decide_eq_true_eq] at *
    omega
  have linear : ∀ a b : Int, decide (a ≤ b) || decide (b ≤ a) := by
    intro a b
    simp only [Bool.or_eq_true, decide_eq_true_eq]
    omega
  have sorted := List.pairwise_mergeSort transitive linear pages
  exact sorted.imp fun le => of_decide_eq_true le

theorem sortedPages_eq_self (pages : List Int) (increasing : pages.Pairwise (· < ·)) :
    sortedPages pages = pages :=
  (pairwise_sortedPages pages).eq_of_mem_iff increasing (mem_sortedPages pages)

/-- Whether a token of a range selects a page of a document of `total` pages. -/
def tokenSelects (total : Int) (page : Int) (token : Text) : Bool :=
  match tokenPages (.int total) token with
  | .ok run => run.1 ≤ page && page ≤ run.2
  | .error _ => false

theorem tokenSelects_iff (total page : Int) (token : Text) :
    tokenSelects total page token = true ↔
      ∃ run, tokenPages (.int total) token = .ok run ∧ run.1 ≤ page ∧ page ≤ run.2 := by
  unfold tokenSelects
  cases read : tokenPages (.int total) token <;> simp

/-- The pages of a range are increasing, and they are those that its tokens select. -/
theorem pagesOfRange_spec (range : Text) (total : Int) (pages : List Int)
    (read : pagesOfRange range (.int total) = .ok pages) :
    pages.Pairwise (· < ·) ∧
      ∀ page, page ∈ pages ↔ (range.splitOn ',').any (tokenSelects total page) = true := by
  unfold pagesOfRange at read
  obtain ⟨runs, tokens, read⟩ := (bind_eq_ok_iff _ _ _).1 read
  cases read
  refine ⟨pairwise_sortedPages _, fun page => ?_⟩
  rw [mem_sortedPages, List.mem_flatMap, List.any_eq_true]
  simp only [mem_integersBetween, tokenSelects_iff, mem_of_mapM_eq_ok _ _ _ tokens]
  constructor
  · rintro ⟨run, ⟨token, member, same⟩, between⟩
    exact ⟨token, member, run, same, between⟩
  · rintro ⟨token, member, run, same, between⟩
    exact ⟨run, ⟨token, member, same⟩, between⟩

theorem pagesOfRange_bounds (range : Text) (total : Int) (pages : List Int)
    (read : pagesOfRange range (.int total) = .ok pages) :
    ∀ page ∈ pages, 1 ≤ page ∧ page ≤ total := by
  intro page inside
  have selected := ((pagesOfRange_spec range total pages read).2 page).1 inside
  obtain ⟨token, _, selects⟩ := List.any_eq_true.1 selected
  obtain ⟨run, same, low, high⟩ := (tokenSelects_iff total page token).1 selects
  have bounds := tokenPages_bounds total token run same
  omega

theorem pagesOfRange_ne_nil (range : Text) (total : Int) (pages : List Int)
    (read : pagesOfRange range (.int total) = .ok pages) : pages ≠ [] := by
  have members := (pagesOfRange_spec range total pages read).2
  obtain ⟨runs, tokens, _⟩ := (bind_eq_ok_iff _ _ _).1 read
  obtain ⟨token, others, split⟩ := List.exists_cons_of_ne_nil (List.splitOn_ne_nil ',' range)
  have member : token ∈ range.splitOn ',' := by simp [split]
  obtain ⟨run, same⟩ := exists_of_mapM_eq_ok _ _ _ tokens token member
  have bounds := tokenPages_bounds total token run same
  have selects := (tokenSelects_iff total run.1 token).2 ⟨run, same, Int.le_refl _, bounds.2.1⟩
  exact List.ne_nil_of_mem ((members run.1).2 (List.any_eq_true.2 ⟨token, member, selects⟩))

theorem integersBetween_cons (first last : Int) (ordered : first ≤ last) :
    integersBetween first last = first :: integersBetween (first + 1) last := by
  have count : (last + 1 - first).toNat = (last + 1 - (first + 1)).toNat + 1 := by omega
  rw [integersBetween, integersBetween, count, List.range_succ_eq_map, List.map_cons, List.map_map]
  congr 1
  · simp
  · apply List.map_congr_left
    intro k _
    rw [Function.comp_apply]
    omega

theorem integersBetween_self (page : Int) : integersBetween page page = [page] := by
  rw [integersBetween_cons page page (Int.le_refl page)]
  simp [integersBetween]

theorem contiguousRuns_cons (page : Int) (rest : List Int) :
    contiguousRuns (page :: rest) =
      match contiguousRuns rest with
      | (first, last) :: runs =>
        if first = page + 1 then (page, last) :: runs else (page, page) :: (first, last) :: runs
      | [] => [(page, page)] := by
  unfold contiguousRuns
  cases runs : runsBy (fun page next => next == page + 1) rest with
  | nil => simp [runsBy, runs]
  | cons run others => simp [runsBy, runs]

theorem contiguousRuns_ordered (pages : List Int) :
    ∀ run ∈ contiguousRuns pages, run.1 ≤ run.2 := by
  induction pages with
  | nil => simp [contiguousRuns, runsBy]
  | cons page rest ih =>
    rw [contiguousRuns_cons]
    split
    · next first last runs same =>
      rw [same, List.forall_mem_cons] at ih
      split_ifs with follows
      · exact List.forall_mem_cons.2 ⟨by have ordered := ih.1; simp only at ordered ⊢; omega, ih.2⟩
      · simpa using ih
    · simp

theorem flatMap_contiguousRuns (pages : List Int) :
    (contiguousRuns pages).flatMap (fun run => integersBetween run.1 run.2) = pages := by
  induction pages with
  | nil => rfl
  | cons page rest ih =>
    have ordered := contiguousRuns_ordered rest
    rw [contiguousRuns_cons]
    split
    · next first last runs same =>
      rw [same, List.flatMap_cons] at ih
      have open_le : first ≤ last := ordered (first, last) (by simp [same])
      split_ifs with follows
      · subst follows
        rw [List.flatMap_cons, integersBetween_cons page last (by omega), List.cons_append, ih]
      · rw [List.flatMap_cons, List.flatMap_cons, integersBetween_self, ih, List.singleton_append]
    · next same =>
      rw [same] at ih
      rw [List.flatMap_singleton, integersBetween_self, ← ih, List.flatMap_nil]

theorem mem_of_mem_contiguousRuns (pages : List Int) (run : Int × Int)
    (member : run ∈ contiguousRuns pages) (page : Int) (low : run.1 ≤ page) (high : page ≤ run.2) :
    page ∈ pages := by
  rw [← flatMap_contiguousRuns pages, List.mem_flatMap]
  exact ⟨run, member, (mem_integersBetween ..).2 ⟨low, high⟩⟩

/-- Runs of increasing pages are as long as they can be: one begins only across a gap. -/
theorem contiguousRuns_apart (pages : List Int) (increasing : pages.Pairwise (· < ·)) :
    (contiguousRuns pages).Pairwise fun run next => run.2 + 2 ≤ next.1 := by
  induction pages with
  | nil => exact .nil
  | cons page rest ih =>
    obtain ⟨above, later⟩ := List.pairwise_cons.1 increasing
    have apart := ih later
    have ordered := contiguousRuns_ordered rest
    have inside := mem_of_mem_contiguousRuns rest
    rw [contiguousRuns_cons]
    split
    · next first last runs same =>
      rw [same] at apart ordered inside
      have head : first ≤ last := ordered (first, last) List.mem_cons_self
      have least : page < first :=
        above first (inside (first, last) List.mem_cons_self first (Int.le_refl first) head)
      obtain ⟨behind, others⟩ := List.pairwise_cons.1 apart
      split_ifs with follows
      · exact List.pairwise_cons.2 ⟨behind, others⟩
      · rw [List.pairwise_cons, List.forall_mem_cons]
        refine ⟨⟨?_, ?_⟩, apart⟩
        · simp only
          omega
        · intro next later
          have far := behind next later
          simp only at far ⊢
          omega
    · exact List.pairwise_singleton _ _

end Listing
