import Listing.Proofs.Except
import Listing.Request.Basic

/-!
What settings must be to make a request, and which request they make: the page size is a positive
integer, the mode is the name of one, and a custom mode has a range that is not blank. Everything
else is kept as it is given.
-/

namespace Listing

def Value.IsRange (v : Value) : Prop := ∃ t, v = .text t ∧ t.isBlank = false

/-- The settings make the request. -/
structure Settings.Makes (s : Settings) (r : Request) : Prop where
  pageSize : s.pageSize = .int r.pageSize
  header : s.header = r.header
  mode : PageMode.read? s.mode.asText = some r.mode
  range : s.range = r.range
  stripComments : s.stripComments = r.stripComments
  removeBlankLines : s.removeBlankLines = r.removeBlankLines
  isRange : r.mode = .custom → r.range.IsRange

theorem readMode_eq_ok_iff (setting : String) (v : Value) (mode : PageMode) :
    readMode setting v = .ok mode ↔ PageMode.read? v.asText = some mode := by
  unfold readMode
  cases PageMode.read? v.asText <;> simp

theorem checkRange_eq_ok_iff (v : Value) : checkRange v = .ok () ↔ v.IsRange := by
  unfold checkRange Value.IsRange
  cases v with
  | text t =>
    cases t with
    | nil => simp [Value.isSet, Text.isBlank]
    | cons c rest => simp [Value.isSet, Value.textFor]
  | _ =>
    simp only [Value.textFor, reduceCtorEq, false_and, exists_false, iff_false]
    split_ifs <;> simp

namespace Settings

variable (s : Settings) (r : Request)

theorem request_of_pageSize (size : Nat) (whole : s.pageSize = .int size) (pos : 0 < size) :
    s.request = (do
      let mode ← readMode "page_mode" s.mode
      if mode = .custom then checkRange s.range
      .ok
        { pageSize := size
          header := s.header
          mode
          range := s.range
          stripComments := s.stripComments
          removeBlankLines := s.removeBlankLines
          pageSize_pos := pos }) := by
  obtain ⟨n, rfl⟩ := Nat.exists_eq_succ_of_ne_zero (Nat.ne_of_gt pos)
  unfold request
  rw [whole]

theorem exists_pageSize_of_request (made : s.request = .ok r) :
    ∃ size : Nat, s.pageSize = .int size ∧ 0 < size := by
  unfold request at made
  split at made
  · next n size => exact ⟨n + 1, size, n.succ_pos⟩
  · cases made

theorem request_eq_ok_iff : s.request = .ok r ↔ s.Makes r := by
  constructor
  · intro made
    obtain ⟨size, whole, pos⟩ := s.exists_pageSize_of_request r made
    rw [s.request_of_pageSize size whole pos, bind_eq_ok_iff] at made
    obtain ⟨mode, named, rest⟩ := made
    rw [readMode_eq_ok_iff] at named
    by_cases custom : mode = .custom
    · rw [if_pos custom, bind_eq_ok_iff] at rest
      obtain ⟨_, checked, same⟩ := rest
      cases same
      exact ⟨whole, rfl, named, rfl, rfl, rfl, fun _ => (checkRange_eq_ok_iff _).1 checked⟩
    · rw [if_neg custom] at rest
      cases rest
      exact ⟨whole, rfl, named, rfl, rfl, rfl, fun same => absurd same custom⟩
  · intro makes
    rw [s.request_of_pageSize r.pageSize makes.pageSize r.pageSize_pos, bind_eq_ok_iff]
    refine ⟨r.mode, (readMode_eq_ok_iff _ _ _).2 makes.mode, ?_⟩
    obtain ⟨-, header, -, range, strip, remove, isRange⟩ := makes
    rw [header, range, strip, remove]
    split_ifs with custom
    · rw [(checkRange_eq_ok_iff _).2 (isRange custom)]
      rfl
    · rfl

end Settings

end Listing
