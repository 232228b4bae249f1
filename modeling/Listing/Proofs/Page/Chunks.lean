import Mathlib.Algebra.Order.Floor.Div

/-!
A list cut into pieces of a fixed size. Dropping or taking whole pieces is dropping or taking items
at a multiple of the size, so a run of pieces that is joined and cut anew falls into the same
pieces. Their number is the number of items divided by the size and rounded up.
-/

namespace Listing

variable {α β : Type}

/-- A list cut into pieces of `size` items; the last piece may be shorter. -/
def chunks (size : Nat) : List α → List (List α)
  | [] => []
  | item :: rest => (item :: rest.take (size - 1)) :: chunks size (rest.drop (size - 1))
termination_by items => items.length
decreasing_by
  simp only [List.length_drop, List.length_cons]
  omega

theorem chunks_nil (size : Nat) : chunks size ([] : List α) = [] := by
  rw [chunks]

theorem chunks_of_ne_nil (size : Nat) (pos : 0 < size) (items : List α) (filled : items ≠ []) :
    chunks size items = items.take size :: chunks size (items.drop size) := by
  obtain ⟨less, rfl⟩ : ∃ less, size = less + 1 := ⟨size - 1, by omega⟩
  cases items with
  | nil => exact absurd rfl filled
  | cons item rest => rw [chunks, List.take_succ_cons, List.drop_succ_cons, Nat.add_sub_cancel]

theorem chunks_eq_nil_iff (size : Nat) (items : List α) : chunks size items = [] ↔ items = [] := by
  cases items <;> simp [chunks]

theorem chunks_map (f : α → β) (size : Nat) (items : List α) :
    chunks size (items.map f) = (chunks size items).map (List.map f) := by
  fun_induction chunks size items with
  | case1 => rw [List.map_nil, List.map_nil, chunks_nil]
  | case2 item rest ih =>
    rw [List.map_cons, chunks, ← List.map_take, ← List.map_drop, ih, List.map_cons, List.map_cons]

theorem length_chunks (size : Nat) (pos : 0 < size) (items : List α) :
    (chunks size items).length = items.length ⌈/⌉ size := by
  fun_induction chunks size items with
  | case1 => simp
  | case2 item rest ih =>
    rw [List.length_cons, ih, List.length_drop, List.length_cons, Nat.ceilDiv_eq_add_pred_div,
      Nat.ceilDiv_eq_add_pred_div]
    by_cases more : size ≤ rest.length + 1
    · have shift : rest.length + 1 + size - 1 = (rest.length - (size - 1) + size - 1) + size := by
        omega
      rw [shift, Nat.add_div_right _ pos]
    · have shift : rest.length + 1 + size - 1 = rest.length + size := by omega
      have none : rest.length - (size - 1) + size - 1 = size - 1 := by omega
      rw [shift, none, Nat.add_div_right _ pos, Nat.div_eq_of_lt (by omega : size - 1 < size),
        Nat.div_eq_of_lt (by omega : rest.length < size)]

theorem length_of_mem_chunks (size : Nat) (pos : 0 < size) (items : List α) :
    ∀ piece ∈ chunks size items, 1 ≤ piece.length ∧ piece.length ≤ size := by
  fun_induction chunks size items with
  | case1 => exact List.forall_mem_nil _
  | case2 item rest ih =>
    rw [List.forall_mem_cons]
    refine ⟨?_, ih⟩
    rw [List.length_cons, List.length_take]
    omega

theorem length_of_mem_dropLast_chunks (size : Nat) (pos : 0 < size) (items : List α) :
    ∀ piece ∈ (chunks size items).dropLast, piece.length = size := by
  fun_induction chunks size items with
  | case1 => exact List.forall_mem_nil _
  | case2 item rest ih =>
    by_cases more : rest.drop (size - 1) = []
    · rw [more, chunks_nil]
      exact List.forall_mem_nil _
    · have long : size - 1 < rest.length := by
        rwa [List.drop_eq_nil_iff, Nat.not_le] at more
      rw [← chunks_eq_nil_iff size] at more
      rw [List.dropLast_cons_of_ne_nil more, List.forall_mem_cons]
      refine ⟨?_, ih⟩
      rw [List.length_cons, List.length_take]
      omega

theorem flatten_chunks (size : Nat) (items : List α) : (chunks size items).flatten = items := by
  fun_induction chunks size items with
  | case1 => rfl
  | case2 item rest ih => rw [List.flatten_cons, ih, List.cons_append, List.take_append_drop]

theorem drop_chunks (size : Nat) (pos : 0 < size) (count : Nat) (items : List α) :
    (chunks size items).drop count = chunks size (items.drop (count * size)) := by
  induction count generalizing items with
  | zero => simp
  | succ count ih =>
    by_cases filled : items = []
    · simp [filled, chunks_nil]
    · rw [chunks_of_ne_nil size pos items filled, List.drop_succ_cons, ih, List.drop_drop,
        Nat.succ_mul, Nat.add_comm]

theorem take_chunks (size : Nat) (pos : 0 < size) (count : Nat) (items : List α) :
    (chunks size items).take count = chunks size (items.take (count * size)) := by
  induction count generalizing items with
  | zero => simp [chunks_nil]
  | succ count ih =>
    by_cases filled : items = []
    · simp [filled, chunks_nil]
    · have more : items.take ((count + 1) * size) ≠ [] := by
        rw [ne_eq, List.take_eq_nil_iff, not_or]
        exact ⟨Nat.mul_ne_zero (Nat.succ_ne_zero count) (by omega), filled⟩
      have first : (items.take ((count + 1) * size)).take size = items.take size := by
        rw [List.take_take, Nat.min_eq_left (Nat.le_mul_of_pos_left size (Nat.succ_pos count))]
      have others : (items.take ((count + 1) * size)).drop size =
          (items.drop size).take (count * size) := by
        rw [List.drop_take, Nat.succ_mul, Nat.add_sub_cancel]
      rw [chunks_of_ne_nil size pos items filled, chunks_of_ne_nil size pos _ more, first, others,
        List.take_succ_cons, ih]

theorem chunks_flatten_run (size : Nat) (pos : 0 < size) (first count : Nat) (items : List α) :
    chunks size (((chunks size items).drop first).take count).flatten =
      ((chunks size items).drop first).take count := by
  rw [drop_chunks size pos, take_chunks size pos, flatten_chunks]

end Listing
