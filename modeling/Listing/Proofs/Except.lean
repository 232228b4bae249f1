import Mathlib.Data.List.Forall2

/-!
Runs that can fail, taken apart: a run of two parts gives a result exactly if both parts do, and a
run over a list exactly if every item does.
-/

namespace Listing

variable {ε ε' α β : Type}

theorem bind_eq_ok_iff (x : Except ε α) (f : α → Except ε β) (b : β) :
    x >>= f = .ok b ↔ ∃ a, x = .ok a ∧ f a = .ok b := by
  cases x <;> simp [bind, Except.bind]

theorem bind_eq_error_iff (x : Except ε α) (f : α → Except ε β) (e : ε) :
    x >>= f = .error e ↔ x = .error e ∨ ∃ a, x = .ok a ∧ f a = .error e := by
  cases x <;> simp [bind, Except.bind]

theorem exists_of_isOk (x : Except ε α) (done : x.isOk = true) : ∃ a, x = .ok a := by
  cases x with
  | error e => cases done
  | ok a => exact ⟨a, rfl⟩

theorem mapError_eq_ok_iff (f : ε → ε') (x : Except ε α) (a : α) :
    x.mapError f = .ok a ↔ x = .ok a := by
  cases x <;> simp [Except.mapError]

theorem map_eq_error_iff (f : α → β) (x : Except ε α) (e : ε) :
    x.map f = .error e ↔ x = .error e := by
  cases x <;> simp [Except.map]

theorem map_mapError (f : α → β) (g : ε → ε') (x : Except ε α) :
    (x.mapError g).map f = (x.map f).mapError g := by
  cases x <;> rfl

theorem mapM_eq_ok_iff (f : α → Except ε β) (xs : List α) (ys : List β) :
    xs.mapM f = .ok ys ↔ List.Forall₂ (fun x y => f x = .ok y) xs ys := by
  induction xs generalizing ys with
  | nil => cases ys <;> simp [pure, Except.pure]
  | cons x rest ih =>
    rw [List.mapM_cons, bind_eq_ok_iff]
    constructor
    · rintro ⟨y, first, more⟩
      obtain ⟨others, later, same⟩ := (bind_eq_ok_iff _ _ _).1 more
      cases same
      exact .cons first ((ih others).1 later)
    · rintro (_ | ⟨first, later⟩)
      exact ⟨_, first, (bind_eq_ok_iff _ _ _).2 ⟨_, (ih _).2 later, rfl⟩⟩

theorem mem_of_mapM_eq_ok (f : α → Except ε β) (xs : List α) (ys : List β)
    (done : xs.mapM f = .ok ys) (y : β) : y ∈ ys ↔ ∃ x ∈ xs, f x = .ok y := by
  induction (mapM_eq_ok_iff f xs ys).1 done with
  | nil => simp
  | cons first later ih =>
    rw [List.mem_cons, ih ((mapM_eq_ok_iff f _ _).2 later)]
    simp [first, eq_comm]

theorem exists_of_mapM_eq_ok (f : α → Except ε β) (xs : List α) (ys : List β)
    (done : xs.mapM f = .ok ys) : ∀ x ∈ xs, ∃ y, f x = .ok y := by
  induction (mapM_eq_ok_iff f xs ys).1 done with
  | nil => simp
  | cons first later ih =>
    rw [List.forall_mem_cons]
    exact ⟨⟨_, first⟩, ih ((mapM_eq_ok_iff f _ _).2 later)⟩

theorem mapM_eq_error_iff (f : α → Except ε β) (xs : List α) (e : ε) :
    xs.mapM f = .error e ↔ ∃ before x after, xs = before ++ x :: after ∧
      (∀ other ∈ before, ∃ y, f other = .ok y) ∧ f x = .error e := by
  induction xs with
  | nil => simp [pure, Except.pure]
  | cons x rest ih =>
    rw [List.mapM_cons]
    cases first : f x with
    | error other =>
      constructor
      · intro failed
        cases failed
        exact ⟨[], x, rest, rfl, List.forall_mem_nil _, first⟩
      · rintro ⟨before, z, after, split, fine, failed⟩
        cases before with
        | nil =>
          cases split
          exact first.symm.trans failed ▸ rfl
        | cons head more =>
          cases split
          obtain ⟨y, done⟩ := fine x List.mem_cons_self
          cases first.symm.trans done
    | ok y =>
      constructor
      · intro failed
        cases later : rest.mapM f with
        | ok ys =>
          rw [later] at failed
          cases failed
        | error other =>
          rw [later] at failed
          cases failed
          obtain ⟨before, z, after, rfl, fine, same⟩ := ih.1 later
          exact ⟨x :: before, z, after, rfl, List.forall_mem_cons.2 ⟨⟨y, first⟩, fine⟩, same⟩
      · rintro ⟨before, z, after, split, fine, failed⟩
        cases before with
        | nil =>
          cases split
          cases first.symm.trans failed
        | cons head more =>
          cases split
          have later := ih.2 ⟨more, z, after, rfl, fun o inside =>
            fine o (List.mem_cons_of_mem _ inside), failed⟩
          rw [later]
          rfl

end Listing
