import Listing.FileTree.Resolve
import Listing.Proofs.Except

/-!
Following paths. Each name takes the way one step further, or puts the names of a link in its place.
So names followed one after another are followed in parts as well, and an entry of a folder is where
its path leads. What files hold and which of them can be read has no part in it: trees with the same
outline lead every path to the same place.
-/

namespace Listing

namespace FileTree

/-- Where one name leads: the links passed through, the folder to go on from, and the names that
come before the rest. -/
def advance (t : FileTree) (links : Nat) (folder : Location) (name : Text) :
    Except SystemError (Nat × Location × List Text) :=
  if t.node? folder ≠ some .folder then .error .notFolder
  else if t.unsearchable.contains folder then .error .denied
  else if name = ['.'] then .ok (links, folder, [])
  else if name = ['.', '.'] then .ok (links, folder.dropLast, [])
  else if nameLimit < name.byteCount then .error .nameTooLong
  else
    match t.node? (folder ++ [name]) with
    | none => .error .notFound
    | some (.link target) =>
      if links < linkLimit then
        .ok (links + 1, if target.head? = some '/' then [] else folder, targetNames target)
      else .error .linkLoop
    | some _ => .ok (links, folder ++ [name], [])

variable (t : FileTree)

theorem follow_cons (links : Nat) (folder : Location) (name : Text) (rest : List Text) :
    t.follow links folder (name :: rest) =
      t.advance links folder name >>= fun next => t.follow next.1 next.2.1 (next.2.2 ++ rest) := by
  rw [follow]
  unfold advance
  by_cases inside : t.node? folder ≠ some .folder
  · simp only [if_pos inside]
    rfl
  by_cases closed : t.unsearchable.contains folder
  · simp only [if_neg inside, if_pos closed]
    rfl
  by_cases dot : name = ['.']
  · simp only [if_neg inside, if_neg closed, if_pos dot]
    rfl
  by_cases dots : name = ['.', '.']
  · simp only [if_neg inside, if_neg closed, if_neg dot, if_pos dots]
    rfl
  by_cases long : nameLimit < name.byteCount
  · simp only [if_neg inside, if_neg closed, if_neg dot, if_neg dots, if_pos long]
    rfl
  · simp only [if_neg inside, if_neg closed, if_neg dot, if_neg dots, if_neg long]
    cases t.node? (folder ++ [name]) with
    | none => rfl
    | some node =>
      cases node with
      | link target =>
        dsimp only
        split_ifs <;> rfl
      | _ => rfl

/-- Following ends: what holds of a way if it holds of the way behind its first name holds of every
way. -/
theorem follow_induction {motive : Nat → Location → List Text → Prop}
    (nil : ∀ links folder, motive links folder [])
    (cons : ∀ links folder name rest,
      (∀ next, t.advance links folder name = .ok next →
        motive next.1 next.2.1 (next.2.2 ++ rest)) → motive links folder (name :: rest))
    (links : Nat) (folder : Location) (names : List Text) : motive links folder names := by
  fun_induction follow t links folder names with
  | case1 links folder => exact nil links folder
  | case2 links folder name rest other =>
    apply cons
    intro next advanced
    rw [advance, if_pos other] at advanced
    cases advanced
  | case3 links folder name rest inside closed =>
    apply cons
    intro next advanced
    rw [advance, if_neg inside, if_pos closed] at advanced
    cases advanced
  | case4 links folder rest inside searched ih =>
    apply cons
    intro next advanced
    rw [advance, if_neg inside, if_neg searched, if_pos rfl] at advanced
    cases advanced
    exact ih
  | case5 links folder rest inside searched dots ih =>
    apply cons
    intro next advanced
    rw [advance, if_neg inside, if_neg searched, if_neg dots, if_pos rfl] at advanced
    cases advanced
    exact ih
  | case6 links folder name rest inside searched dot dots long =>
    apply cons
    intro next advanced
    rw [advance, if_neg inside, if_neg searched, if_neg dot, if_neg dots, if_pos long] at advanced
    cases advanced
  | case7 links folder name rest inside searched dot dots short missing =>
    apply cons
    intro next advanced
    rw [advance, if_neg inside, if_neg searched, if_neg dot, if_neg dots, if_neg short,
      missing] at advanced
    cases advanced
  | case8 links folder name rest inside searched dot dots short target found few ih =>
    apply cons
    intro next advanced
    rw [advance, if_neg inside, if_neg searched, if_neg dot, if_neg dots, if_neg short,
      found] at advanced
    cases (if_pos few).symm.trans advanced
    exact ih
  | case9 links folder name rest inside searched dot dots short target found many =>
    apply cons
    intro next advanced
    rw [advance, if_neg inside, if_neg searched, if_neg dot, if_neg dots, if_neg short,
      found] at advanced
    cases (if_neg many).symm.trans advanced
  | case10 links folder name rest inside searched dot dots short node solid found ih =>
    apply cons
    intro next advanced
    rw [advance, if_neg inside, if_neg searched, if_neg dot, if_neg dots, if_neg short,
      found] at advanced
    cases node with
    | link target => exact absurd rfl (solid target)
    | _ =>
      cases advanced
      exact ih

theorem follow_append (links : Nat) (folder : Location) (names more : List Text) :
    t.follow links folder (names ++ more) =
      t.follow links folder names >>= fun reached => t.follow reached.1 reached.2 more := by
  induction links, folder, names using t.follow_induction with
  | nil links folder =>
    rw [follow]
    rfl
  | cons links folder name rest ih =>
    rw [List.cons_append, follow_cons, follow_cons]
    cases advanced : t.advance links folder name with
    | error e => rfl
    | ok next =>
      have later := ih next advanced
      rw [List.append_assoc] at later
      exact later

/-- Following by so many names at most, counting those of links; nothing is answered if there are
more. -/
def followIn (t : FileTree) :
    Nat → Nat → Location → List Text → Option (Except SystemError (Nat × Location))
  | _, links, folder, [] => some (.ok (links, folder))
  | 0, _, _, _ :: _ => none
  | count + 1, links, folder, name :: rest =>
    match t.advance links folder name with
    | .error e => some (.error e)
    | .ok next => t.followIn count next.1 next.2.1 (next.2.2 ++ rest)

theorem follow_of_followIn (count links : Nat) (folder : Location) (names : List Text)
    (answer : Except SystemError (Nat × Location))
    (answered : t.followIn count links folder names = some answer) :
    t.follow links folder names = answer := by
  induction count generalizing links folder names with
  | zero =>
    cases names with
    | nil =>
      cases answered
      rw [follow]
    | cons name rest => cases answered
  | succ count ih =>
    cases names with
    | nil =>
      cases answered
      rw [follow]
    | cons name rest =>
      rw [followIn] at answered
      rw [follow_cons]
      cases advanced : t.advance links folder name with
      | error e =>
        rw [advanced] at answered
        cases answered
        rfl
      | ok next =>
        rw [advanced] at answered
        exact ih _ _ _ answered

theorem locate_of_followIn (count : Nat) (path : Path)
    (answer : Except SystemError (Nat × Location)) (taken : path.refusal = none)
    (answered : t.followIn count 0 (if path.rootSlashes = 0 then t.workingFolder else [])
      path.parts = some answer) : t.locate path = answer := by
  unfold locate
  rw [taken]
  exact t.follow_of_followIn count _ _ _ answer answered

theorem error_of_advance (links : Nat) (folder : Location) (name : Text) (e : SystemError)
    (failed : t.advance links folder name = .error e) :
    e.isAbsence = true ∨ e = .nameTooLong ∨ e = .denied := by
  unfold advance at failed
  split at failed
  · cases failed
    exact .inl rfl
  split at failed
  · cases failed
    exact .inr (.inr rfl)
  split at failed
  · cases failed
  split at failed
  · cases failed
  split at failed
  · cases failed
    exact .inr (.inl rfl)
  split at failed
  · cases failed
    exact .inl rfl
  · split at failed
    · cases failed
    · cases failed
      exact .inl rfl
  · cases failed

/-- What a path that leads nowhere is told: that nothing is there, or that it is too long, or that a
folder on its way cannot be searched. -/
theorem error_of_follow (links : Nat) (folder : Location) (names : List Text) (e : SystemError)
    (failed : t.follow links folder names = .error e) :
    e.isAbsence = true ∨ e = .nameTooLong ∨ e = .denied := by
  induction links, folder, names using t.follow_induction with
  | nil links folder =>
    rw [follow] at failed
    cases failed
  | cons links folder name rest ih =>
    rw [follow_cons] at failed
    cases advanced : t.advance links folder name with
    | error own =>
      rw [advanced] at failed
      cases failed
      exact t.error_of_advance links folder name e advanced
    | ok next =>
      rw [advanced] at failed
      exact ih next advanced failed

theorem error_of_locate (path : Path) (e : SystemError) (failed : t.locate path = .error e) :
    e.isAbsence = true ∨ e = .nameTooLong ∨ e = .denied := by
  unfold locate at failed
  split at failed
  · next refused =>
    cases failed
    unfold Path.refusal at refused
    split_ifs at refused
    · cases refused
      exact .inl rfl
    · cases refused
      exact .inr (.inl rfl)
  · exact t.error_of_follow _ _ _ e failed

theorem locate_child (path : Path) (name : Text) (links : Nat) (folder : Location)
    (located : t.locate path = .ok (links, folder)) :
    t.locate (path.child name) = t.followChild links folder path name := by
  unfold locate at located ⊢
  unfold followChild
  cases refused : path.refusal with
  | some e =>
    rw [refused] at located
    cases located
  | none =>
    rw [refused] at located
    dsimp only at located
    cases (path.child name).refusal with
    | some e => rfl
    | none =>
      change t.follow 0 (if path.rootSlashes = 0 then t.workingFolder else [])
        (path.parts ++ [name]) = _
      rw [follow_append, located]
      rfl

end FileTree

end Listing
