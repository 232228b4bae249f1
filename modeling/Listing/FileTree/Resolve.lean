import Listing.FileTree.Basic

/-!
Following a path to the entry it leads to. Names are followed from left to right. A link is
replaced by its target, which starts at the root or in the folder of the link; two dots lead to
the folder above, and every name before another must lead to a folder that can be searched. A path
may pass through forty links, and the next one fails, so paths through links that lead back to
themselves end. A name that is too long fails where it is looked up, and a path that is too long
before its first name is.
-/

namespace Listing

def linkLimit : Nat := 40

/-- The names of a link's target. A slash at the end asks for a folder, as one dot does. -/
def targetNames (target : Text) : List Text :=
  let names := (target.splitOn '/').filter fun name => name ≠ []
  if target.getLast? = some '/' then names ++ [['.']] else names

namespace FileTree

/-- Follows names from a folder that was reached through `links` links. The answer holds the
links passed through in all and the location of an entry that is no link. -/
def follow (t : FileTree) (links : Nat) (folder : Location) :
    List Text → Except SystemError (Nat × Location)
  | [] => .ok (links, folder)
  | name :: rest =>
    if t.node? folder ≠ some .folder then .error .notFolder
    else if t.unsearchable.contains folder then .error .denied
    else if name = ['.'] then t.follow links folder rest
    else if name = ['.', '.'] then t.follow links folder.dropLast rest
    else if nameLimit < name.byteCount then .error .nameTooLong
    else
      match t.node? (folder ++ [name]) with
      | none => .error .notFound
      | some (.link target) =>
        if links < linkLimit then
          t.follow (links + 1) (if target.head? = some '/' then [] else folder)
            (targetNames target ++ rest)
        else .error .linkLoop
      | some _ => t.follow links (folder ++ [name]) rest
termination_by names => (linkLimit - links, names.length)

def locate (t : FileTree) (p : Path) : Except SystemError (Nat × Location) :=
  match p.refusal with
  | some e => .error e
  | none => t.follow 0 (if p.rootSlashes = 0 then t.workingFolder else []) p.parts

def followChild (t : FileTree) (links : Nat) (folder : Location) (path : Path) (name : Text) :
    Except SystemError (Nat × Location) :=
  match (path.child name).refusal with
  | some e => .error e
  | none => t.follow links folder [name]

def entry (t : FileTree) (p : Path) : Except SystemError Node := do
  let (_, location) ← t.locate p
  match t.node? location with
  | some node => .ok node
  | none => .error .notFound

def read (t : FileTree) (p : Path) : Except SystemError (List UInt8) :=
  if t.unreadable.contains p.toText then .error .denied
  else
    match t.entry p with
    | .error e => .error e
    | .ok (.file bytes) => .ok bytes
    | .ok .folder => .error .isFolder
    | .ok _ => .ok []

/-- Following names never takes back a link, and never goes beyond the limit. -/
theorem follow_links (t : FileTree) (links : Nat) (folder : Location) (names : List Text)
    (after : Nat) (location : Location)
    (reached : t.follow links folder names = .ok (after, location)) :
    links ≤ after ∧ (after = links ∨ after ≤ linkLimit) := by
  fun_induction follow t links folder names with
  | case1 links folder =>
    simp only [Except.ok.injEq, Prod.mk.injEq] at reached
    omega
  | case2 => simp at reached
  | case3 => simp at reached
  | case4 links folder rest _ _ ih => exact ih reached
  | case5 links folder rest _ _ _ ih => exact ih reached
  | case6 => simp at reached
  | case7 => simp at reached
  | case8 links folder name rest _ _ _ _ _ target _ below ih =>
    have later := ih reached
    omega
  | case9 => simp at reached
  | case10 links folder name rest _ _ _ _ _ node _ _ ih => exact ih reached

/-- Entering a folder by one of its names leaves either fewer links to pass through or less depth
below: the measure by which a walk through folders ends. -/
theorem follow_name (t : FileTree) (links : Nat) (folder : Location) (name : Text)
    (after : Nat) (location : Location) (plain : name.head? ≠ some '.')
    (reached : t.follow links folder [name] = .ok (after, location)) :
    linkLimit - after < linkLimit - links ∨
      (after = links ∧ t.depth - location.length < t.depth - folder.length) := by
  have notDot : name ≠ ['.'] := by
    rintro rfl
    simp at plain
  have notDots : name ≠ ['.', '.'] := by
    rintro rfl
    simp at plain
  rw [follow] at reached
  split at reached
  · simp at reached
  split at reached
  · simp at reached
  split at reached
  · simp at reached
  · split at reached
    · simp at reached
    · split at reached
      · have later := follow_links _ _ _ _ _ _ reached
        omega
      · simp at reached
    · next node _ found =>
      rw [follow] at reached
      simp only [Except.ok.injEq, Prod.mk.injEq] at reached
      obtain ⟨rfl, rfl⟩ := reached
      have inside := t.length_le_depth _ _ found
      have longer : (folder ++ [name]).length = folder.length + 1 := by simp
      rw [longer] at inside ⊢
      exact Or.inr ⟨rfl, by omega⟩

theorem follow_of_followChild (t : FileTree) (links : Nat) (folder : Location) (path : Path)
    (name : Text) (answer : Nat × Location)
    (reached : t.followChild links folder path name = .ok answer) :
    t.follow links folder [name] = .ok answer := by
  unfold followChild at reached
  split at reached
  · simp at reached
  · exact reached

end FileTree

end Listing
