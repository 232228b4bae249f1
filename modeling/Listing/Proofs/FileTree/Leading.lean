import Listing.Proofs.FileTree.Following

/-!
Where names lead in a tree, whatever a system makes of them: no name is too long, no link is one too
many and no folder is closed. Following a path leads to the same place as far as it goes. The links
passed through are counted, so a name that continues a way either passes through a link or leads one
folder down.
-/

namespace Listing

namespace FileTree

/-- Where one name leads: the links passed through, the folder to go on from, and the names that
come before the rest. -/
def onward (t : FileTree) (folder : Location) (name : Text) :
    Option (Nat × Location × List Text) :=
  if t.node? folder ≠ some .folder then none
  else if name = ['.'] then some (0, folder, [])
  else if name = ['.', '.'] then some (0, folder.dropLast, [])
  else
    match t.node? (folder ++ [name]) with
    | none => none
    | some (.link target) =>
      some (1, if target.head? = some '/' then [] else folder, targetNames target)
    | some _ => some (0, folder ++ [name], [])

/-- Names lead from a folder to a place, through so many links. -/
inductive Leads (t : FileTree) : Location → List Text → Nat → Location → Prop
  | here (folder : Location) : Leads t folder [] 0 folder
  | further {folder next place : Location} {name : Text} {names rest : List Text}
      {passed links : Nat} (step : t.onward folder name = some (passed, next, names))
      (beyond : Leads t next (names ++ rest) links place) :
      Leads t folder (name :: rest) (passed + links) place

variable {t : FileTree}

theorem onward_cases (folder next : Location) (name : Text) (names : List Text) (passed : Nat)
    (dot : name ≠ ['.']) (dots : name ≠ ['.', '.'])
    (step : t.onward folder name = some (passed, next, names)) :
    0 < passed ∨ passed = 0 ∧ next = folder ++ [name] ∧ names = [] ∧
      (t.node? next).isSome = true := by
  unfold onward at step
  rw [if_neg dot, if_neg dots] at step
  split_ifs at step
  cases found : t.node? (folder ++ [name]) with
  | none =>
    rw [found] at step
    cases step
  | some node =>
    rw [found] at step
    cases node with
    | link target =>
      cases step
      exact .inl Nat.one_pos
    | _ =>
      cases step
      exact .inr ⟨rfl, rfl, rfl, by rw [found]; rfl⟩

theorem onward_of_advance (links after : Nat) (folder next : Location) (name : Text)
    (names : List Text) (advanced : t.advance links folder name = .ok (after, next, names)) :
    ∃ passed, after = links + passed ∧ t.onward folder name = some (passed, next, names) := by
  unfold advance at advanced
  unfold onward
  by_cases other : t.node? folder ≠ some .folder
  · rw [if_pos other] at advanced
    cases advanced
  rw [if_neg other] at advanced ⊢
  by_cases closed : t.unsearchable.contains folder
  · rw [if_pos closed] at advanced
    cases advanced
  rw [if_neg closed] at advanced
  by_cases dot : name = ['.']
  · rw [if_pos dot] at advanced ⊢
    cases advanced
    exact ⟨0, rfl, rfl⟩
  rw [if_neg dot] at advanced ⊢
  by_cases dots : name = ['.', '.']
  · rw [if_pos dots] at advanced ⊢
    cases advanced
    exact ⟨0, rfl, rfl⟩
  rw [if_neg dots] at advanced ⊢
  by_cases long : nameLimit < name.byteCount
  · rw [if_pos long] at advanced
    cases advanced
  rw [if_neg long] at advanced
  cases found : t.node? (folder ++ [name]) with
  | none =>
    rw [found] at advanced
    cases advanced
  | some node =>
    rw [found] at advanced
    cases node with
    | link target =>
      by_cases few : links < linkLimit
      · cases (if_pos few).symm.trans advanced
        exact ⟨1, rfl, rfl⟩
      · cases (if_neg few).symm.trans advanced
    | _ =>
      cases advanced
      exact ⟨0, rfl, rfl⟩

theorem leads_of_follow (links after : Nat) (folder place : Location) (names : List Text)
    (followed : t.follow links folder names = .ok (after, place)) :
    ∃ passed, after = links + passed ∧ t.Leads folder names passed place := by
  induction links, folder, names using t.follow_induction generalizing after place with
  | nil links folder =>
    rw [follow] at followed
    cases followed
    exact ⟨0, rfl, .here folder⟩
  | cons links folder name rest ih =>
    rw [follow_cons, bind_eq_ok_iff] at followed
    obtain ⟨⟨count, next, names⟩, advanced, beyond⟩ := followed
    obtain ⟨later, same, way⟩ := ih _ advanced after place beyond
    obtain ⟨passed, counted, step⟩ := onward_of_advance links count folder next name names advanced
    refine ⟨passed + later, ?_, .further step way⟩
    rw [same, counted, Nat.add_assoc]

theorem Leads.behind {folder middle place : Location} {names more : List Text} {before all : Nat}
    (way : t.Leads folder names before middle) (longer : t.Leads folder (names ++ more) all place) :
    ∃ links, all = before + links ∧ t.Leads middle more links place := by
  induction way generalizing all with
  | here folder => exact ⟨all, (Nat.zero_add all).symm, longer⟩
  | further step beyond ih =>
    rw [List.cons_append] at longer
    obtain - | ⟨again, later⟩ := longer
    cases step.symm.trans again
    rw [← List.append_assoc] at later
    obtain ⟨links, same, rest⟩ := ih later
    exact ⟨links, by omega, rest⟩

/-- A name that continues a way, and is neither one dot nor two, passes through another link or
leads to an entry of the folder that the way led to. -/
theorem Leads.continued {folder middle place : Location} {names : List Text} {name : Text}
    {before all : Nat} (way : t.Leads folder names before middle)
    (longer : t.Leads folder (names ++ [name]) all place) (dot : name ≠ ['.'])
    (dots : name ≠ ['.', '.']) :
    before < all ∨ all = before ∧ place = middle ++ [name] ∧ (t.node? place).isSome = true := by
  obtain ⟨links, rfl, last⟩ := way.behind longer
  obtain - | ⟨step, beyond⟩ := last
  obtain passed | ⟨rfl, rfl, rfl, there⟩ := onward_cases _ _ name _ _ dot dots step
  · exact .inl (by omega)
  · cases beyond
    exact .inr ⟨rfl, rfl, there⟩

end FileTree

end Listing
