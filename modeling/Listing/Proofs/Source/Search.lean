import Mathlib.Logic.Relation
import Listing.Proofs.FileTree.Following
import Listing.Proofs.Path
import Listing.Source.Collection

/-!
What a search asks about. From a path that leads to a folder it goes on to the entries of the
folder that are not passed over, and from them to theirs. The files it finds are the paths among
these that lead to a file with a known suffix, and one thing alone ends it early: a path among these
that cannot be asked about, because it is too long or leads through a folder that cannot be
searched. What the files hold has no part in it.
-/

namespace Listing

namespace Findings

theorem append_nothing (f : Findings) : f.append {} = f := by
  unfold append
  split_ifs with ended
  · rfl
  · cases f
    simp_all

theorem stopped_append (a b : Findings) :
    (a.append b).stopped = none ↔ a.stopped = none ∧ b.stopped = none := by
  unfold append
  split_ifs with ended
  · simp_all [Option.isSome_iff_ne_none]
  · simp_all [Option.isSome_iff_ne_none]

theorem stopped_concat (parts : List Findings) :
    (concat parts).stopped = none ↔ ∀ part ∈ parts, part.stopped = none := by
  induction parts with
  | nil => simp [concat]
  | cons part rest ih =>
    rw [List.forall_mem_cons, ← ih]
    exact stopped_append part (concat rest)

theorem append_of_done (a b : Findings) (done : a.stopped = none) :
    a.append b = ⟨a.files ++ b.files, a.obstacles ++ b.obstacles, b.stopped⟩ := by
  simp [append, done]

theorem files_append (a b : Findings) (done : a.stopped = none) :
    (a.append b).files = a.files ++ b.files := by
  rw [append_of_done a b done]

theorem obstacles_append (a b : Findings) (done : a.stopped = none) :
    (a.append b).obstacles = a.obstacles ++ b.obstacles := by
  rw [append_of_done a b done]

theorem concat_flatMap {α : Type} (held : Findings → List α) (nothing : held {} = [])
    (joined : ∀ a b, a.stopped = none → held (a.append b) = held a ++ held b)
    (parts : List Findings) (done : ∀ part ∈ parts, part.stopped = none) :
    held (concat parts) = parts.flatMap held := by
  induction parts with
  | nil => exact nothing
  | cons part rest ih =>
    obtain ⟨first, later⟩ := List.forall_mem_cons.1 done
    rw [List.flatMap_cons, ← ih later]
    exact joined part (concat rest) first

theorem of_stopped_concat (parts : List Findings) (e : PathError)
    (ended : (concat parts).stopped = some e) : ∃ part ∈ parts, part.stopped = some e := by
  induction parts with
  | nil => cases ended
  | cons part rest ih =>
    rw [List.exists_mem_cons_iff]
    cases own : part.stopped with
    | some _ =>
      change (part.append (concat rest)).stopped = some e at ended
      rw [append_stopped _ _ (by simp [own]), own] at ended
      exact .inl ended
    | none =>
      change (part.append (concat rest)).stopped = some e at ended
      rw [append_of_done _ _ own] at ended
      exact .inr (ih ended)

theorem concat_filter {α : Type} (skipped : α → Bool) (part : α → Findings) (items : List α) :
    concat ((items.filter fun item => !skipped item).map part) =
      concat (items.map fun item => if skipped item = true then {} else part item) := by
  induction items with
  | nil => rfl
  | cons item rest ih =>
    rw [List.map_cons, List.filter_cons]
    cases skipped item with
    | true => exact ih
    | false => exact congrArg (part item).append ih

end Findings

namespace FileTree

variable (t : FileTree)

theorem entries_eq (folder : Location) (names : List Text)
    (ordered : names.Pairwise fun a b => Text.notAfter a b = true)
    (same : names.Perm (t.nodes.filterMap fun entry =>
      if entry.1 ≠ [] ∧ entry.1.dropLast = folder then entry.1.getLast? else none)) :
    t.entries folder = names := by
  refine List.Perm.eq_of_pairwise (fun a b _ _ => Text.notAfter_antisymm a b)
    (List.pairwise_mergeSort Text.notAfter_trans Text.notAfter_total _) ordered ?_
  exact (List.mergeSort_perm _ _).trans same.symm

def branches (p : Path) : List Path :=
  match t.locate p with
  | .error _ => []
  | .ok (_, location) =>
    if t.node? location = some .folder ∧ t.unlistable.contains p.toText = false then
      ((t.entries location).filter fun name => !isSkipped name).map p.child
    else []

/-- What a search that comes to a path finds there, before it goes on to any entry. -/
def findsAt (p : Path) : Findings :=
  match t.locate p with
  | .error error => .ofError error p {}
  | .ok (_, location) =>
    match t.node? location with
    | some .folder => if t.unlistable.contains p.toText then .obstacle (.closed p) else {}
    | some (.file _) => if p.isSource then .file ⟨p, location⟩ else {}
    | _ => {}

def explore (p : Path) : Findings :=
  match t.locate p with
  | .error error => .ofError error p {}
  | .ok (links, location) =>
    match t.node? location with
    | some .folder => t.walk links location p
    | some (.file _) => if p.isSource then .file ⟨p, location⟩ else {}
    | _ => {}

def Asks : Path → Path → Prop := Relation.ReflTransGen fun p q => q ∈ t.branches p

theorem walk_entries (p : Path) (links : Nat) (location : Location)
    (located : t.locate p = .ok (links, location))
    (listed : t.unlistable.contains p.toText = false) :
    t.walk links location p =
      .concat (((t.entries location).filter fun name => !isSkipped name).map
        fun name => t.explore (p.child name)) := by
  rw [walk, if_neg (ne_true_of_eq_false listed), Findings.concat_filter]
  congr 2
  funext name
  unfold explore
  rw [t.locate_child p name links location located]
  by_cases skipped : isSkipped name = true
  · rw [dif_pos skipped, if_pos skipped]
  · rw [dif_neg skipped, if_neg skipped]
    -- The walk keeps a proof of where the entry led, for its own end, so its match is only split.
    split
    · next error reached => rw [reached]
    · next through inner reached => exact reached ▸ rfl

theorem explore_eq (p : Path) :
    t.explore p = (t.findsAt p).append (.concat ((t.branches p).map t.explore)) := by
  cases located : t.locate p with
  | error e =>
    simp only [explore, findsAt, branches, located]
    exact (Findings.append_nothing _).symm
  | ok reached =>
    obtain ⟨links, location⟩ := reached
    by_cases folder : t.node? location = some .folder
    · cases listed : t.unlistable.contains p.toText with
      | true =>
        simp only [explore, findsAt, branches, located, folder, listed]
        rw [walk, if_pos listed]
        rfl
      | false =>
        simp only [explore, findsAt, branches, located, folder, listed]
        rw [t.walk_entries p links location located listed]
        simp [Function.comp_def, Findings.append]
    · simp only [explore, findsAt, branches, located, folder, false_and, if_false]
      rw [List.map_nil]
      cases node : t.node? location with
      | none => rfl
      | some found =>
        cases found with
        | folder => exact absurd node folder
        | file bytes => exact (Findings.append_nothing _).symm
        | _ => rfl

theorem search_induction {motive : Path → Prop}
    (step : ∀ p, (∀ q ∈ t.branches p, motive q) → motive p) (p : Path) : motive p := by
  -- The walk recurses on places. A path that leads nowhere has no branches, and one that leads to a
  -- place has the entries there as its branches, so its case is that of the walk at the place.
  have located_path : ∀ links location p, t.locate p = .ok (links, location) → motive p := by
    intro links location p
    induction links, location, p using walk.induct t with
    | case1 links location p closed =>
      intro located
      apply step
      simp only [branches, located, closed, Bool.true_eq_false, and_false, if_false]
      exact List.forall_mem_nil motive
    | case2 links location p listed ih =>
      intro located
      apply step
      intro q member
      obtain ⟨name, kept, rfl⟩ : ∃ name, isSkipped name = false ∧ p.child name = q := by
        simp only [branches, located] at member
        split_ifs at member
        · simp only [List.mem_map, List.mem_filter, Bool.not_eq_true'] at member
          obtain ⟨name, ⟨-, kept⟩, same⟩ := member
          exact ⟨name, kept, same⟩
        · cases member
      have child := t.locate_child p name links location located
      cases reached : t.followChild links location p name with
      | error e =>
        apply step
        simp [branches, child, reached]
      | ok next =>
        obtain ⟨through, inner⟩ := next
        exact ih name (by simp [kept]) through inner reached (child.trans reached)
  cases located : t.locate p with
  | error e =>
    apply step
    simp [branches, located]
  | ok reached => exact located_path reached.1 reached.2 p located

/-- A path that cannot be asked about: it is too long, or it leads through a folder that cannot be
searched. -/
def Barred (p : Path) : Prop := t.locate p = .error .nameTooLong ∨ t.locate p = .error .denied

/-- Every other error about a path says that nothing is there. -/
theorem barred_iff (p : Path) (e : SystemError) (failed : t.locate p = .error e) :
    t.Barred p ↔ e.isAbsence = false := by
  unfold Barred
  rw [failed]
  obtain absent | rfl | rfl := t.error_of_locate p e failed
  · rw [absent]
    refine iff_of_false ?_ (by decide)
    rintro (long | denied)
    · cases long
      cases absent
    · cases denied
      cases absent
  · exact iff_of_true (.inl rfl) rfl
  · exact iff_of_true (.inr rfl) rfl

theorem not_barred_of_located (p : Path) (reached : Nat × Location)
    (located : t.locate p = .ok reached) : ¬t.Barred p := by
  rintro (long | denied)
  · cases located.symm.trans long
  · cases located.symm.trans denied

theorem stopped_findsAt (p : Path) : (t.findsAt p).stopped = none ↔ ¬t.Barred p := by
  unfold findsAt
  cases located : t.locate p with
  | error e =>
    rw [t.barred_iff p e located]
    cases absent : e.isAbsence with
    | true => simp [Findings.ofError, absent]
    | false => simp [Findings.ofError, absent]
  | ok reached =>
    refine iff_of_true ?_ (t.not_barred_of_located p reached located)
    dsimp only
    split
    · split_ifs <;> rfl
    · split_ifs <;> rfl
    · rfl

end FileTree

end Listing
