import Mathlib.Tactic.Choose
import Listing.Proofs.FileTree.Leading
import Listing.Proofs.Source.Search

/-!
The calls of a walk. A walk asks a system about paths and keeps no record of where it has been, so
links that lead back bring it to the same folder again, under a longer path each time. It ends
because the system gives up a path with too many links: what is left for a call are the links that
its path may still pass through and, as long as it passes through none, the folders below its place.
-/

namespace Listing

section Visits

variable {α β : Type}

theorem mapM_eq_some (f : α → Option β) (g : α → β) (items : List α)
    (each : ∀ item ∈ items, f item = some (g item)) : items.mapM f = some (items.map g) := by
  induction items with
  | nil => rfl
  | cons item rest ih =>
    obtain ⟨first, later⟩ := List.forall_mem_cons.1 each
    rw [List.mapM_cons, first, ih later]
    rfl

theorem eq_map_of_mapM (f : α → Option β) (g : α → β) (items : List α)
    (results : List β) (each : ∀ item ∈ items, ∀ result, f item = some result → result = g item)
    (done : items.mapM f = some results) : results = items.map g := by
  induction items generalizing results with
  | nil =>
    cases done
    rfl
  | cons item rest ih =>
    obtain ⟨first, later⟩ := List.forall_mem_cons.1 each
    rw [List.mapM_cons, Option.bind_eq_bind, Option.bind_eq_some_iff] at done
    obtain ⟨result, made, more⟩ := done
    rw [Option.bind_eq_bind, Option.bind_eq_some_iff] at more
    obtain ⟨others, makes, same⟩ := more
    cases same
    rw [first result made, ih others later makes]
    rfl

end Visits

/-- What a system answers a walk: the names in a folder, unless it cannot be listed; whether a path
leads to a folder; and what is found at an entry that is none. -/
structure System where
  names : Path → Option (List Text)
  isFolder : Path → Bool
  findsAt : Path → Findings

namespace System

/-- A walk through a folder by the answers of a system. It calls itself for the folders in it, and
does not return if more than so many calls are needed inside each other. -/
def walk (s : System) : (levels : Nat) → Path → Option Findings
  | 0, _ => none
  | levels + 1, path =>
    match s.names path with
    | none => some (.obstacle (.closed path))
    | some names =>
      ((names.filter fun name => !isSkipped name).mapM fun name =>
        if s.isFolder (path.child name) then s.walk levels (path.child name)
        else some (s.findsAt (path.child name))).map .concat

end System

namespace FileTree

def start (t : FileTree) (p : Path) : Location :=
  if p.rootSlashes = 0 then t.workingFolder else []

/-- What is left for a walk at a place: the links that may still be passed through, and the folders
that may still be below. -/
def left (t : FileTree) (links : Nat) (place : Location) : Nat :=
  (linkLimit - links) * (t.depth + 1) + (t.depth - place.length)

def system (t : FileTree) : System where
  names path :=
    if t.unlistable.contains path.toText then none
    else
      match t.locate path with
      | .ok (_, place) => some (t.entries place)
      | .error _ => none
  isFolder path :=
    match t.locate path with
    | .ok (_, place) => t.node? place == some .folder
    | .error _ => false
  findsAt := t.findsAt

theorem left_lt (t : FileTree) (links : Nat) (place : Location) :
    t.left links place < (linkLimit + 1) * (t.depth + 1) := by
  have few : (linkLimit - links) * (t.depth + 1) ≤ linkLimit * (t.depth + 1) :=
    Nat.mul_le_mul_right _ (Nat.sub_le _ _)
  unfold left
  rw [Nat.succ_mul]
  omega

end FileTree

/-- A system that follows paths through a tree, and gives up a path with more links than the limit:
where it tells of a folder, the path leads somewhere through no more. -/
def System.Heeds (s : System) (t : FileTree) : Prop :=
  ∀ path, s.isFolder path = true →
    ∃ links place, links ≤ linkLimit ∧ t.Leads (t.start path) path.parts links place

namespace System

variable {t : FileTree} {s : System}

theorem left_lt_left (before all : Nat) (middle place : Location) (path : Path) (name : Text)
    (kept : isSkipped name = false) (way : t.Leads (t.start path) path.parts before middle)
    (longer : t.Leads (t.start path) (path.child name).parts all place) (few : all ≤ linkLimit) :
    t.left all place < t.left before middle := by
  have dot : name ≠ ['.'] := by
    rintro rfl
    cases kept
  have dots : name ≠ ['.', '.'] := by
    rintro rfl
    cases kept
  unfold FileTree.left
  obtain more | ⟨rfl, rfl, there⟩ := way.continued longer dot dots
  · have fewer : (linkLimit - all + 1) * (t.depth + 1) ≤ (linkLimit - before) * (t.depth + 1) :=
      Nat.mul_le_mul_right _ (by omega)
    rw [Nat.succ_mul] at fewer
    omega
  · obtain ⟨node, found⟩ := Option.isSome_iff_exists.1 there
    have inside := t.length_le_depth _ node found
    rw [List.length_append, List.length_singleton] at inside ⊢
    omega

/-- A walk returns, whatever is left for it, and more levels make no difference to what it finds. -/
theorem walk_returns_of_leads (heeds : s.Heeds t) (links : Nat) (place : Location) (path : Path)
    (way : t.Leads (t.start path) path.parts links place) :
    ∃ findings, ∀ levels, t.left links place < levels → s.walk levels path = some findings := by
  induction rest : t.left links place using Nat.strongRecOn
    generalizing links place path with
  | _ rank ih =>
    subst rest
    cases listed : s.names path with
    | none =>
      refine ⟨.obstacle (.closed path), fun levels enough => ?_⟩
      obtain ⟨levels, rfl⟩ := Nat.exists_eq_add_one_of_ne_zero (Nat.ne_zero_of_lt enough)
      rw [walk, listed]
    | some names =>
      have each : ∀ name, isSkipped name = false → ∃ part, ∀ levels, t.left links place ≤ levels →
          (if s.isFolder (path.child name) then s.walk levels (path.child name)
            else some (s.findsAt (path.child name))) = some part := by
        intro name kept
        split_ifs with folder
        · obtain ⟨all, inner, few, longer⟩ := heeds _ folder
          have less := left_lt_left links all place inner path name kept way longer few
          obtain ⟨part, returned⟩ := ih _ less all inner (path.child name) longer rfl
          exact ⟨part, fun levels enough => returned levels (Nat.lt_of_lt_of_le less enough)⟩
        · exact ⟨_, fun _ _ => rfl⟩
      have : Nonempty Findings := ⟨{}⟩
      choose! part returned using each
      refine ⟨.concat ((names.filter fun name => !isSkipped name).map part), ?_⟩
      intro levels enough
      obtain ⟨levels, rfl⟩ := Nat.exists_eq_add_one_of_ne_zero (Nat.ne_zero_of_lt enough)
      rw [walk, listed]
      dsimp only
      rw [mapM_eq_some _ part]
      · rfl
      · intro name inside
        have kept : isSkipped name = false := by simpa using (List.mem_filter.1 inside).2
        exact returned name kept levels (Nat.le_of_lt_succ enough)

theorem walk_returns (heeds : s.Heeds t) (path : Path) (folder : s.isFolder path = true) :
    ∃ findings, ∀ levels, (linkLimit + 1) * (t.depth + 1) ≤ levels →
      s.walk levels path = some findings := by
  obtain ⟨links, place, -, way⟩ := heeds path folder
  obtain ⟨findings, returned⟩ := walk_returns_of_leads heeds links place path way
  exact ⟨findings, fun levels enough =>
    returned levels (Nat.lt_of_lt_of_le (t.left_lt links place) enough)⟩

end System

namespace FileTree

variable (t : FileTree)

theorem isFolder_system (path : Path) : t.system.isFolder path = true ↔
    ∃ links place, t.locate path = .ok (links, place) ∧ t.node? place = some .folder := by
  unfold system
  dsimp only
  cases t.locate path with
  | error e => simp
  | ok reached =>
    rw [beq_iff_eq]
    constructor
    · intro there
      exact ⟨reached.1, reached.2, rfl, there⟩
    · rintro ⟨links, place, same, there⟩
      cases same
      exact there

theorem heeds_system : t.system.Heeds t := by
  intro path folder
  obtain ⟨links, place, located, -⟩ := (t.isFolder_system path).1 folder
  unfold locate at located
  cases refused : path.refusal with
  | some e =>
    rw [refused] at located
    cases located
  | none =>
    rw [refused] at located
    have few := (t.follow_links _ _ _ _ _ located).2
    obtain ⟨passed, same, way⟩ := t.leads_of_follow 0 links (t.start path) place path.parts located
    refine ⟨passed, place, ?_, way⟩
    omega

theorem explore_of_not_folder (path : Path) (other : t.system.isFolder path = false) :
    t.explore path = t.findsAt path := by
  have none : t.branches path = [] := by
    unfold branches
    cases located : t.locate path with
    | error e => rfl
    | ok reached =>
      refine if_neg fun inside => ?_
      have folder := (t.isFolder_system path).2 ⟨reached.1, reached.2, located, inside.1⟩
      rw [folder] at other
      cases other
  rw [explore_eq, none]
  exact Findings.append_nothing _

/-- By the answers of a tree a walk finds what the search by places finds. -/
theorem walk_system (levels : Nat) (path : Path) (folder : t.system.isFolder path = true)
    (findings : Findings) (returned : t.system.walk levels path = some findings) :
    findings = t.explore path := by
  induction levels generalizing path findings with
  | zero => cases returned
  | succ levels ih =>
    obtain ⟨links, place, located, there⟩ := (t.isFolder_system path).1 folder
    have goal : t.explore path = t.walk links place path := by
      unfold explore
      simp only [located, there]
    rw [goal]
    rw [System.walk] at returned
    cases closed : t.unlistable.contains path.toText with
    | true =>
      have listed : t.system.names path = none := if_pos closed
      rw [listed] at returned
      cases returned
      rw [walk, if_pos closed]
    | false =>
      have listed : t.system.names path = some (t.entries place) := by
        unfold system
        simp only [closed, located]
        rfl
      rw [listed, Option.map_eq_some_iff] at returned
      obtain ⟨parts, done, rfl⟩ := returned
      rw [t.walk_entries path links place located closed]
      congr 1
      apply eq_map_of_mapM _ _ _ _ _ done
      intro name _ part visited
      split_ifs at visited with inner
      · exact ih _ inner part visited
      · cases visited
        exact (t.explore_of_not_folder _ (by simpa using inner)).symm

/-- A walk ends in every tree, whatever its links lead to, if the system tells of no folder behind
more links than the limit: its calls are never nested deeper than the tree is deep, once for each
link that a path may pass through and once more. With the answers of the tree itself it finds what
the walk through the places of the tree finds. -/
theorem walk_ends (t : FileTree) (s : System) (heeds : s.Heeds t) (path : Path)
    (folder : s.isFolder path = true) :
    (∃ findings, ∀ levels, (linkLimit + 1) * (t.depth + 1) ≤ levels →
        s.walk levels path = some findings) ∧
      t.system.Heeds t ∧
      ∀ own links place, t.locate own = .ok (links, place) → t.node? place = some .folder →
        ∀ levels, (linkLimit + 1) * (t.depth + 1) ≤ levels →
          t.system.walk levels own = some (t.walk links place own) := by
  refine ⟨System.walk_returns heeds path folder, t.heeds_system, ?_⟩
  intro own links place located there levels enough
  have inside := (t.isFolder_system own).2 ⟨links, place, located, there⟩
  obtain ⟨findings, returned⟩ := System.walk_returns t.heeds_system own inside
  have found := t.walk_system levels own inside findings (returned levels enough)
  unfold explore at found
  simp only [located, there] at found
  rw [returned levels enough, found]

def loopedFolder : FileTree where
  nodes :=
    [(["d".toList], .folder), (["d".toList, "a".toList], .link "b".toList),
      (["d".toList, "b".toList], .link "a".toList), (["d".toList, "s".toList], .link ".".toList),
      (["d".toList, "u".toList], .link "../d".toList), (["d".toList, "x.py".toList], .file [])]

theorem walk_ends_looped :
    loopedFolder.system.Heeds loopedFolder ∧
      loopedFolder.system.isFolder (.ofText "d/s/u/s".toList) = true ∧
      loopedFolder.system.isFolder (.ofText "d/a".toList) = false ∧
      ∃ findings, ∀ levels, 41 * 3 ≤ levels →
        loopedFolder.system.walk levels (.ofText "d/s/u/s".toList) = some findings := by
  have heeds := loopedFolder.heeds_system
  have folder : loopedFolder.system.isFolder (.ofText "d/s/u/s".toList) = true :=
    (loopedFolder.isFolder_system _).2
      ⟨3, ["d".toList], loopedFolder.locate_of_followIn 8 _ _ rfl rfl, rfl⟩
  have other : loopedFolder.system.isFolder (.ofText "d/a".toList) = false := by
    -- The two links lead to each other, until there are too many.
    have looped : loopedFolder.locate (.ofText "d/a".toList) = .error .linkLoop :=
      loopedFolder.locate_of_followIn 42 _ _ rfl (by decide +kernel)
    unfold system
    dsimp only
    rw [looped]
  exact ⟨heeds, folder, other, (walk_ends loopedFolder _ heeds _ folder).1⟩

end FileTree

end Listing
