import Mathlib.Data.List.Nodup
import Listing.Proofs.Path
import Listing.Proofs.Source.Search

/-!
The ways below a folder, as the names that lead on from it. A walk comes to an entry by a way whose
names it does not pass over and whose folders can be listed, and it comes to the ways in the order
of their first names that differ: a folder before what is in it, and the entries of one folder in
the order of their names.
-/

namespace Listing

/-- A list of the ways that have a property, each once, in the order of a walk: by the first names
that differ. -/
structure ListsInOrder (ways : List (List Text)) (P : List Text → Prop) : Prop where
  increasing : ways.Pairwise (· < ·)
  mem_iff : ∀ way, way ∈ ways ↔ P way

/-- The ways behind some names, and the empty way if it is one of them. -/
def waysBehind (own : Bool) (names : List Text) (ways : Text → List (List Text)) :
    List (List Text) :=
  (if own then [[]] else []) ++ names.flatMap fun name => (ways name).map (name :: ·)

theorem nil_mem_waysBehind (own : Bool) (names : List Text) (ways : Text → List (List Text)) :
    [] ∈ waysBehind own names ways ↔ own = true := by
  simp [waysBehind]

theorem cons_mem_waysBehind (own : Bool) (names : List Text) (ways : Text → List (List Text))
    (name : Text) (way : List Text) :
    name :: way ∈ waysBehind own names ways ↔ name ∈ names ∧ way ∈ ways name := by
  cases own <;> simp [waysBehind]

theorem map_waysBehind {α : Type} (f : List Text → α) (own : Bool) (names : List Text)
    (ways : Text → List (List Text)) :
    (waysBehind own names ways).map f =
      (if own then [f []] else []) ++
        names.flatMap fun name => (ways name).map fun way => f (name :: way) := by
  cases own <;> simp [waysBehind, List.map_flatMap, Function.comp_def]

/-- Ways that are in order behind each of some names in order are in order. -/
theorem waysBehind_increasing (own : Bool) (names : List Text) (ways : Text → List (List Text))
    (ordered : names.Pairwise (· < ·)) (each : ∀ name ∈ names, (ways name).Pairwise (· < ·)) :
    (waysBehind own names ways).Pairwise (· < ·) := by
  rw [waysBehind, List.pairwise_append]
  refine ⟨?_, List.pairwise_flatMap.2 ⟨?_, ?_⟩, ?_⟩
  · cases own <;> simp
  · intro name member
    rw [List.pairwise_map]
    exact (each name member).imp List.Lex.cons
  · apply ordered.imp
    intro first second less
    simp only [List.mem_map, forall_exists_index, and_imp, forall_apply_eq_imp_iff₂]
    intro _ _ _ _
    exact List.Lex.rel less
  · intro before member after later
    cases own with
    | false => cases member
    | true =>
      obtain rfl := List.mem_singleton.1 member
      obtain ⟨name, -, behind⟩ := List.mem_flatMap.1 later
      obtain ⟨way, -, rfl⟩ := List.mem_map.1 behind
      exact List.Lex.nil

namespace Path

def descend (p : Path) (way : List Text) : Path := { p with parts := p.parts ++ way }

@[simp]
theorem descend_nil (p : Path) : p.descend [] = p := by
  simp [descend]

theorem descend_cons (p : Path) (name : Text) (way : List Text) :
    p.descend (name :: way) = (p.child name).descend way := by
  simp [descend, child]

end Path

namespace FileTree

/-- A tree without links as a file system holds it: each entry is there once, in a folder, under
names that the system takes. -/
structure Plain (t : FileTree) : Prop where
  once : (t.nodes.map Prod.fst).Nodup
  inFolder : ∀ entry ∈ t.nodes, t.node? entry.1.dropLast = some .folder
  noLink : ∀ entry ∈ t.nodes, ∀ target, entry.2 ≠ .link target
  names : ∀ entry ∈ t.nodes, ∀ name ∈ entry.1,
    Char.ofNat 0 ∉ name ∧ name.byteCount ≤ nameLimit

variable (t : FileTree)

/-- A walk through the folder at a place, which a path leads to, comes to the entry below it by some
names: none of the names is passed over, and every folder before the entry can be listed. -/
structure Comes (p : Path) (location : Location) (way : List Text) : Prop where
  there : (t.node? (location ++ way)).isSome = true
  kept : ∀ name ∈ way, isSkipped name = false
  listed : ∀ before, before <+: way → before ≠ way →
    t.unlistable.contains (p.descend before).toText = false

theorem node?_isSome_iff (location : Location) :
    (t.node? location).isSome = true ↔ location = [] ∨ ∃ entry ∈ t.nodes, entry.1 = location := by
  unfold node?
  split_ifs with root
  · simp [root]
  · rw [List.lookup_isSome_iff, or_iff_right root]
    simp only [beq_iff_eq]
    exact exists_congr fun entry => and_congr_right fun _ => eq_comm

theorem mem_entries (folder : Location) (name : Text) :
    name ∈ t.entries folder ↔ (t.node? (folder ++ [name])).isSome = true := by
  rw [node?_isSome_iff, entries, List.mem_mergeSort, List.mem_filterMap]
  constructor
  · rintro ⟨entry, member, last⟩
    split_ifs at last with inside
    obtain ⟨filled, rfl⟩ := inside
    exact .inr ⟨entry, member, (List.dropLast_append_getLast? name last).symm⟩
  · rintro (root | ⟨entry, member, place⟩)
    · simp at root
    · exact ⟨entry, member, by simp [place]⟩

variable {t}

theorem Plain.folder_before (plain : t.Plain) (location : Location) (way : List Text)
    (more : way ≠ []) (found : (t.node? (location ++ way)).isSome = true) :
    t.node? location = some .folder := by
  induction way using List.reverseRecOn with
  | nil => exact absurd rfl more
  | append_singleton front last ih =>
    rw [node?_isSome_iff] at found
    obtain root | ⟨entry, member, place⟩ := found
    · simp at root
    · have before := plain.inFolder entry member
      rw [place, ← List.append_assoc, List.dropLast_concat] at before
      by_cases first : front = []
      · simpa [first] using before
      · exact ih first (by simp [before])

theorem Plain.entries_increasing (plain : t.Plain) (folder : Location) :
    (t.entries folder).Pairwise (· < ·) := by
  -- Sorting alone allows one name twice. In one folder the name tells the location, and no location
  -- is in the tree twice.
  have apart : (t.entries folder).Nodup := by
    rw [entries, (List.mergeSort_perm _ _).nodup_iff]
    change (t.nodes.filterMap ((fun location : Location =>
      if location ≠ [] ∧ location.dropLast = folder then location.getLast? else none) ∘
        Prod.fst)).Nodup
    rw [← List.filterMap_map]
    refine plain.once.filterMap ?_
    intro first second name here there
    simp only [Option.mem_def] at here there
    split_ifs at here there with inside inside'
    rw [← List.dropLast_append_getLast? name here, ← List.dropLast_append_getLast? name there,
      inside.2, inside'.2]
  have ordered : (t.entries folder).Pairwise fun a b => Text.notAfter a b = true :=
    List.pairwise_mergeSort Text.notAfter_trans Text.notAfter_total _
  exact (ordered.and apart).imp fun both => Text.lt_of_notAfter _ _ both.1 both.2

variable (t) in
def steps (p : Path) (location : Location) : List Text :=
  if t.node? location = some .folder ∧ t.unlistable.contains p.toText = false then
    (t.entries location).filter fun name => !isSkipped name
  else []

theorem branches_eq_steps (p : Path) (links : Nat) (location : Location)
    (located : t.locate p = .ok (links, location)) :
    t.branches p = (t.steps p location).map p.child := by
  unfold branches steps
  rw [located]
  dsimp only
  split_ifs <;> rfl

theorem mem_steps (p : Path) (location : Location) (name : Text) :
    name ∈ t.steps p location ↔
      t.node? location = some .folder ∧ t.unlistable.contains p.toText = false ∧
        (t.node? (location ++ [name])).isSome = true ∧ isSkipped name = false := by
  unfold steps
  split_ifs with inside
  · simp only [List.mem_filter, mem_entries, Bool.not_eq_true', inside, true_and]
  · simp only [List.not_mem_nil, false_iff]
    rintro ⟨folder, listed, -⟩
    exact inside ⟨folder, listed⟩

theorem Plain.steps_increasing (plain : t.Plain) (p : Path) (location : Location) :
    (t.steps p location).Pairwise (· < ·) := by
  unfold steps
  split_ifs
  · exact (plain.entries_increasing location).filter _
  · exact .nil

theorem comes_nil (p : Path) (location : Location) :
    t.Comes p location [] ↔ (t.node? location).isSome = true := by
  constructor
  · intro comes
    simpa using comes.there
  · intro there
    refine ⟨by simpa using there, List.forall_mem_nil _, ?_⟩
    intro before front other
    exact absurd (List.prefix_nil.1 front) other

/-- A walk comes to an entry through one of those that it goes on to. -/
theorem Plain.comes_cons (plain : t.Plain) (p : Path) (location : Location) (name : Text)
    (way : List Text) :
    t.Comes p location (name :: way) ↔
      name ∈ t.steps p location ∧ t.Comes (p.child name) (location ++ [name]) way := by
  have place : location ++ name :: way = location ++ [name] ++ way := by simp
  rw [mem_steps]
  constructor
  · rintro ⟨there, kept, listed⟩
    have first := listed [] (List.nil_prefix) (by simp)
    rw [Path.descend_nil] at first
    obtain ⟨entered, later⟩ := List.forall_mem_cons.1 kept
    have folder := plain.folder_before location (name :: way) (by simp) there
    rw [place] at there
    have next : (t.node? (location ++ [name])).isSome = true := by
      by_cases last : way = []
      · simpa [last] using there
      · rw [plain.folder_before _ way last there]
        rfl
    refine ⟨⟨folder, first, next, entered⟩, there, later, ?_⟩
    intro before front other
    rw [← Path.descend_cons]
    exact listed (name :: before) (List.cons_prefix_cons.2 ⟨rfl, front⟩) (by simpa using other)
  · rintro ⟨⟨-, first, -, entered⟩, there, later, listed⟩
    refine ⟨by rwa [place], List.forall_mem_cons.2 ⟨entered, later⟩, ?_⟩
    intro before front other
    obtain rfl | ⟨behind, rfl, inner⟩ := List.prefix_cons_iff.1 front
    · rwa [Path.descend_nil]
    · rw [Path.descend_cons]
      exact listed behind inner (by simpa using other)

end FileTree

end Listing
