import Mathlib.Tactic.Choose
import Listing.Proofs.Source.Suffix
import Listing.Proofs.Source.Way

/-!
What a walk through a folder finds in a tree without links: the files with a known suffix and the
folders that cannot be listed, among the entries that it comes to, each once and in order. Only an
entry that cannot be asked about ends a walk before: one whose path is too long, or one behind a
folder that can be listed and not searched.
-/

namespace Listing

namespace FileTree

/-- The entry below a place by some names can be asked about: its path is not too long, and every
folder from the place on to it can be searched. -/
structure CanAsk (t : FileTree) (p : Path) (location : Location) (way : List Text) : Prop where
  short : (p.descend way).toText.byteCount ≤ pathLimit
  searched : ∀ before, before <+: way → before ≠ way →
    t.unsearchable.contains (location ++ before) = false

def askError (p : Path) : PathError :=
  ⟨if pathLimit < p.toText.byteCount then .nameTooLong else .denied, p⟩

variable {t : FileTree}

theorem canAsk_nil (p : Path) (location : Location) :
    t.CanAsk p location [] ↔ p.toText.byteCount ≤ pathLimit := by
  constructor
  · intro can
    simpa using can.short
  · intro short
    refine ⟨by simpa using short, ?_⟩
    intro before front other
    exact absurd (List.prefix_nil.1 front) other

theorem canAsk_cons (p : Path) (location : Location) (name : Text) (way : List Text) :
    t.CanAsk p location (name :: way) ↔
      t.unsearchable.contains location = false ∧
        t.CanAsk (p.child name) (location ++ [name]) way := by
  constructor
  · rintro ⟨short, searched⟩
    have first := searched [] List.nil_prefix (by simp)
    rw [List.append_nil] at first
    refine ⟨first, by rwa [← Path.descend_cons], ?_⟩
    intro before front other
    rw [← List.append_cons]
    exact searched (name :: before) (List.cons_prefix_cons.2 ⟨rfl, front⟩) (by simpa using other)
  · rintro ⟨first, short, searched⟩
    refine ⟨by rwa [Path.descend_cons], ?_⟩
    intro before front other
    obtain rfl | ⟨behind, rfl, inner⟩ := List.prefix_cons_iff.1 front
    · rwa [List.append_nil]
    · rw [List.append_cons]
      exact searched behind inner (by simpa using other)

theorem Plain.node?_ne_link (plain : t.Plain) (location : Location) (target : Text) :
    t.node? location ≠ some (.link target) := by
  unfold node?
  split_ifs with root
  · simp
  · intro found
    obtain ⟨front, behind, nodes, -⟩ := List.lookup_eq_some_iff.1 found
    exact plain.noLink (location, .link target) (by simp [nodes]) target rfl

theorem byteCount_of_located (p : Path) (links : Nat) (location : Location)
    (located : t.locate p = .ok (links, location)) : p.toText.byteCount ≤ pathLimit := by
  by_contra long
  unfold locate Path.refusal at located
  rw [if_pos (not_le.1 long)] at located
  split_ifs at located

theorem noNull_of_located (p : Path) (links : Nat) (location : Location)
    (located : t.locate p = .ok (links, location)) : Char.ofNat 0 ∉ p.toText := by
  intro inside
  unfold locate Path.refusal at located
  simp [inside] at located

theorem Plain.name_of_mem_steps (plain : t.Plain) (p : Path) (location : Location) (name : Text)
    (step : name ∈ t.steps p location) :
    Char.ofNat 0 ∉ name ∧ name.byteCount ≤ nameLimit := by
  obtain ⟨-, -, there, -⟩ := (mem_steps p location name).1 step
  obtain ⟨entry, member, place⟩ : ∃ entry ∈ t.nodes, entry.1 = location ++ [name] := by
    simpa using (t.node?_isSome_iff _).1 there
  exact plain.names entry member name (by simp [place])

theorem Plain.advance_step (plain : t.Plain) (links : Nat) (p : Path) (location : Location)
    (name : Text) (step : name ∈ t.steps p location) :
    t.advance links location name =
      if t.unsearchable.contains location then .error .denied
      else .ok (links, location ++ [name], []) := by
  obtain ⟨folder, -, there, kept⟩ := (mem_steps p location name).1 step
  have short := (plain.name_of_mem_steps p location name step).2
  have notDot : name ≠ ['.'] := by
    rintro rfl
    cases kept
  have notDots : name ≠ ['.', '.'] := by
    rintro rfl
    cases kept
  unfold advance
  rw [if_neg (not_not.2 folder), if_neg notDot, if_neg notDots, if_neg (not_lt.2 short)]
  congr 1
  cases found : t.node? (location ++ [name]) with
  | none => simp [found] at there
  | some node =>
    cases node with
    | link target => exact absurd found (plain.node?_ne_link _ target)
    | _ => rfl

/-- An entry that a walk goes on to is where its path leads, unless the path is too long or the
folder cannot be searched. -/
theorem Plain.locate_step (plain : t.Plain) (p : Path) (links : Nat) (location : Location)
    (located : t.locate p = .ok (links, location)) (name : Text)
    (step : name ∈ t.steps p location) :
    t.locate (p.child name) =
      if pathLimit < (p.child name).toText.byteCount then .error .nameTooLong
      else if t.unsearchable.contains location then .error .denied
      else .ok (links, location ++ [name]) := by
  -- The path itself was followed, so a null byte could only come with the name.
  have clean : (p.child name).toText.contains (Char.ofNat 0) = false := by
    have before := noNull_of_located p links location located
    have last := (plain.name_of_mem_steps p location name step).1
    rw [Path.mem_toText_iff _ (by decide) (by decide)] at before
    rw [← Bool.not_eq_true, List.contains_iff_mem, Path.mem_toText_iff _ (by decide) (by decide)]
    simpa [Path.child, or_imp, forall_and, last] using before
  rw [t.locate_child p name links location located, followChild, Path.refusal,
    if_neg (ne_true_of_eq_false clean)]
  split_ifs with long closed
  · rfl
  · rw [follow_cons, plain.advance_step links p location name step, if_pos closed]
    rfl
  · rw [follow_cons, plain.advance_step links p location name step, if_neg closed]
    exact follow.eq_1 t links (location ++ [name])

theorem Plain.step_cases (plain : t.Plain) (p : Path) (links : Nat) (location : Location)
    (located : t.locate p = .ok (links, location)) (name : Text)
    (step : name ∈ t.steps p location) :
    (¬t.CanAsk p location [name] ∧
        t.explore (p.child name) = { stopped := some (askError (p.child name)) }) ∨
      (t.unsearchable.contains location = false ∧
        t.locate (p.child name) = .ok (links, location ++ [name])) := by
  have leads := plain.locate_step p links location located name step
  rw [canAsk_cons, canAsk_nil]
  by_cases long : pathLimit < (p.child name).toText.byteCount
  · rw [if_pos long] at leads
    refine .inl ⟨fun can => absurd long (not_lt.2 can.2), ?_⟩
    unfold explore askError
    rw [leads, if_pos long]
    rfl
  rw [if_neg long] at leads
  cases closed : t.unsearchable.contains location with
  | true =>
    rw [if_pos closed] at leads
    refine .inl ⟨fun can => Bool.noConfusion can.1, ?_⟩
    unfold explore askError
    rw [leads, if_neg long]
    rfl
  | false =>
    rw [if_neg (ne_true_of_eq_false closed)] at leads
    exact .inr ⟨rfl, leads⟩

theorem there_of_mem_steps (p : Path) (location : Location) (name : Text)
    (step : name ∈ t.steps p location) : (t.node? (location ++ [name])).isSome = true :=
  ((mem_steps p location name).1 step).2.2.1

theorem stopped_findsAt_of_located (p : Path) (links : Nat) (location : Location)
    (located : t.locate p = .ok (links, location)) : (t.findsAt p).stopped = none := by
  rw [stopped_findsAt]
  exact t.not_barred_of_located p _ located

theorem explore_steps (p : Path) (links : Nat) (location : Location)
    (located : t.locate p = .ok (links, location)) :
    t.explore p = (t.findsAt p).append
      (.concat ((t.steps p location).map fun name => t.explore (p.child name))) := by
  rw [explore_eq, branches_eq_steps p links location located, List.map_map]
  rfl

theorem stopped_explore_steps (p : Path) (links : Nat) (location : Location)
    (located : t.locate p = .ok (links, location)) :
    (t.explore p).stopped = none ↔
      ∀ name ∈ t.steps p location, (t.explore (p.child name)).stopped = none := by
  rw [explore_steps p links location located, Findings.stopped_append, Findings.stopped_concat,
    and_iff_right (stopped_findsAt_of_located p links location located), List.forall_mem_map]

theorem walk_induction (links : Nat)
    {motive : ∀ p location, t.locate p = .ok (links, location) → Prop}
    (step : ∀ p location (located : t.locate p = .ok (links, location)),
      (∀ name ∈ t.steps p location,
        ∀ next : t.locate (p.child name) = .ok (links, location ++ [name]),
          motive (p.child name) (location ++ [name]) next) → motive p location located)
    (p : Path) (location : Location) (located : t.locate p = .ok (links, location)) :
    motive p location located := by
  induction p using t.search_induction generalizing location with
  | step p ih =>
    rw [branches_eq_steps p links location located, List.forall_mem_map] at ih
    exact step p location located fun name inside => ih name inside (location ++ [name])

/-- A walk comes to its end exactly if it can ask about every entry that it comes to. -/
theorem Plain.stopped_explore_iff (plain : t.Plain) (p : Path) (links : Nat) (location : Location)
    (located : t.locate p = .ok (links, location)) :
    (t.explore p).stopped = none ↔ ∀ way, t.Comes p location way → t.CanAsk p location way := by
  induction p, location, located using walk_induction links with
  | step p location located ih =>
    rw [stopped_explore_steps p links location located]
    constructor
    · intro done way comes
      cases way with
      | nil => exact (canAsk_nil p location).2 (byteCount_of_located p links location located)
      | cons name way =>
        obtain ⟨step, behind⟩ := (plain.comes_cons p location name way).1 comes
        obtain ⟨-, ended⟩ | ⟨searched, next⟩ :=
          plain.step_cases p links location located name step
        · have unended := done name step
          rw [ended] at unended
          cases unended
        · exact (canAsk_cons p location name way).2
            ⟨searched, (ih name step next).1 (done name step) way behind⟩
    · intro every name step
      have beyond : ∀ way, t.Comes (p.child name) (location ++ [name]) way →
          t.CanAsk p location (name :: way) := fun way behind =>
        every (name :: way) ((plain.comes_cons p location name way).2 ⟨step, behind⟩)
      obtain ⟨cannot, -⟩ | ⟨-, next⟩ := plain.step_cases p links location located name step
      · have there := there_of_mem_steps p location name step
        exact absurd (beyond [] ((comes_nil _ _).2 there)) cannot
      · exact (ih name step next).2 fun way behind =>
          ((canAsk_cons p location name way).1 (beyond way behind)).2

theorem Plain.of_stopped_explore (plain : t.Plain) (p : Path) (links : Nat) (location : Location)
    (located : t.locate p = .ok (links, location)) (e : PathError)
    (ended : (t.explore p).stopped = some e) :
    ∃ way, t.Comes p location way ∧ ¬t.CanAsk p location way ∧ e = askError (p.descend way) := by
  induction p, location, located using walk_induction links with
  | step p location located ih =>
    rw [explore_steps p links location located,
      Findings.append_of_done _ _ (stopped_findsAt_of_located p links location located)] at ended
    obtain ⟨part, member, cause⟩ := Findings.of_stopped_concat _ e ended
    obtain ⟨name, step, rfl⟩ := List.mem_map.1 member
    obtain ⟨cannot, stops⟩ | ⟨-, next⟩ := plain.step_cases p links location located name step
    · rw [stops] at cause
      cases cause
      refine ⟨[name], (plain.comes_cons p location name []).2 ⟨step, (comes_nil _ _).2 ?_⟩, cannot,
        ?_⟩
      · exact there_of_mem_steps p location name step
      · rw [Path.descend_cons, Path.descend_nil]
    · obtain ⟨way, behind, cannot, same⟩ := ih name step next cause
      refine ⟨name :: way, (plain.comes_cons p location name way).2 ⟨step, behind⟩, ?_, ?_⟩
      · exact fun can => cannot ((canAsk_cons p location name way).1 can).2
      · rwa [Path.descend_cons]

section Kinds

variable {α : Type} (held : Findings → List α) (nothing : held {} = [])
  (joined : ∀ a b, a.stopped = none → held (a.append b) = held a ++ held b)
  (own : Path → Location → Bool) (found : Path → Location → α)
  (here : ∀ p links location, t.locate p = .ok (links, location) →
    held (t.findsAt p) = if own p location then [found p location] else [])

include nothing joined here in
/-- What a walk that comes to its end finds of one kind: each entry of the kind that it comes to,
once and in order. -/
theorem Plain.explore_lists (plain : t.Plain) (p : Path) (links : Nat) (location : Location)
    (located : t.locate p = .ok (links, location)) (there : (t.node? location).isSome = true)
    (done : (t.explore p).stopped = none) :
    ∃ ways, ListsInOrder ways
        (fun way => t.Comes p location way ∧ own (p.descend way) (location ++ way) = true) ∧
      held (t.explore p) = ways.map fun way => found (p.descend way) (location ++ way) := by
  induction p, location, located using walk_induction links with
  | step p location located ih =>
    rw [stopped_explore_steps p links location located] at done
    -- The ways behind an entry are those of the walk from there.
    have each : ∀ name ∈ t.steps p location, ∃ ways, ListsInOrder ways
          (fun way => t.Comes (p.child name) (location ++ [name]) way ∧
            own ((p.child name).descend way) (location ++ [name] ++ way) = true) ∧
        held (t.explore (p.child name)) =
          ways.map fun way => found ((p.child name).descend way) (location ++ [name] ++ way) := by
      intro name step
      have ends := done name step
      obtain ⟨-, ended⟩ | ⟨-, next⟩ := plain.step_cases p links location located name step
      · rw [ended] at ends
        cases ends
      · exact ih name step next (there_of_mem_steps p location name step) ends
    choose! ways lists parts using each
    refine ⟨waysBehind (own p location) (t.steps p location) ways, ⟨?_, ?_⟩, ?_⟩
    · exact waysBehind_increasing _ _ _ (plain.steps_increasing p location)
        fun name step => (lists name step).increasing
    · intro way
      cases way with
      | nil =>
        rw [nil_mem_waysBehind, comes_nil, Path.descend_nil, List.append_nil, and_iff_right there]
      | cons name way =>
        rw [cons_mem_waysBehind, plain.comes_cons, and_assoc, Path.descend_cons,
          List.append_cons location name way]
        exact and_congr_right fun step => (lists name step).mem_iff way
    · have gathered := Findings.concat_flatMap held nothing joined _ (List.forall_mem_map.2 done)
      rw [explore_steps p links location located,
        joined _ _ (stopped_findsAt_of_located p links location located),
        here p links location located, gathered, map_waysBehind, List.flatMap_map,
        Path.descend_nil, List.append_nil]
      congr 1
      refine List.flatMap_congr fun name step => ?_
      rw [parts name step]
      refine List.map_congr_left fun way _ => ?_
      rw [Path.descend_cons, List.append_cons location name way]

end Kinds

def isFound (t : FileTree) (p : Path) (location : Location) : Bool :=
  match t.node? location with
  | some (.file _) => p.isSource
  | _ => false

def isClosed (t : FileTree) (p : Path) (location : Location) : Bool :=
  t.node? location = some .folder && t.unlistable.contains p.toText

theorem files_findsAt (p : Path) (links : Nat) (location : Location)
    (located : t.locate p = .ok (links, location)) :
    (t.findsAt p).files = if t.isFound p location then [⟨p, location⟩] else [] := by
  unfold findsAt isFound
  rw [located]
  dsimp only
  cases t.node? location with
  | none => rfl
  | some node =>
    cases node with
    | folder => cases t.unlistable.contains p.toText <;> rfl
    | file bytes => cases p.isSource <;> rfl
    | _ => rfl

theorem obstacles_findsAt_eq (p : Path) (links : Nat) (location : Location)
    (located : t.locate p = .ok (links, location)) :
    (t.findsAt p).obstacles = if t.isClosed p location then [.closed p] else [] := by
  unfold findsAt isClosed
  rw [located]
  dsimp only
  cases t.node? location with
  | none => rfl
  | some node =>
    cases node with
    | folder => cases t.unlistable.contains p.toText <;> rfl
    | file bytes => cases p.isSource <;> rfl
    | _ => rfl

theorem isFound_iff (p : Path) (location : Location) :
    t.isFound p location = true ↔
      (∃ bytes, t.node? location = some (.file bytes)) ∧ p.name.HasKnownSuffix := by
  rw [← p.isSource_iff_hasKnownSuffix]
  unfold isFound
  split
  · next bytes file => simp [file]
  · next other =>
    simp only [Bool.false_eq_true, false_iff]
    rintro ⟨⟨bytes, file⟩, -⟩
    exact other bytes file

theorem isClosed_iff (p : Path) (location : Location) :
    t.isClosed p location = true ↔
      t.node? location = some .folder ∧ t.unlistable.contains p.toText = true := by
  rw [isClosed, Bool.and_eq_true, decide_eq_true_iff]

theorem walk_eq_explore (p : Path) (links : Nat) (location : Location)
    (located : t.locate p = .ok (links, location)) (folder : t.node? location = some .folder) :
    t.walk links location p = t.explore p := by
  unfold explore
  rw [located]
  simp only [folder]

/-- A walk through a folder of a tree without links, unless it comes to an entry that it cannot ask
about, finds each file with a known suffix that it comes to, and each folder that it comes to and
cannot list, once and in order, and nothing else. -/
theorem walk_finds_what_it_comes_to (t : FileTree) (plain : t.Plain) (p : Path) (links : Nat)
    (location : Location) (located : t.locate p = .ok (links, location))
    (folder : t.node? location = some .folder) :
    ((t.walk links location p).stopped = none ↔
      ∀ way, t.Comes p location way → t.CanAsk p location way) ∧
    (∀ e, (t.walk links location p).stopped = some e →
      ∃ way, t.Comes p location way ∧ ¬t.CanAsk p location way ∧ e = askError (p.descend way)) ∧
    ((t.walk links location p).stopped = none →
      (∃ ways,
        ListsInOrder ways (fun way => t.Comes p location way ∧
          (∃ bytes, t.node? (location ++ way) = some (.file bytes)) ∧
          (p.descend way).name.HasKnownSuffix) ∧
        (t.walk links location p).files = ways.map fun way => ⟨p.descend way, location ++ way⟩) ∧
      ∃ ways,
        ListsInOrder ways (fun way => t.Comes p location way ∧
          t.node? (location ++ way) = some .folder ∧
          t.unlistable.contains (p.descend way).toText = true) ∧
        (t.walk links location p).obstacles = ways.map fun way => .closed (p.descend way)) := by
  have there : (t.node? location).isSome = true := by
    rw [folder]
    rfl
  rw [walk_eq_explore p links location located folder]
  refine ⟨plain.stopped_explore_iff p links location located,
    plain.of_stopped_explore p links location located, fun done => ⟨?_, ?_⟩⟩
  · obtain ⟨ways, lists, files⟩ := plain.explore_lists Findings.files rfl Findings.files_append
      t.isFound Candidate.mk files_findsAt p links location located there done
    simp only [isFound_iff] at lists
    exact ⟨ways, lists, files⟩
  · obtain ⟨ways, lists, obstacles⟩ := plain.explore_lists Findings.obstacles rfl
      Findings.obstacles_append t.isClosed (fun q _ => .closed q) obstacles_findsAt_eq
      p links location located there done
    simp only [isClosed_iff] at lists
    exact ⟨ways, lists, obstacles⟩

/-- A folder with two files, a folder that is named like one and holds one more, an entry of another
kind, a file that is passed over, and a folder that can be neither listed nor searched. -/
def mixedFolder : FileTree where
  nodes :=
    [(["d".toList], .folder), (["d".toList, "z.PY".toList], .file []),
      (["d".toList, "b.py".toList], .folder),
      (["d".toList, "b.py".toList, "x.md".toList], .file []),
      (["d".toList, "c".toList], .folder), (["d".toList, "c".toList, "i.py".toList], .file []),
      (["d".toList, "y.log".toList], .file []), (["d".toList, "e.py".toList], .special)]
  unlistable := ["d/c".toList]
  unsearchable := [["d".toList, "c".toList]]

theorem explore_mixedFolder :
    mixedFolder.explore (.ofText "d".toList) =
      ⟨[⟨.ofText "d/b.py/x.md".toList, ["d".toList, "b.py".toList, "x.md".toList]⟩,
          ⟨.ofText "d/z.PY".toList, ["d".toList, "z.PY".toList]⟩],
        [.closed (.ofText "d/c".toList)], none⟩ := by
  have located : mixedFolder.locate (.ofText "d".toList) = .ok (0, ["d".toList]) :=
    mixedFolder.locate_of_followIn 1 _ _ rfl rfl
  have steps : mixedFolder.steps (.ofText "d".toList) ["d".toList] =
      ["b.py".toList, "c".toList, "e.py".toList, "z.PY".toList] := by
    rw [FileTree.steps, mixedFolder.entries_eq _
      ["b.py".toList, "c".toList, "e.py".toList, "y.log".toList, "z.PY".toList] (by decide)
      (by decide)]
    rfl
  have folder : mixedFolder.explore (.ofText "d/b.py".toList) =
      .file ⟨.ofText "d/b.py/x.md".toList, ["d".toList, "b.py".toList, "x.md".toList]⟩ := by
    have inner : mixedFolder.locate (.ofText "d/b.py".toList) =
        .ok (0, ["d".toList, "b.py".toList]) :=
      mixedFolder.locate_of_followIn 2 _ _ rfl rfl
    have source := mixedFolder.locate_of_followIn 3 (.ofText "d/b.py/x.md".toList) _ rfl rfl
    have steps : mixedFolder.steps (.ofText "d/b.py".toList) ["d".toList, "b.py".toList] =
        ["x.md".toList] := by
      rw [FileTree.steps, mixedFolder.entries_eq _ ["x.md".toList] (by decide) (by decide)]
      rfl
    rw [explore_steps _ 0 _ inner, steps, findsAt, inner]
    change Findings.append _ (.concat [mixedFolder.explore (.ofText "d/b.py/x.md".toList)]) = _
    rw [explore, source]
    rfl
  have closed : mixedFolder.explore (.ofText "d/c".toList) =
      .obstacle (.closed (.ofText "d/c".toList)) := by
    rw [explore, mixedFolder.locate_of_followIn 2 (.ofText "d/c".toList) _ rfl rfl]
    change mixedFolder.walk 0 _ _ = _
    rw [walk]
    rfl
  have other : mixedFolder.explore (.ofText "d/e.py".toList) = {} := by
    rw [explore, mixedFolder.locate_of_followIn 2 (.ofText "d/e.py".toList) _ rfl rfl]
    rfl
  have file : mixedFolder.explore (.ofText "d/z.PY".toList) =
      .file ⟨.ofText "d/z.PY".toList, ["d".toList, "z.PY".toList]⟩ := by
    rw [explore, mixedFolder.locate_of_followIn 2 (.ofText "d/z.PY".toList) _ rfl rfl]
    rfl
  rw [explore_steps _ 0 _ located, steps]
  change Findings.append _ (.concat [mixedFolder.explore (.ofText "d/b.py".toList),
    mixedFolder.explore (.ofText "d/c".toList), mixedFolder.explore (.ofText "d/e.py".toList),
    mixedFolder.explore (.ofText "d/z.PY".toList)]) = _
  rw [folder, closed, other, file, findsAt, located]
  rfl

theorem walk_finds_what_it_comes_to_mixed :
    mixedFolder.Plain ∧
      mixedFolder.locate (.ofText "d".toList) = .ok (0, ["d".toList]) ∧
      mixedFolder.node? ["d".toList] = some .folder ∧
      (∀ way, mixedFolder.Comes (.ofText "d".toList) ["d".toList] way →
        mixedFolder.CanAsk (.ofText "d".toList) ["d".toList] way) ∧
      (∃ ways,
        ListsInOrder ways (fun way => mixedFolder.Comes (.ofText "d".toList) ["d".toList] way ∧
          (∃ bytes, mixedFolder.node? ("d".toList :: way) = some (.file bytes)) ∧
          (Path.descend (.ofText "d".toList) way).name.HasKnownSuffix) ∧
        [⟨.ofText "d/b.py/x.md".toList, ["d".toList, "b.py".toList, "x.md".toList]⟩,
            ⟨.ofText "d/z.PY".toList, ["d".toList, "z.PY".toList]⟩] =
          ways.map fun way =>
            (⟨.descend (.ofText "d".toList) way, "d".toList :: way⟩ : Candidate)) := by
  have plain : mixedFolder.Plain := by
    refine ⟨by decide, by decide, ?_, by decide⟩
    simp [mixedFolder]
  have located : mixedFolder.locate (.ofText "d".toList) = .ok (0, ["d".toList]) :=
    mixedFolder.locate_of_followIn 1 _ _ rfl rfl
  have folder : mixedFolder.node? ["d".toList] = some .folder := rfl
  have walked := walk_eq_explore _ _ _ located folder
  rw [explore_mixedFolder] at walked
  obtain ⟨asks, -, finds⟩ := walk_finds_what_it_comes_to mixedFolder plain (.ofText "d".toList) 0
    ["d".toList] located folder
  rw [walked] at asks finds
  exact ⟨plain, located, folder, asks.1 rfl, (finds rfl).1⟩

def longName : Text := List.replicate 250 'n'

def furtherName : Text := List.replicate 60 'b' ++ ".txt".toList

def longFolder : FileTree where
  nodes :=
    [([longName], .folder), ([longName, "a.py".toList], .file [120]),
      ([longName, furtherName], .file [121])]

/-- A way to the folder that leaves it fifteen times. -/
def longWay : Path where
  rootSlashes := 0
  parts := (List.replicate 15 [longName, ['.', '.']]).flatten ++ [longName]

theorem locate_longWay : longFolder.locate longWay = .ok (0, [longName]) :=
  longFolder.locate_of_followIn 31 _ _ (by decide +kernel) (by decide +kernel)

theorem steps_longWay :
    longFolder.steps longWay [longName] = ["a.py".toList, furtherName] := by
  rw [steps, longFolder.entries_eq _ ["a.py".toList, furtherName] (by decide +kernel)
    (by decide +kernel)]
  decide +kernel

theorem further_longWay : pathLimit < (longWay.child furtherName).toText.byteCount := by
  decide +kernel

/-- The second file ends the walk, though its name shows that it is no source. -/
theorem walk_ends_at_longWay :
    longFolder.Plain ∧ longFolder.locate longWay = .ok (0, [longName]) ∧
      longFolder.node? [longName] = some .folder ∧
      longFolder.Comes longWay [longName] ["a.py".toList] ∧
      (longFolder.walk 0 [longName] longWay).stopped ≠ none := by
  have plain : longFolder.Plain := by
    refine ⟨by decide +kernel, by decide +kernel, ?_, by decide +kernel⟩
    simp [longFolder]
  have folder : longFolder.node? [longName] = some .folder := by decide +kernel
  have comes : ∀ name ∈ ["a.py".toList, furtherName],
      longFolder.Comes longWay [longName] [name] := by
    intro name step
    rw [← steps_longWay] at step
    exact (plain.comes_cons longWay [longName] name []).2
      ⟨step, (comes_nil _ _).2 (there_of_mem_steps _ _ _ step)⟩
  refine ⟨plain, locate_longWay, folder, comes _ (by simp), fun done => ?_⟩
  rw [walk_eq_explore longWay 0 [longName] locate_longWay folder] at done
  have short := ((plain.stopped_explore_iff longWay 0 [longName] locate_longWay).1 done
    [furtherName] (comes _ (by simp))).short
  rw [Path.descend_cons, Path.descend_nil] at short
  exact absurd further_longWay (not_lt.2 short)

end FileTree

end Listing
