import Listing.Path
import Listing.Proofs.Text.Lines

/-!
Paths and their texts. A path in its normal form is the one that its text writes, so two such paths
with the same text are the same path, and every text writes a path in normal form. Texts are ordered
by their first code points that differ.
-/

namespace Listing

namespace Text

theorem lt_of_notAfter (s t : Text) (ordered : s.notAfter t = true) (other : s ≠ t) : s < t := by
  induction s generalizing t with
  | nil =>
    cases t with
    | nil => exact absurd rfl other
    | cons d t => exact .nil
  | cons c s ih =>
    cases t with
    | nil => cases ordered
    | cons d t =>
      simp only [notAfter, Bool.or_eq_true, decide_eq_true_eq, Bool.and_eq_true, beq_iff_eq]
        at ordered
      rcases ordered with less | ⟨same, later⟩
      · exact .rel less
      · obtain rfl : c = d := Char.toNat_inj.1 same
        exact .cons (ih t later fun same => other (congrArg (List.cons c) same))

theorem notAfter_antisymm (s t : Text) (first : s.notAfter t = true)
    (second : t.notAfter s = true) :
    s = t := by
  by_contra other
  exact absurd (lt_of_notAfter t s second (Ne.symm other))
    (List.lt_asymm (lt_of_notAfter s t first other))

def IsName (t : Text) : Prop := t ≠ [] ∧ '/' ∉ t

end Text

namespace Path

structure Normal (p : Path) : Prop where
  root : p.rootSlashes ≤ 2
  names : ∀ part ∈ p.parts, part.IsName
  noDot : ['.'] ∉ p.parts

theorem Normal.child {p : Path} (normal : p.Normal) (name : Text) (isName : name.IsName)
    (other : name ≠ ['.']) : (p.child name).Normal := by
  refine ⟨normal.root, ?_, ?_⟩
  · intro part member
    obtain old | rfl : part ∈ p.parts ∨ part = name := by simpa [Path.child] using member
    · exact normal.names part old
    · exact isName
  · simpa [Path.child, Ne.symm other] using normal.noDot

theorem mem_join_iff (c : Char) (other : c ≠ '/') (parts : List Text) :
    c ∈ Text.join ['/'] parts ↔ ∃ part ∈ parts, c ∈ part := by
  unfold Text.join
  induction parts with
  | nil => simp
  | cons part rest ih =>
    cases rest with
    | nil => simp
    | cons next rest =>
      rw [List.intercalate_cons_cons, List.mem_append, List.mem_append, ih,
        List.exists_mem_cons_iff]
      simp [other]

theorem mem_toText_iff (c : Char) (noSlash : c ≠ '/') (noDot : c ≠ '.') (p : Path) :
    c ∈ p.toText ↔ ∃ part ∈ p.parts, c ∈ part := by
  unfold toText
  split_ifs with empty
  · simp [empty.2, noDot]
  · rw [List.mem_append, mem_join_iff c noSlash]
    simp [noSlash]

end Path

end Listing
