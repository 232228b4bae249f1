import Mathlib.Tactic.SplitIfs
import Listing.Source.Language

/-!
The suffixes that make a file a source. Each known suffix is a dot and small letters after it, so
the suffix of a name is known exactly if the name ends in a known one, in letters of either case,
and has something before it.
-/

namespace Listing

/-- A file name that ends in a known suffix, in letters of either case, behind a stem. -/
def Text.HasKnownSuffix (name : Text) : Prop :=
  ∃ stem ending : Text, stem ≠ [] ∧ name = stem ++ ending ∧
    ∃ entry ∈ suffixLanguages, ending.fold = entry.1.toList

theorem foldChar_eq_dot_iff (c : Char) : foldChar c = '.' ↔ c = '.' := by
  unfold foldChar Char.toLower
  constructor
  · intro folded
    split_ifs at folded with kelvin upper
    · cases folded
    · -- The small letters start above the dot.
      have sum : (c.val + 32).toNat = 46 := congrArg (fun d => d.val.toNat) folded
      have low : 65 ≤ c.val.toNat := UInt32.le_iff_toNat_le.1 upper.1
      have high : c.val.toNat ≤ 90 := UInt32.le_iff_toNat_le.1 upper.2
      rw [UInt32.toNat_add] at sum
      change (c.val.toNat + 32) % 2 ^ 32 = 46 at sum
      omega
    · exact folded
  · rintro rfl
    decide

theorem knownSuffix_shape : ∀ entry ∈ suffixLanguages,
    entry.1.toList.head? = some '.' ∧ entry.1.toList.tail ≠ [] ∧ '.' ∉ entry.1.toList.tail := by
  decide

theorem shape_of_fold (ending : Text) (entry : String × String) (known : entry ∈ suffixLanguages)
    (same : ending.fold = entry.1.toList) :
    ∃ letters, ending = '.' :: letters ∧ letters ≠ [] ∧ '.' ∉ letters := by
  obtain ⟨first, filled, dotless⟩ := knownSuffix_shape entry known
  rw [← same] at first filled dotless
  cases ending with
  | nil => cases first
  | cons c letters =>
    obtain rfl : c = '.' := (foldChar_eq_dot_iff c).1 (Option.some.inj first)
    refine ⟨letters, rfl, fun none => filled (by rw [none]; rfl), fun inside => dotless ?_⟩
    exact List.mem_map.2 ⟨'.', inside, (foldChar_eq_dot_iff '.').2 rfl⟩

theorem suffixStart_append (stem letters : Text) (filled : stem ≠ []) (more : letters ≠ [])
    (dotless : '.' ∉ letters) : suffixStart (stem ++ '.' :: letters) = some stem.length := by
  have none_behind : letters.reverse.idxOf? '.' = none := by simpa using dotless
  have last : (stem ++ '.' :: letters).reverse.idxOf? '.' = some letters.length := by
    rw [List.reverse_append, List.reverse_cons, List.append_assoc]
    unfold List.idxOf? at none_behind ⊢
    rw [List.findIdx?_append, none_behind]
    simp [List.findIdx?_cons]
  have first := List.length_pos_iff.2 filled
  have later := List.length_pos_iff.2 more
  have place : (stem ++ '.' :: letters).length - 1 - letters.length = stem.length := by
    rw [List.length_append, List.length_cons]
    omega
  unfold suffixStart
  rw [last]
  simp only [place]
  simp [first]
  omega

theorem suffixStart_pos (name : Text) (place : Nat) (start : suffixStart name = some place) :
    0 < place ∧ place < name.length - 1 := by
  unfold suffixStart at start
  split at start
  · cases start
  · dsimp only at start
    split_ifs at start with inside
    cases start
    simpa using inside

namespace Path

theorem stem_ne_nil (p : Path) (suffixed : p.suffix ≠ []) : p.stem ≠ [] := by
  unfold suffix at suffixed
  unfold stem
  cases start : suffixStart p.name with
  | none =>
    rw [start] at suffixed
    exact absurd rfl suffixed
  | some place =>
    have inside := suffixStart_pos p.name place start
    apply List.ne_nil_of_length_pos
    change 0 < (p.name.take place).length
    rw [List.length_take]
    omega

theorem isSource_eq_true_iff (p : Path) :
    p.isSource = true ↔ ∃ entry ∈ suffixLanguages, p.suffix.fold = entry.1.toList := by
  unfold isSource languageOfSuffix
  rw [Option.isSome_map, List.find?_isSome]
  constructor
  · rintro ⟨entry, known, same⟩
    exact ⟨entry, known, (beq_iff_eq.1 same).symm⟩
  · rintro ⟨entry, known, same⟩
    exact ⟨entry, known, beq_iff_eq.2 same.symm⟩

theorem isSource_iff_hasKnownSuffix (p : Path) : p.isSource = true ↔ p.name.HasKnownSuffix := by
  rw [isSource_eq_true_iff]
  constructor
  · rintro ⟨entry, known, same⟩
    obtain ⟨letters, shape, -⟩ := shape_of_fold p.suffix entry known same
    have suffixed : p.suffix ≠ [] := by simp [shape]
    exact ⟨p.stem, p.suffix, p.stem_ne_nil suffixed, p.stem_append_suffix.symm, entry, known, same⟩
  · rintro ⟨stem, ending, filled, name, entry, known, same⟩
    refine ⟨entry, known, ?_⟩
    obtain ⟨letters, rfl, more, dotless⟩ := shape_of_fold ending entry known same
    rw [suffix, name, suffixStart_append stem letters filled more dotless, ← same]
    simp

end Path

end Listing
