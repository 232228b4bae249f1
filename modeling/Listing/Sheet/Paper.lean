import Listing.Sheet.Step
import Listing.Text.Fold
import Listing.Value.Basic

/-!
Sizes of paper by name: the series A, B and C, cards and envelopes, and the American sizes.
-/

namespace Listing

namespace Paper

def sizes : List (String × Paper) :=
  [("a0", ⟨2384, 3370⟩), ("a1", ⟨1684, 2384⟩), ("a2", ⟨1191, 1684⟩), ("a3", ⟨842, 1191⟩),
    ("a4", ⟨595, 842⟩), ("a5", ⟨420, 595⟩), ("a6", ⟨298, 420⟩), ("a7", ⟨210, 298⟩),
    ("a8", ⟨147, 210⟩), ("a9", ⟨105, 147⟩), ("a10", ⟨74, 105⟩), ("b0", ⟨2835, 4008⟩),
    ("b1", ⟨2004, 2835⟩), ("b2", ⟨1417, 2004⟩), ("b3", ⟨1001, 1417⟩), ("b4", ⟨709, 1001⟩),
    ("b5", ⟨499, 709⟩), ("b6", ⟨354, 499⟩), ("b7", ⟨249, 354⟩), ("b8", ⟨176, 249⟩),
    ("b9", ⟨125, 176⟩), ("b10", ⟨88, 125⟩), ("c0", ⟨2599, 3677⟩), ("c1", ⟨1837, 2599⟩),
    ("c2", ⟨1298, 1837⟩), ("c3", ⟨918, 1298⟩), ("c4", ⟨649, 918⟩), ("c5", ⟨459, 649⟩),
    ("c6", ⟨323, 459⟩), ("c7", ⟨230, 323⟩), ("c8", ⟨162, 230⟩), ("c9", ⟨113, 162⟩),
    ("c10", ⟨79, 113⟩), ("card-4x6", ⟨288, 432⟩), ("card-5x7", ⟨360, 504⟩),
    ("commercial", ⟨297, 684⟩), ("executive", ⟨522, 756⟩), ("invoice", ⟨396, 612⟩),
    ("ledger", ⟨792, 1224⟩), ("legal", ⟨612, 1008⟩), ("legal-13", ⟨612, 936⟩),
    ("letter", ⟨612, 792⟩), ("monarch", ⟨279, 540⟩), ("tabloid-extra", ⟨864, 1296⟩)]

def withoutEnding (ending name : Text) : Text :=
  if ending.isSuffixOf name then name.take (name.length - ending.length) else name

/-- The paper of a name; the ending `-l` turns it on its side and `-p` leaves it as it is. A name
without a size stands for paper without extent. -/
def named (name : Text) : Paper :=
  let folded := name.fold
  let upright := withoutEnding ['-', 'l'] folded
  let size := (sizes.find? fun entry => entry.1.toList == withoutEnding ['-', 'p'] upright).map
    Prod.snd
  let paper := size.getD ⟨0, 0⟩
  if upright = folded then paper else ⟨paper.height, paper.width⟩

def ofValue (value : Value) : Except TypeFault Paper := (value.textFor "lower").map named

/-- The width of a sheet of paper. A sheet without extent is as wide as letter paper. -/
def sheetWidth (paper : Paper) : Nat :=
  if paper.width = 0 ∨ paper.height = 0 then 612 else paper.width

end Paper

end Listing
