/-!
Text as a sequence of code points, with the whitespace class that the whole library shares.
A line ends at a line feed and at nothing else, so `splitOn '\n'` and `unlines` are inverse views
of one text; trimming and the blank test use the same class, so they always agree.
-/

namespace Listing

/-- A sequence of code points. -/
abbrev Text := List Char

def isSpace (c : Char) : Bool :=
  let n := c.toNat
  (9 ≤ n && n ≤ 13) || (28 ≤ n && n ≤ 32) || n == 0x85 || n == 0xA0 || n == 0x1680 ||
    (0x2000 ≤ n && n ≤ 0x200A) || n == 0x2028 || n == 0x2029 || n == 0x202F || n == 0x205F ||
    n == 0x3000

namespace Text

def isBlank (t : Text) : Bool := t.all isSpace

def trimStart (t : Text) : Text := t.dropWhile isSpace

def trimEnd (t : Text) : Text := (t.reverse.dropWhile isSpace).reverse

def trim (t : Text) : Text := trimEnd (trimStart t)

/-- The lines of a text; there is always at least one, and none contains a line feed. -/
def lines (t : Text) : List Text := t.splitOn '\n'

def unlines (ls : List Text) : Text := List.intercalate ['\n'] ls

def notAfter : Text → Text → Bool
  | [], _ => true
  | _ :: _, [] => false
  | c :: s, d :: t => c.toNat < d.toNat || (c.toNat == d.toNat && notAfter s t)

def byteCount (t : Text) : Nat := t.foldr (fun c count => c.utf8Size + count) 0

def firstBytes : Nat → Text → Text
  | _, [] => []
  | count, c :: rest => if c.utf8Size ≤ count then c :: firstBytes (count - c.utf8Size) rest else []

def join (separator : Text) (parts : List Text) : Text := List.intercalate separator parts

theorem trimStart_eq_nil_iff (t : Text) : trimStart t = [] ↔ isBlank t = true := by
  induction t with
  | nil => simp [trimStart, isBlank]
  | cons c r ih =>
    cases white : isSpace c with
    | true =>
      rw [trimStart, isBlank, List.dropWhile_cons_of_pos white, List.all_cons, white, Bool.true_and]
      exact ih
    | false => simp [trimStart, isBlank, white]

theorem trimEnd_eq_nil_iff (t : Text) : trimEnd t = [] ↔ isBlank t = true := by
  have reversed := trimStart_eq_nil_iff t.reverse
  rw [isBlank, List.all_reverse] at reversed
  rw [trimEnd, List.reverse_eq_nil_iff]
  exact reversed

theorem notAfter_total (s t : Text) : (notAfter s t || notAfter t s) = true := by
  induction s generalizing t with
  | nil => simp [notAfter]
  | cons c s ih =>
    cases t with
    | nil => simp [notAfter]
    | cons d t =>
      have rest := ih t
      simp only [notAfter, Bool.or_eq_true, decide_eq_true_eq, Bool.and_eq_true, beq_iff_eq]
        at rest ⊢
      rcases Nat.lt_trichotomy c.toNat d.toNat with less | equal | more
      · exact Or.inl (Or.inl less)
      · exact rest.elim (fun s => Or.inl (Or.inr ⟨equal, s⟩))
          fun t => Or.inr (Or.inr ⟨equal.symm, t⟩)
      · exact Or.inr (Or.inl more)

theorem notAfter_trans (s t u : Text) (first : notAfter s t = true)
    (second : notAfter t u = true) : notAfter s u = true := by
  induction s generalizing t u with
  | nil => simp [notAfter]
  | cons c s ih =>
    cases t with
    | nil => simp [notAfter] at first
    | cons d t =>
      cases u with
      | nil => simp [notAfter] at second
      | cons e u =>
        have rest := ih t u
        simp only [notAfter, Bool.or_eq_true, decide_eq_true_eq, Bool.and_eq_true, beq_iff_eq]
          at first second ⊢
        rcases first with first | ⟨first, laterFirst⟩ <;>
          rcases second with second | ⟨second, laterSecond⟩
        · omega
        · omega
        · omega
        · exact Or.inr ⟨by omega, rest laterFirst laterSecond⟩

end Text

end Listing
