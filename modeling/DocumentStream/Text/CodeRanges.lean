/-!
Sets of characters given by ranges of code points, the form in which character properties are
tabulated here.
-/

namespace DocumentStream

/-- A set of characters, as closed ranges of code points in ascending order. -/
abbrev CodeRanges := List (Nat × Nat)

/-- Whether a character lies in one of the ranges. The search ends at the first range that begins
beyond the character. -/
def CodeRanges.has : CodeRanges → Char → Bool
  | [], _ => false
  | (first, last) :: rest, c =>
    if c.toNat < first then false else decide (c.toNat ≤ last) || has rest c

end DocumentStream
