/-!
# Sets of characters given by code point intervals

The classes of characters that markup names and quoted texts depend on are
unions of intervals of code points.  This file holds the membership test;
the tables of the classes stand in modules of their own.
-/

namespace ViewAccessors.Text

/-- Whether `character` lies in one of the inclusive code point intervals. -/
def inRanges
    (ranges : List (Nat × Nat))
    (character : Char) : Bool :=
  ranges.any fun (low, high) =>
    low ≤ character.toNat && character.toNat ≤ high

end ViewAccessors.Text
