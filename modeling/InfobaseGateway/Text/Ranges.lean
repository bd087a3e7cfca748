/-!
# Ranges of code points

A character class is a list of inclusive ranges of code points, and membership is a search of it.
-/

namespace InfobaseGateway.Text

/-- A set of characters, written as inclusive ranges of code points. -/
abbrev Ranges := List (Nat × Nat)

/-- Whether one of the ranges holds the character. -/
def Ranges.contains (ranges : Ranges) (c : Char) : Bool :=
  ranges.any fun range => range.1 ≤ c.toNat && c.toNat ≤ range.2

end InfobaseGateway.Text
