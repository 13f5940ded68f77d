/-!
Sets of characters given by inclusive ranges of code points, as the tables of
the Unicode standard list them.
-/

namespace Tailnet.Text

/-- Inclusive ranges of code points. -/
abbrev Ranges := List (Nat × Nat)

namespace Ranges

def contains (table : Ranges) (c : Char) : Bool :=
  table.any fun range => range.1 ≤ c.toNat && c.toNat ≤ range.2

end Ranges

end Tailnet.Text
