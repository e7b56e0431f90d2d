set_option autoImplicit false

/-! # Ranges of characters

Classes of characters, given by the numbers of the first and the last character of each range.
-/

namespace TokenBridge

abbrev Ranges := List (Nat × Nat)

namespace Ranges

/-- Whether the character lies in one of the ranges. -/
def contains (rs : Ranges) (c : Char) : Bool :=
  rs.any fun (first, last) => first ≤ c.toNat && c.toNat ≤ last

end Ranges
end TokenBridge
