/-!
# Ranges of code points

A property of characters is given by the inclusive ranges of the code points that
have it, in ascending order.
-/

set_option autoImplicit false

namespace BlobRetrieval

def inRanges (ranges : List (Nat × Nat)) (c : Char) : Bool :=
  ranges.any fun r => r.1 ≤ c.toNat && c.toNat ≤ r.2

end BlobRetrieval
