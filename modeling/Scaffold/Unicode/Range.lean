/-! Character properties given as ranges of code points.

A table lists the first and last code point of each range in ascending order. The tables follow
Unicode 17. -/

set_option autoImplicit false

namespace Scaffold.Unicode

def inRanges (ranges : List (Nat × Nat)) (c : Char) : Bool :=
  ranges.any fun (first, last) => first ≤ c.toNat && c.toNat ≤ last

end Scaffold.Unicode
