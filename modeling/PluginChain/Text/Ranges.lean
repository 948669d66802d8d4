/-!
# Ranges of code points

A property of characters is given as a list of closed ranges of code points, in ascending order.
`covers` asks whether a code point lies in one of them.
-/

namespace PluginChain.Text

/-- Closed ranges of code points, each by its first and last member. -/
abbrev Ranges := List (Nat × Nat)

namespace Ranges

/-- Whether `n` lies in one of the ranges. -/
def covers (ranges : Ranges) (n : Nat) : Bool :=
  ranges.any fun r => r.1 ≤ n && n ≤ r.2

end Ranges

end PluginChain.Text
