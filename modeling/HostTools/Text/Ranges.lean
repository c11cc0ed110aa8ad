set_option autoImplicit false

namespace HostTools

-- Closed ranges in increasing order.
abbrev Ranges := List (Nat × Nat)

def Ranges.holds (ranges : Ranges) (number : Nat) : Bool :=
  ranges.any fun (first, last) => first ≤ number && number ≤ last

end HostTools
