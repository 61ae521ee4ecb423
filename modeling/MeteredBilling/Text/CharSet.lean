/-!
# Sets of characters

A set of characters as the increasing list of the places where membership changes: the first one is
its first member, the next one is the first character that is no member any more, and so on.
-/

namespace MeteredBilling.Text

structure CharSet where
  changes : List Nat

namespace CharSet

def contains (s : CharSet) (c : Char) : Bool := s.changes.countP (· ≤ c.toNat) % 2 == 1

end CharSet
end MeteredBilling.Text
