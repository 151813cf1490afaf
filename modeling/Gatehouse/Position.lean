/-!
# Positions

A coordinate on the map.
-/

namespace Gatehouse

structure Position where
  x : UInt16
  y : UInt16
  z : UInt8
  deriving DecidableEq, Repr, Inhabited

def Position.text (p : Position) : String :=
  s!"({p.x.toNat}, {p.y.toNat}, {p.z.toNat})"

end Gatehouse
