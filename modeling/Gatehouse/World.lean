import Gatehouse.Account.Basic

/-!
# The world

Its state of operation, and a map on which characters are placed.
-/

namespace Gatehouse

inductive WorldState where
  | startup
  | running
  | closing
  | closed
  | maintain
  deriving DecidableEq, Repr

instance : Inhabited WorldState := ⟨.startup⟩

/-- A map of walkable tiles, apart from those that are listed. -/
structure World where
  /-- Tiles that only forced placement may use. -/
  blocked : List Position
  /-- Tiles that do not exist. -/
  missing : List Position
  placed : List (CharacterId × Position)
  deriving Repr

namespace World

def empty : World :=
  { blocked := [], missing := [], placed := [] }

instance : Inhabited World := ⟨empty⟩

def block (world : World) (p : Position) : World :=
  { world with blocked := p :: world.blocked }

def removeTile (world : World) (p : Position) : World :=
  { world with missing := p :: world.missing }

def accepts (world : World) (p : Position) (forced : Bool) : Bool :=
  !world.missing.contains p && (forced || !world.blocked.contains p)

def remove (world : World) (id : CharacterId) : World :=
  { world with placed := world.placed.filter (·.1 != id) }

/-- Puts a character on a tile, away from where it stood before. -/
def place? (world : World) (id : CharacterId) (p : Position) (forced : Bool) : Option World :=
  if world.accepts p forced then
    some { world with placed := (id, p) :: (world.remove id).placed }
  else none

def positionOf (world : World) (id : CharacterId) : Option Position :=
  world.placed.lookup id

def population (world : World) : Nat :=
  world.placed.length

end World

end Gatehouse
