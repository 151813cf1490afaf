import Gatehouse.Account.Basic

/-!
# The waiting list

Characters queue for a world that is full. A place is kept for the time that its client was told to
wait and a grace period; times are in milliseconds.
-/

namespace Gatehouse

structure WaitingEntry where
  characterId : CharacterId
  expiresAt : Nat
  deriving DecidableEq, Repr

structure WaitingList where
  entries : List WaitingEntry
  deriving DecidableEq, Repr, Inhabited

namespace WaitingList

def empty : WaitingList := ⟨[]⟩

def retryTime (slot : Nat) : Nat :=
  if slot ≤ 4 then 5
  else if slot ≤ 9 then 10
  else if slot ≤ 19 then 20
  else if slot ≤ 49 then 60
  else 120

/-- How much later than told a client may come back, in seconds. -/
def grace : Nat := 15

def timeout (slot : Nat) : Nat :=
  1000 * (retryTime slot + grace)

def expire (list : WaitingList) (now : Nat) : WaitingList :=
  ⟨list.entries.filter (now < ·.expiresAt)⟩

def length (list : WaitingList) : Nat :=
  list.entries.length

def passes (c : Character) : Bool :=
  c.canAlwaysLogin || c.isGamemaster

def place? (list : WaitingList) (id : CharacterId) : Option Nat :=
  (list.entries.findIdx? (·.characterId == id)).map (· + 1)

def renew (list : WaitingList) (slot now : Nat) : WaitingList :=
  ⟨list.entries.modify (slot - 1) fun e => { e with expiresAt := now + timeout slot }⟩

/-- Decides on a login with `online` characters in a world for `cap`, where a cap of zero stands for
none. The answer is zero for admission, else the place on the list. An empty list lets a character
in as long as there is room; one that is listed gets in if the free places reach down to its own. -/
def login (list : WaitingList) (c : Character) (online cap now : Nat) : Nat × WaitingList :=
  if passes c then (0, list)
  else if cap = 0 ∨ (list.entries = [] ∧ online < cap) then (0, list)
  else
    let list := list.expire now
    match list.place? c.id with
    | some slot =>
      if online + slot ≤ cap then (0, ⟨list.entries.eraseIdx (slot - 1)⟩)
      else (slot, list.renew slot now)
    | none =>
      let slot := list.length + 1
      (slot, ⟨list.entries ++ [{ characterId := c.id, expiresAt := now + timeout slot }]⟩)

end WaitingList

end Gatehouse
