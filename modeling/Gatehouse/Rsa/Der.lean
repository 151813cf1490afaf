import Gatehouse.Octets

/-!
# Distinguished encoding

Tagged values in their canonical binary form: shortest lengths, shortest integers.
-/

namespace Gatehouse.Rsa.Der

structure Item where
  tag : UInt8
  content : Octets
  deriving DecidableEq, Repr

def sequenceTag : UInt8 := 0x30
def integerTag : UInt8 := 0x02
def bitStringTag : UInt8 := 0x03
def octetStringTag : UInt8 := 0x04
def nullTag : UInt8 := 0x05
def identifierTag : UInt8 := 0x06

def maxLength : Nat := 0x0FFFFFFF

/-- A length and what follows it. Long forms are refused where a shorter one would do. -/
def length? : Octets → Option (Nat × Octets)
  | [] => none
  | b :: rest =>
    if b < 0x80 then some (b.toNat, rest)
    else
      let width := b.toNat - 0x80
      if width = 0 ∨ 4 < width then none
      else do
        let (digits, rest) ← Octets.split? width rest
        let n := Octets.ofBigEndian digits
        if n < 0x80 ∨ digits.head? = some 0 ∨ maxLength < n then none else some (n, rest)

/-- The first item and what follows it. Tags of more than one byte are refused. -/
def item? : Octets → Option (Item × Octets)
  | [] => none
  | tag :: rest =>
    if tag &&& 0x1F = 0x1F then none
    else do
      let (n, rest) ← length? rest
      let (content, rest) ← Octets.split? n rest
      return ({ tag, content }, rest)

def expect? (tag : UInt8) (bs : Octets) : Option (Octets × Octets) := do
  let (item, rest) ← item? bs
  if item.tag = tag then some (item.content, rest) else none

/-- The content of an item that is all there is. -/
def only? (tag : UInt8) (bs : Octets) : Option Octets := do
  let (content, rest) ← expect? tag bs
  if rest.isEmpty then some content else none

/-- A number that is not negative and has no superfluous leading byte. -/
def natural? : Octets → Option Nat
  | [] => none
  | [b] => if b < 0x80 then some b.toNat else none
  | b :: c :: rest =>
    if 0x80 ≤ b ∨ (b = 0 ∧ c < 0x80) then none else some (Octets.ofBigEndian (b :: c :: rest))

def integer? (bs : Octets) : Option (Nat × Octets) := do
  let (content, rest) ← expect? integerTag bs
  return (← natural? content, rest)

def integers? : (count : Nat) → Octets → Option (List Nat × Octets)
  | 0, bs => some ([], bs)
  | count + 1, bs => do
    let (n, rest) ← integer? bs
    let (ns, rest) ← integers? count rest
    return (n :: ns, rest)

/-- The bytes of a bit string that has no unused bits. -/
def wholeBytes? : Octets → Option Octets
  | 0 :: bytes => some bytes
  | _ => none

end Gatehouse.Rsa.Der
