import Gatehouse.Octets

/-!
# Raw RSA

A block is read as a number, most significant byte first, and raised to the exponent of the key.
There is no padding scheme. The same operation seals with the public exponent and opens with the
private one.
-/

namespace Gatehouse.Rsa

inductive Error where
  | unreadable
  | invalidNumber (text : String)
  | invalidModulus
  | blockLength (expected actual : Nat)
  | outOfRange
  deriving DecidableEq, Repr

def Error.message : Error → String
  | unreadable => "unreadable PEM key"
  | invalidNumber text => "invalid number in key material: " ++ text
  | invalidModulus => "modulus must be greater than one"
  | blockLength expected actual =>
    s!"block of {actual} bytes does not match key size of {expected} bytes"
  | outOfRange => "block value is not smaller than the modulus"

/-- `base ^ exponent % modulus`, by squaring. -/
def powMod (base exponent modulus : Nat) : Nat :=
  if exponent = 0 then 1 % modulus
  else
    let half := powMod (base * base % modulus) (exponent / 2) modulus
    if exponent % 2 = 0 then half else base * half % modulus

def bitLength (n : Nat) : Nat :=
  if n = 0 then 0 else Nat.log2 n + 1

structure Key where
  modulus : Nat
  exponent : Nat
  deriving DecidableEq, Repr

namespace Key

def ofNumbers (modulus exponent : Nat) : Except Error Key :=
  if modulus ≤ 1 then .error .invalidModulus else .ok { modulus, exponent }

def bits (key : Key) : Nat :=
  bitLength key.modulus

def blockLength (key : Key) : Nat :=
  (key.bits + 7) / 8

def apply (key : Key) (block : Octets) : Except Error Octets :=
  if block.length ≠ key.blockLength then
    .error (.blockLength key.blockLength block.length)
  else
    let value := Octets.ofBigEndian block
    if key.modulus ≤ value then .error .outOfRange
    else
      let out := Octets.ofNat (powMod value key.exponent key.modulus)
      .ok (Octets.zeros (key.blockLength - out.length) ++ out)

end Key

end Gatehouse.Rsa
