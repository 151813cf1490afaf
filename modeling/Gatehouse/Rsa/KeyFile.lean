import Gatehouse.Rsa.Der
import Gatehouse.Rsa.Key
import Gatehouse.Text.Pem

/-!
# Key files

Keys in PEM, either bare or wrapped together with the name of their algorithm. A key is taken only
if its numbers fit together.
-/

namespace Gatehouse.Rsa

def maxModulusBits : Nat := 4096

def maxPublicExponent : Nat := 0x1FFFFFFFF

/-- A public exponent is odd, at least three, at most the limit and below the odd modulus. -/
def publicFits (modulus exponent : Nat) : Bool :=
  bitLength modulus ≤ maxModulusBits && exponent < modulus && modulus % 2 == 1 &&
    exponent % 2 == 1 && 2 ≤ exponent && exponent ≤ maxPublicExponent

/-- The two factors make up the modulus, and the exponents undo each other modulo each factor. -/
def privateFits (modulus e d p q : Nat) : Bool :=
  publicFits modulus e && p * q == modulus && e * d % (p - 1) == 1 && e * d % (q - 1) == 1

/-- Of the nine numbers of a private key only modulus and private exponent are kept. -/
def privateOfDer? (der : Octets) : Option Key := do
  let body ← Der.only? Der.sequenceTag der
  let (numbers, rest) ← Der.integers? 9 body
  match numbers with
  | [version, modulus, e, d, p, q, _, _, _] =>
    if version = 0 ∧ rest = [] ∧ privateFits modulus e d p q then
      some { modulus, exponent := d }
    else none
  | _ => none

def publicOfDer? (der : Octets) : Option Key := do
  let body ← Der.only? Der.sequenceTag der
  let (numbers, rest) ← Der.integers? 2 body
  match numbers with
  | [modulus, exponent] =>
    if rest = [] ∧ publicFits modulus exponent then some { modulus, exponent } else none
  | _ => none

/-- The object identifier 1.2.840.113549.1.1.1. -/
def algorithm : Octets := [0x2A, 0x86, 0x48, 0x86, 0xF7, 0x0D, 0x01, 0x01, 0x01]

/-- Passes the name of the algorithm, which has a null as its parameter. -/
def afterAlgorithm? (bs : Octets) : Option Octets := do
  let (names, rest) ← Der.expect? Der.sequenceTag bs
  let (identifier, parameters) ← Der.expect? Der.identifierTag names
  let null ← Der.only? Der.nullTag parameters
  if identifier = algorithm ∧ null = [] then some rest else none

/-- What may follow the key in a wrapped private key: attributes, and a public key exactly if the
version promises one. -/
def extensionsFit (version : Nat) (bs : Octets) : Bool :=
  let rec skip (fuel : Nat) (hasPublic : Bool) (bs : Octets) : Bool :=
    match fuel with
    | 0 => false
    | fuel + 1 =>
      if bs = [] then hasPublic == (version == 1)
      else
        match Der.item? bs with
        | none => false
        | some (item, rest) =>
          if item.tag = 0x81 ∧ ¬ hasPublic then
            (Der.wholeBytes? item.content).isSome && skip fuel true rest
          else (item.tag &&& 0xC0 == 0x80) && skip fuel hasPublic rest
  skip (bs.length + 1) false bs

def privateOfWrapped? (der : Octets) : Option Key := do
  let body ← Der.only? Der.sequenceTag der
  let (version, rest) ← Der.integer? body
  let rest ← afterAlgorithm? rest
  let (key, rest) ← Der.expect? Der.octetStringTag rest
  if version ≤ 1 ∧ extensionsFit version rest then privateOfDer? key else none

def publicOfWrapped? (der : Octets) : Option Key := do
  let body ← Der.only? Der.sequenceTag der
  let rest ← afterAlgorithm? body
  let bits ← Der.only? Der.bitStringTag rest
  publicOfDer? (← Der.wholeBytes? bits)

def Key.privateOfPem (text : String) : Except Error Key :=
  let key? := do
    let block ← Pem.parse text
    match block.label with
    | "RSA PRIVATE KEY" => privateOfDer? block.content
    | "PRIVATE KEY" => privateOfWrapped? block.content
    | _ => none
  match key? with
  | some key => .ok key
  | none => .error .unreadable

def Key.publicOfPem (text : String) : Except Error Key :=
  let key? := do
    let block ← Pem.parse text
    match block.label with
    | "RSA PUBLIC KEY" => publicOfDer? block.content
    | "PUBLIC KEY" => publicOfWrapped? block.content
    | _ => none
  match key? with
  | some key => .ok key
  | none => .error .unreadable

end Gatehouse.Rsa
