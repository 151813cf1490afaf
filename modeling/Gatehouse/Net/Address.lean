import Gatehouse.Text.Numeral

/-!
# Internet addresses

Addresses of both families and their texts. Reading takes every form of an address; writing gives
each address one text, in which the longest run of zero segments is left out.
-/

namespace Gatehouse

inductive IpAddress where
  | v4 (a b c d : UInt8)
  | v6 (segments : Vector UInt16 8)
  deriving DecidableEq, Repr

namespace IpAddress

def localhost : IpAddress := .v4 127 0 0 1

instance : Inhabited IpAddress := ⟨localhost⟩

def isLoopback : IpAddress → Bool
  | v4 a _ _ _ => a == 127
  | v6 segments => segments.toList == [0, 0, 0, 0, 0, 0, 0, 1]

/-- A number below `bound` of at most `width` digits, and what follows it. -/
def number? (base width bound : Nat) (leadingZero : Bool) (cs : List Char) :
    Option (Nat × List Char) :=
  let digits := cs.takeWhile (Numeral.isDigit base)
  let n := Numeral.value base digits
  if digits.isEmpty ∨ width < digits.length ∨ bound ≤ n then none
  else if ¬ leadingZero ∧ digits.length > 1 ∧ digits.head? = some '0' then none
  else some (n, cs.drop digits.length)

def expect? (c : Char) : List Char → Option (List Char)
  | [] => none
  | d :: rest => if c = d then some rest else none

def byte? (cs : List Char) : Option (Nat × List Char) :=
  number? 10 3 256 false cs

/-- Four decimal bytes with dots between them. -/
def v4? (cs : List Char) : Option ((UInt8 × UInt8 × UInt8 × UInt8) × List Char) := do
  let (a, cs) ← byte? cs
  let (b, cs) ← byte? (← expect? '.' cs)
  let (c, cs) ← byte? (← expect? '.' cs)
  let (d, cs) ← byte? (← expect? '.' cs)
  return ((UInt8.ofNat a, UInt8.ofNat b, UInt8.ofNat c, UInt8.ofNat d), cs)

structure Groups where
  segments : List UInt16
  endsInV4 : Bool
  rest : List Char

/-- As many segments as there are, at most `limit`. The last two may have the form of four decimal
bytes. -/
def groups (limit : Nat) (isFirst : Bool) (cs : List Char) : Groups :=
  match limit with
  | 0 => ⟨[], false, cs⟩
  | limit + 1 =>
    match if isFirst then some cs else expect? ':' cs with
    | none => ⟨[], false, cs⟩
    | some body =>
      match if 0 < limit then v4? body else none with
      | some ((a, b, c, d), rest) =>
        ⟨[a.toUInt16 <<< 8 ||| b.toUInt16, c.toUInt16 <<< 8 ||| d.toUInt16], true, rest⟩
      | none =>
        match number? 16 4 65536 true body with
        | none => ⟨[], false, cs⟩
        | some (n, rest) =>
          let tail := groups limit false rest
          { tail with segments := UInt16.ofNat n :: tail.segments }

def ofSegments? (segments : List UInt16) : Option IpAddress :=
  if h : segments.length = 8 then some (v6 ⟨segments.toArray, by simpa using h⟩) else none

/-- Eight segments, or fewer around a double colon that stands for at least one zero. -/
def v6? (cs : List Char) : Option (IpAddress × List Char) := do
  let front := groups 8 true cs
  if front.segments.length = 8 then return (← ofSegments? front.segments, front.rest)
  if front.endsInV4 then none
  let cs ← expect? ':' (← expect? ':' front.rest)
  let back := groups (7 - front.segments.length) true cs
  let gap := 8 - front.segments.length - back.segments.length
  return (← ofSegments? (front.segments ++ List.replicate gap 0 ++ back.segments), back.rest)

def parse? (text : String) : Option IpAddress :=
  match v4? text.toList with
  | some ((a, b, c, d), rest) => if rest.isEmpty then some (v4 a b c d) else none
  | none => do
    let (address, rest) ← v6? text.toList
    if rest.isEmpty then some address else none

def v4Text (a b c d : UInt8) : String :=
  ".".intercalate ([a, b, c, d].map fun x => toString x.toNat)

def segmentsText (segments : List UInt16) : String :=
  ":".intercalate (segments.map fun s => Numeral.hex 1 s.toNat)

def longestZeros (segments : List UInt16) : Nat × Nat :=
  let step (state : Nat × Nat × Nat × Nat) (s : UInt16) :=
    let (i, run, start, best) := state
    if s = 0 then
      let run := run + 1
      if best < run then (i + 1, run, i + 1 - run, run) else (i + 1, run, start, best)
    else (i + 1, 0, start, best)
  let (_, _, start, best) := segments.foldl step (0, 0, 0, 0)
  (start, best)

def v6Text (segments : List UInt16) : String :=
  match segments with
  | [0, 0, 0, 0, 0, 0xFFFF, high, low] =>
    "::ffff:" ++ v4Text (high >>> 8).toUInt8 high.toUInt8 (low >>> 8).toUInt8 low.toUInt8
  | _ =>
    let (start, length) := longestZeros segments
    if 1 < length then
      segmentsText (segments.take start) ++ "::" ++ segmentsText (segments.drop (start + length))
    else segmentsText segments

def text : IpAddress → String
  | v4 a b c d => v4Text a b c d
  | v6 segments => v6Text segments.toList

end IpAddress

structure SocketAddress where
  ip : IpAddress
  /-- The zone of a link-local address, zero if there is none. -/
  scope : Nat
  port : UInt16
  deriving DecidableEq, Repr, Inhabited

namespace SocketAddress

def port? (cs : List Char) : Option UInt16 := do
  let (n, rest) ← IpAddress.number? 10 cs.length 65536 true cs
  if rest.isEmpty then some (UInt16.ofNat n) else none

def scope? (cs : List Char) : Option (Nat × List Char) :=
  match cs with
  | '%' :: rest => IpAddress.number? 10 rest.length UInt32.size true rest
  | _ => some (0, cs)

def parse? (text : String) : Option SocketAddress :=
  match IpAddress.v4? text.toList with
  | some ((a, b, c, d), rest) => do
    return { ip := .v4 a b c d, scope := 0, port := ← port? (← IpAddress.expect? ':' rest) }
  | none => do
    let (ip, rest) ← IpAddress.v6? (← IpAddress.expect? '[' text.toList)
    let (scope, rest) ← scope? rest
    let rest ← IpAddress.expect? ':' (← IpAddress.expect? ']' rest)
    return { ip, scope, port := ← port? rest }

def text (address : SocketAddress) : String :=
  match address.ip with
  | .v4 .. => address.ip.text ++ ":" ++ toString address.port.toNat
  | .v6 _ =>
    let scope := if address.scope = 0 then "" else "%" ++ toString address.scope
    "[" ++ address.ip.text ++ scope ++ "]:" ++ toString address.port.toNat

end SocketAddress

end Gatehouse
