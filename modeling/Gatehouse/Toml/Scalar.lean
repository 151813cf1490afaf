import Gatehouse.Text.Numeral
import Gatehouse.Toml.Value

/-!
# Numbers, dates and times in TOML

Integers have 64 bits. Of floats, dates and times only their validity matters here.
-/

namespace Gatehouse.Toml.Scalar

/-- Digits, with single underscores between them. -/
def moreDigits (base : Nat) : List Char → List Char × List Char
  | '_' :: d :: rest =>
    if Numeral.isDigit base d then
      let (ds, rest) := moreDigits base rest
      (d :: ds, rest)
    else ([], '_' :: d :: rest)
  | d :: rest =>
    if Numeral.isDigit base d then
      let (ds, rest) := moreDigits base rest
      (d :: ds, rest)
    else ([], d :: rest)
  | [] => ([], [])

def digits? (base : Nat) (cs : List Char) : Option (List Char × List Char) :=
  match cs with
  | d :: rest =>
    if Numeral.isDigit base d then
      let (ds, rest) := moreDigits base rest
      some (d :: ds, rest)
    else none
  | [] => none

def inRange (n : Int) : Bool :=
  -0x8000000000000000 ≤ n && n ≤ 0x7FFFFFFFFFFFFFFF

def integer? (n : Int) : Option Value :=
  if inRange n then some (.integer n) else none

/-- The digits before a point or exponent, without superfluous zeros. -/
def wholePart? : List Char → Option (List Char × List Char)
  | '0' :: rest => some (['0'], rest)
  | cs => digits? 10 cs

/-- Whether digits times a power of ten round to a finite number of 64 bits. -/
def isFinite (digits : List Char) (exponent : Int) : Bool :=
  let m := Numeral.value 10 digits
  let bound := Nat.pow 2 1024 - Nat.pow 2 970
  let size := Int.ofNat (Nat.toDigits 10 m).length + exponent
  if m = 0 ∨ size < 300 then true
  else if 320 < size then false
  else if 0 ≤ exponent then m * Nat.pow 10 exponent.toNat < bound
  else m < bound * Nat.pow 10 (-exponent).toNat

def exponent? (cs : List Char) : Option (Int × List Char) :=
  match cs with
  | '-' :: rest => (digits? 10 rest).map fun (ds, rest) => (-(Numeral.value 10 ds : Int), rest)
  | '+' :: rest => (digits? 10 rest).map fun (ds, rest) => ((Numeral.value 10 ds : Int), rest)
  | _ => (digits? 10 cs).map fun (ds, rest) => ((Numeral.value 10 ds : Int), rest)

def isExponentMark (c : Char) : Bool :=
  c == 'e' || c == 'E'

/-- A float that is too large is refused. One below all finite numbers stands for minus infinity. -/
def float? (negative : Bool) (digits : List Char) (exponent : Int) : Option Value :=
  if negative || isFinite digits exponent then some .float else none

def unsigned? (negative : Bool) (cs : List Char) : Option (Value × List Char) :=
  match cs with
  | 'i' :: 'n' :: 'f' :: rest => some (.float, rest)
  | 'n' :: 'a' :: 'n' :: rest => some (.float, rest)
  | _ => do
    let (whole, rest) ← wholePart? cs
    match rest with
    | '.' :: rest =>
      let (fraction, rest) ← digits? 10 rest
      let shift : Int := -(fraction.length : Int)
      match rest with
      | c :: tail =>
        if isExponentMark c then
          let (e, rest) ← exponent? tail
          return (← float? negative (whole ++ fraction) (e + shift), rest)
        else return (← float? negative (whole ++ fraction) shift, rest)
      | [] => return (← float? negative (whole ++ fraction) shift, rest)
    | c :: tail =>
      if isExponentMark c then
        let (e, rest) ← exponent? tail
        return (← float? negative whole e, rest)
      else
        let n : Int := Numeral.value 10 whole
        return (← integer? (if negative then -n else n), rest)
    | [] =>
      let n : Int := Numeral.value 10 whole
      return (← integer? (if negative then -n else n), rest)

def based? (base : Nat) (cs : List Char) : Option (Value × List Char) := do
  let (ds, rest) ← digits? base cs
  return (← integer? (Numeral.value base ds), rest)

def number? (cs : List Char) : Option (Value × List Char) :=
  match cs with
  | '0' :: 'x' :: rest => based? 16 rest
  | '0' :: 'o' :: rest => based? 8 rest
  | '0' :: 'b' :: rest => based? 2 rest
  | '-' :: rest => unsigned? true rest
  | '+' :: rest => unsigned? false rest
  | _ => unsigned? false cs

/-- A number of exactly `width` digits between `low` and `high`. -/
def fixed? (width low high : Nat) (cs : List Char) : Option (Nat × List Char) :=
  let ds := cs.take width
  let n := Numeral.value 10 ds
  if ds.length = width ∧ ds.all (Numeral.isDigit 10) ∧ low ≤ n ∧ n ≤ high then
    some (n, cs.drop width)
  else none

def expect? (c : Char) : List Char → Option (List Char)
  | [] => none
  | d :: rest => if c = d then some rest else none

def isLeap (year : Nat) : Bool :=
  year % 4 == 0 && (year % 100 != 0 || year % 400 == 0)

def daysIn (year month : Nat) : Nat :=
  if month = 2 then if isLeap year then 29 else 28
  else if month = 4 ∨ month = 6 ∨ month = 9 ∨ month = 11 then 30
  else 31

def date? (cs : List Char) : Option (List Char) := do
  let (year, cs) ← fixed? 4 0 9999 cs
  let (month, cs) ← fixed? 2 1 12 (← expect? '-' cs)
  let (_, cs) ← fixed? 2 1 (daysIn year month) (← expect? '-' cs)
  return cs

/-- A time of day. A minute may have a leap second. -/
def time? (cs : List Char) : Option (List Char) := do
  let (_, cs) ← fixed? 2 0 23 cs
  let (_, cs) ← fixed? 2 0 59 (← expect? ':' cs)
  let (_, cs) ← fixed? 2 0 60 (← expect? ':' cs)
  match cs with
  | '.' :: d :: rest =>
    if Numeral.isDigit 10 d then return rest.dropWhile (Numeral.isDigit 10) else none
  | _ => return cs

def offset? (cs : List Char) : Option (List Char) :=
  match cs with
  | 'Z' :: rest | 'z' :: rest => some rest
  | '+' :: rest | '-' :: rest => do
    let (_, rest) ← fixed? 2 0 23 rest
    let (_, rest) ← fixed? 2 0 59 (← expect? ':' rest)
    return rest
  | _ => some cs

def startsWithDigits (cs : List Char) : Bool :=
  (fixed? 2 0 99 cs).isSome

def dateTime? (cs : List Char) : Option (Value × List Char) := do
  let cs ← date? cs
  match cs with
  | mark :: rest =>
    if (mark = 'T' ∨ mark = 't' ∨ mark = ' ') ∧ startsWithDigits rest then
      return (.dateTime, ← offset? (← time? rest))
    else return (.dateTime, cs)
  | [] => return (.dateTime, [])

/-- Four digits and a dash start a date, two digits and a colon a time. -/
def any? (cs : List Char) : Option (Value × List Char) :=
  if ((fixed? 4 0 9999 cs).bind fun (_, rest) => expect? '-' rest).isSome then dateTime? cs
  else if ((fixed? 2 0 99 cs).bind fun (_, rest) => expect? ':' rest).isSome then
    (time? cs).map (.dateTime, ·)
  else number? cs

end Gatehouse.Toml.Scalar
