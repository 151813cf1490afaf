import Gatehouse.Rsa.Key
import Gatehouse.Text.Blank
import Gatehouse.Text.Numeral

/-!
# Keys in decimal

A number may stand between blanks, may have a plus sign in front, and may have underscores behind
its first digit.
-/

namespace Gatehouse.Rsa

def unsigned : List Char → List Char
  | '+' :: '+' :: rest => '+' :: '+' :: rest
  | '+' :: rest => rest
  | cs => cs

def parseDecimal (text : String) : Except Error Nat :=
  let digits := unsigned (Text.trim text.toList)
  match digits with
  | [] | '_' :: _ => .error (.invalidNumber text)
  | _ =>
    if digits.all fun c => Numeral.isDigit 10 c || c == '_' then
      .ok (Numeral.value 10 (digits.filter (· != '_')))
    else .error (.invalidNumber text)

def Key.ofDecimal (modulus exponent : String) : Except Error Key := do
  let modulus ← parseDecimal modulus
  let exponent ← parseDecimal exponent
  Key.ofNumbers modulus exponent

end Gatehouse.Rsa
