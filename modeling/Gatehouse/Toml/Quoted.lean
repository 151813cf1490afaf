import Gatehouse.Text.Numeral

/-!
# Quoted TOML strings

One scanner for the four forms: with or without escapes, on one line or on several. It reads a
character at a time and stops before the first one behind the closing quotes.
-/

namespace Gatehouse.Toml

structure QuoteStyle where
  quote : Char
  escapes : Bool
  multiline : Bool
  deriving DecidableEq, Repr

namespace Quoted

inductive Phase where
  | plain
  | escape
  /-- Inside a numeric escape with so many digits to come. -/
  | numeric (left value : Nat)
  /-- Behind a backslash that ends a line. -/
  | folding (sawNewline : Bool)
  /-- Behind a carriage return, which has to be followed by a line feed. -/
  | carriage (folding : Bool)
  /-- Behind so many quotes of a string on several lines. -/
  | quotes (n : Nat)
  | closed
  deriving DecidableEq, Repr

structure Scan where
  phase : Phase
  /-- The text so far, last character first. -/
  text : List Char
  deriving DecidableEq, Repr

def isBlank (c : Char) : Bool :=
  c == ' ' || c == '\t'

def isPlain (c : Char) : Bool :=
  c == '\t' || (0x20 ≤ c.toNat && c.toNat != 0x7F)

def escape? (c : Char) : Option Char :=
  match c with
  | 'b' => some '\x08'
  | 't' => some '\t'
  | 'n' => some '\n'
  | 'f' => some '\x0c'
  | 'r' => some '\r'
  | '\x22' => some '\x22'
  | '\\' => some '\\'
  | _ => none

def scalar? (n : Nat) : Option Char :=
  if n.isValidChar then some (Char.ofNat n) else none

def Scan.push (s : Scan) (c : Char) : Scan :=
  ⟨.plain, c :: s.text⟩

def Scan.plain (style : QuoteStyle) (s : Scan) (c : Char) : Option Scan :=
  if c = style.quote then
    some { s with phase := if style.multiline then .quotes 1 else .closed }
  else if c = '\\' ∧ style.escapes then some { s with phase := .escape }
  else if c = '\n' then if style.multiline then some (s.push c) else none
  else if c = '\r' then
    if style.multiline then some { s with phase := .carriage false } else none
  else if isPlain c then some (s.push c)
  else none

def Scan.folding (s : Scan) (c : Char) : Option Scan :=
  if isBlank c then some { s with phase := .folding false }
  else if c = '\n' then some { s with phase := .folding true }
  else if c = '\r' then some { s with phase := .carriage true }
  else none

def Scan.next (style : QuoteStyle) (s : Scan) (c : Char) : Option Scan :=
  match s.phase with
  | .plain => s.plain style c
  | .escape =>
    if c = 'u' then some { s with phase := .numeric 4 0 }
    else if c = 'U' then some { s with phase := .numeric 8 0 }
    else
      match escape? c with
      | some c => some (s.push c)
      | none => if style.multiline then s.folding c else none
  | .numeric left value =>
    match Numeral.digitValue? c with
    | none => none
    | some d =>
      let value := 16 * value + d
      if left ≤ 1 then (scalar? value).map s.push
      else some { s with phase := .numeric (left - 1) value }
  | .folding sawNewline =>
    if isBlank c then some s
    else
      match s.folding c with
      | some s => some s
      | none => if sawNewline then s.plain style c else none
  | .carriage folding =>
    if c = '\n' then
      some (if folding then { s with phase := .folding true } else s.push '\n')
    else none
  | .quotes n =>
    if c = style.quote then some { s with phase := .quotes (n + 1) }
    else Scan.plain style ⟨.plain, List.replicate n style.quote ++ s.text⟩ c
  | .closed => none

/-- The text, if the string is complete before the given next character. Up to two quotes may stand
directly before the closing ones. -/
def Scan.result? (style : QuoteStyle) (s : Scan) (next : Option Char) : Option String :=
  match s.phase with
  | .closed => some (String.ofList s.text.reverse)
  | .quotes n =>
    if 3 ≤ n ∧ (n = 5 ∨ next ≠ some style.quote) then
      some (String.ofList (List.replicate (n - 3) style.quote ++ s.text).reverse)
    else none
  | _ => none

def Scan.run (style : QuoteStyle) (s : Scan) : List Char → Option (String × List Char)
  | [] => (s.result? style none).map (·, [])
  | c :: rest =>
    match s.result? style (some c) with
    | some text => some (text, c :: rest)
    | none => (s.next style c).bind fun s => s.run style rest

def apostrophe : Char := '\x27'

def doubleQuote : Char := '\x22'

def newline? : List Char → Option (List Char)
  | '\n' :: rest => some rest
  | '\r' :: '\n' :: rest => some rest
  | _ => none

/-- A string on one line; it starts with its quote. -/
def single? (cs : List Char) : Option (String × List Char) :=
  match cs with
  | [] => none
  | c :: rest =>
    if c = doubleQuote ∨ c = apostrophe then
      Scan.run ⟨c, c = doubleQuote, false⟩ ⟨.plain, []⟩ rest
    else none

/-- A string of any form. A line end right behind three opening quotes is left out. -/
def any? (cs : List Char) : Option (String × List Char) :=
  match cs with
  | a :: b :: c :: rest =>
    if a = b ∧ b = c ∧ (c = doubleQuote ∨ c = apostrophe) then
      Scan.run ⟨c, c = doubleQuote, true⟩ ⟨.plain, []⟩ ((newline? rest).getD rest)
    else single? cs
  | _ => single? cs

end Quoted

end Gatehouse.Toml
