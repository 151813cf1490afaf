import Gatehouse.Text.Base64

/-!
# PEM

A labelled byte string between two boundary lines, in strict textual form: lines of 64 characters of
base64, of which only the last may be shorter.
-/

namespace Gatehouse.Pem

structure Block where
  label : String
  content : Octets
  deriving DecidableEq, Repr

def beginMark : List Char := "-----BEGIN ".toList
def endMark : List Char := "-----END ".toList
def dashes : List Char := "-----".toList

def lineWidth : Nat := 64

def stripPrefix? (mark cs : List Char) : Option (List Char) :=
  if mark.isPrefixOf cs then some (cs.drop mark.length) else none

def stripSuffix? (mark cs : List Char) : Option (List Char) :=
  if mark.isSuffixOf cs then some (cs.take (cs.length - mark.length)) else none

/-- What follows the first opening mark at the start of a line. No NUL may stand before it. -/
def afterBegin? (cs : List Char) : Option (List Char) :=
  match stripPrefix? beginMark cs with
  | some rest => some rest
  | none => search cs
where
  search : List Char → Option (List Char)
    | [] => none
    | c :: rest =>
      if c = '\x00' then none
      else if c = '\n' ∧ beginMark.isPrefixOf rest then some (rest.drop beginMark.length)
      else search rest

def isLabelChar (c : Char) : Bool :=
  (0x21 ≤ c.toNat && c.toNat ≤ 0x7E) && c != '-'

/-- A label up to the first dash. Spaces stand singly, between other characters. -/
def splitLabel? (cs : List Char) : Option (List Char × List Char) :=
  go false [] cs
where
  go (afterChar : Bool) (label : List Char) : List Char → Option (List Char × List Char)
    | [] => none
    | c :: rest =>
      if c = '-' then some (label.reverse, c :: rest)
      else if isLabelChar c then go true (c :: label) rest
      else if afterChar && c == ' ' then go false (c :: label) rest
      else none

/-- The text behind a line end, if it starts with one. -/
def stripLineEnd? : List Char → Option (List Char)
  | '\r' :: '\n' :: rest => some rest
  | '\r' :: rest => some rest
  | '\n' :: rest => some rest
  | _ => none

/-- The text before a line end, if it closes with one. -/
def stripFinalLineEnd? (cs : List Char) : Option (List Char) :=
  match cs.reverse with
  | '\n' :: '\r' :: rest => some rest.reverse
  | '\r' :: rest => some rest.reverse
  | '\n' :: rest => some rest.reverse
  | _ => none

/-- Joins lines of full width and a last one that may be shorter. -/
def joinLines? (cs : List Char) : Option (List Char) :=
  if _h : cs.length ≤ lineWidth then
    if cs.all fun c => c != '\r' && c != '\n' then some cs else none
  else
    let line := cs.take lineWidth
    if line.all fun c => c != '\r' && c != '\n' then
      match _e : stripLineEnd? (cs.drop lineWidth) with
      | some rest => if rest.isEmpty then none else (joinLines? rest).map (line ++ ·)
      | none => none
    else none
termination_by cs.length
decreasing_by
  have shorter : rest.length ≤ (cs.drop lineWidth).length := by
    revert _e
    generalize cs.drop lineWidth = tail
    intro e
    simp only [stripLineEnd?] at e
    split at e <;> simp_all <;> omega
  simp only [List.length_drop] at shorter
  simp only [lineWidth] at _h shorter
  omega

def parse (text : String) : Option Block := do
  let cs ← afterBegin? text.toList
  let (label, cs) ← splitLabel? cs
  let cs ← stripPrefix? dashes cs
  let cs ← stripLineEnd? cs
  let cs := (stripFinalLineEnd? cs).getD cs
  let cs ← stripSuffix? dashes cs
  let cs ← stripSuffix? label cs
  let cs ← stripSuffix? endMark cs
  let cs ← stripFinalLineEnd? cs
  let digits ← joinLines? cs
  if digits.isEmpty then none
  else return { label := String.ofList label, content := ← Base64.decode digits }

end Gatehouse.Pem
