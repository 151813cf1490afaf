import Gatehouse.Toml.Quoted
import Gatehouse.Toml.Scalar

/-!
# TOML documents

The values of a document, its lines, and the table that they build up.
-/

namespace Gatehouse.Toml

/-- How deep arrays and tables in braces may be nested, and how many parts a dotted key may have:
below this number. -/
def nestingLimit : Nat := 80

def skipSpaces (cs : List Char) : List Char :=
  cs.dropWhile Quoted.isBlank

def skipBlank (inComment : Bool) : List Char → List Char
  | [] => []
  | '\r' :: '\n' :: rest => skipBlank false rest
  | c :: rest =>
    if c = '\n' then skipBlank false rest
    else if inComment then if Quoted.isPlain c then skipBlank true rest else c :: rest
    else if Quoted.isBlank c then skipBlank false rest
    else if c = '#' then skipBlank true rest
    else c :: rest

/-- Passes the end of a line, before which a comment may stand. -/
def lineEnd? (cs : List Char) : Option (List Char) :=
  let cs := match skipSpaces cs with
    | '#' :: rest => rest.dropWhile Quoted.isPlain
    | rest => rest
  if cs.isEmpty then some [] else Quoted.newline? cs

def isBareKeyChar (c : Char) : Bool :=
  (c.isAlphanum || c == '_' || c == '-')

def keyPart? (cs : List Char) : Option (String × List Char) :=
  match cs with
  | [] => none
  | c :: _ =>
    if c = Quoted.doubleQuote ∨ c = Quoted.apostrophe then Quoted.single? cs
    else
      let part := cs.takeWhile isBareKeyChar
      if part.isEmpty then none else some (String.ofList part, cs.drop part.length)

/-- The parts of a dotted key, with spaces around each. -/
def key? (fuel : Nat) (cs : List Char) : Option (List String × List Char) :=
  match fuel with
  | 0 => none
  | fuel + 1 => do
    let (part, cs) ← keyPart? (skipSpaces cs)
    match skipSpaces cs with
    | '.' :: rest =>
      let (parts, rest) ← key? fuel rest
      return (part :: parts, rest)
    | rest => return ([part], rest)

def path? (cs : List Char) : Option (List String × List Char) :=
  key? (nestingLimit - 1) cs

mutual

def value? (fuel depth : Nat) (cs : List Char) : Option (Value × List Char) :=
  match fuel with
  | 0 => none
  | fuel + 1 =>
    match cs with
    | [] => none
    | '[' :: rest =>
      if depth + 1 < nestingLimit then do
        let (items, rest) ← items? fuel (depth + 1) (skipBlank false rest)
        return (.array false items, rest)
      else none
    | '\x7b' :: rest =>
      if depth + 1 < nestingLimit then do
        match skipSpaces rest with
        | '\x7d' :: rest => return (.table .inline [], rest)
        | rest =>
          let (entries, rest) ← pairs? fuel (depth + 1) [] rest
          return (.table .inline entries, rest)
      else none
    | 't' :: 'r' :: 'u' :: 'e' :: rest => some (.boolean true, rest)
    | 'f' :: 'a' :: 'l' :: 's' :: 'e' :: rest => some (.boolean false, rest)
    | c :: _ =>
      if c = Quoted.doubleQuote ∨ c = Quoted.apostrophe then
        (Quoted.any? cs).map fun (s, rest) => (.string s, rest)
      else Scalar.any? cs

/-- The items of an array up to its bracket. A comma may follow the last one. -/
def items? (fuel depth : Nat) (cs : List Char) : Option (List Value × List Char) :=
  match fuel with
  | 0 => none
  | fuel + 1 =>
    match cs with
    | ']' :: rest => some ([], rest)
    | _ => do
      let (v, cs) ← value? fuel depth cs
      match skipBlank false cs with
      | ',' :: rest =>
        let (vs, rest) ← items? fuel depth (skipBlank false rest)
        return (v :: vs, rest)
      | ']' :: rest => return ([v], rest)
      | _ => none

/-- The entries of a table in braces, up to the closing one. -/
def pairs? (fuel depth : Nat) (entries : Entries) (cs : List Char) :
    Option (Entries × List Char) :=
  match fuel with
  | 0 => none
  | fuel + 1 => do
    let (path, cs) ← path? cs
    let (v, cs) ← value? fuel depth (skipSpaces (← Scalar.expect? '=' cs))
    let entries ← entries.assign false (1 < path.length) path.dropLast (path.getLastD "") v
    match skipSpaces cs with
    | ',' :: rest => pairs? fuel depth entries rest
    | '\x7d' :: rest => return (entries, rest)
    | _ => none

end

inductive Line where
  | header (path : List String)
  | itemHeader (path : List String)
  | assign (path : List String) (v : Value)

/-- The first line of a text that starts with neither blanks nor a comment. -/
def line? (cs : List Char) : Option (Line × List Char) :=
  match cs with
  | '[' :: '[' :: rest => do
    let (path, rest) ← path? rest
    let rest ← Scalar.expect? ']' (← Scalar.expect? ']' rest)
    return (.itemHeader path, ← lineEnd? rest)
  | '[' :: rest => do
    let (path, rest) ← path? rest
    return (.header path, ← lineEnd? (← Scalar.expect? ']' rest))
  | _ => do
    let (path, rest) ← path? cs
    let rest ← Scalar.expect? '=' rest
    let (v, rest) ← value? (2 * rest.length + 2) 0 (skipSpaces rest)
    return (.assign path v, ← lineEnd? rest)

def lines? (fuel : Nat) (cs : List Char) : Option (List Line) :=
  match fuel with
  | 0 => none
  | fuel + 1 =>
    match skipBlank false cs with
    | [] => some []
    | cs => do
      let (line, rest) ← line? cs
      return line :: (← lines? fuel rest)

structure Section where
  isItem : Bool
  path : List String
  assigns : List (List String × Value)

/-- The assignments before the first header, and the sections. -/
def sections : List Line → List (List String × Value) × List Section
  | [] => ([], [])
  | .assign path v :: rest =>
    let (assigns, below) := sections rest
    ((path, v) :: assigns, below)
  | .header path :: rest =>
    let (assigns, below) := sections rest
    ([], ⟨false, path, assigns⟩ :: below)
  | .itemHeader path :: rest =>
    let (assigns, below) := sections rest
    ([], ⟨true, path, assigns⟩ :: below)

def fill (assigns : List (List String × Value)) (entries : Entries) : Option Entries :=
  assigns.foldlM
    (fun entries (path, v) =>
      entries.assign false (1 < path.length) path.dropLast (path.getLastD "") v) entries

def addSection (entries : Entries) (s : Section) : Option Entries :=
  let key := s.path.getLastD ""
  let enter := if s.isItem then Entries.openItem (fill s.assigns) key
    else Entries.openTable (fill s.assigns) key
  entries.descend enter s.path.dropLast

/-- The table that a document describes. A byte order mark at its start is passed over. -/
def parse (text : String) : Option Entries := do
  let cs := match text.toList with
    | '\ufeff' :: rest => rest
    | cs => cs
  let (assigns, below) := sections (← lines? (cs.length + 1) cs)
  below.foldlM addSection (← fill assigns [])

end Gatehouse.Toml
