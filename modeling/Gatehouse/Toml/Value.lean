/-!
# TOML values

Tables remember how they came to be, since that decides who may still add to them.
-/

namespace Gatehouse.Toml

inductive TableKind where
  /-- Written in braces, and complete. -/
  | inline
  /-- Opened by a header of its own. -/
  | explicit
  /-- Named on the way to another header. -/
  | implicit
  /-- Named on the way to a dotted key. -/
  | dotted
  deriving DecidableEq, Repr

inductive Value where
  | string (s : String)
  | integer (n : Int)
  | float
  | boolean (b : Bool)
  | dateTime
  /-- Arrays that consist of headers take further items. -/
  | array (ofHeaders : Bool) (items : List Value)
  | table (kind : TableKind) (entries : List (String × Value))
  deriving Repr

abbrev Entries := List (String × Value)

namespace Entries

def set (key : String) (v : Value) : Entries → Entries
  | [] => [(key, v)]
  | (k, old) :: rest => if k = key then (k, v) :: rest else (k, old) :: set key v rest

def contains (entries : Entries) (key : String) : Bool :=
  (entries.lookup key).isSome

/-- Sets a key, reached over dotted keys from a table. Tables on the way are made where there are
none, but tables with a header of their own are not extended, and dotted keys end only in tables that
dotted keys have made. -/
def assign (isDotted viaDots : Bool) (entries : Entries) :
    (path : List String) → (key : String) → Value → Option Entries
  | [], key, v =>
    if isDotted != viaDots || entries.contains key then none else some (entries ++ [(key, v)])
  | name :: path, key, v =>
    match entries.lookup name with
    | none => do
      let sub ← assign true viaDots [] path key v
      return entries.set name (.table .dotted sub)
    | some (.table kind sub) =>
      if kind = .dotted ∨ kind = .implicit then do
        let sub ← assign (kind = .dotted) viaDots sub path key v
        return entries.set name (.table kind sub)
      else none
    | some (.array true items) =>
      match items.getLast? with
      | some (.table kind sub) => do
        let sub ← assign false viaDots sub path key v
        return entries.set name (.array true (items.dropLast ++ [.table kind sub]))
      | _ => none
    | some _ => none

/-- Changes the table at the end of a header's path but the last name. An array of tables stands for
its last table. -/
def descend (f : Entries → Option Entries) (entries : Entries) : (path : List String) →
    Option Entries
  | [] => f entries
  | name :: path =>
    match entries.lookup name with
    | none => do
      let sub ← descend f [] path
      return entries.set name (.table .implicit sub)
    | some (.table .inline _) => none
    | some (.table kind sub) => do
      let sub ← descend f sub path
      return entries.set name (.table kind sub)
    | some (.array true items) =>
      match items.getLast? with
      | some (.table kind sub) => do
        let sub ← descend f sub path
        return entries.set name (.array true (items.dropLast ++ [.table kind sub]))
      | _ => none
    | some _ => none

/-- Opens the table `key` by a header and fills it. Only a table without a header of its own may be
there already. -/
def openTable (fill : Entries → Option Entries) (key : String) (entries : Entries) :
    Option Entries :=
  match entries.lookup key with
  | none => do return entries.set key (.table .explicit (← fill []))
  | some (.table .implicit sub) => do return entries.set key (.table .explicit (← fill sub))
  | some _ => none

/-- Adds a table to the array `key` by a header and fills it. -/
def openItem (fill : Entries → Option Entries) (key : String) (entries : Entries) :
    Option Entries :=
  match entries.lookup key with
  | none => do return entries.set key (.array true [.table .explicit (← fill [])])
  | some (.array true items) => do
    return entries.set key (.array true (items ++ [.table .explicit (← fill [])]))
  | some _ => none

end Entries

end Gatehouse.Toml
