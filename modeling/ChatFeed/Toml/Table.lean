import ChatFeed.Data.Value

/-!
# Toml/Table — building the tables of a document

A table comes to be in one of three ways: a header names it, a header names a table inside it, or a
key with several parts runs through it.  What may still be added to it depends on that: a header
may name a table once, and a key may run only through tables that keys have made.

Entries keep their order; a table that a header names later moves to the end.
-/

namespace ChatFeed.Toml

open Data

/-- **How a table came to be.** -/
inductive Origin
  | header
  | implied
  | dotted
  deriving DecidableEq, Repr

/-- **What a key stands for** in a document that is being read. -/
inductive Item
  | value (v : Value)
  | table (origin : Origin) (entries : List (String × Item))
  | tables (elements : List (List (String × Item)))

/-- The entries of a table. -/
abbrev Entries := List (String × Item)

namespace Entries

/-- Put another item under a key that is there. -/
def set (key : String) (item : Item) : Entries → Entries
  | [] => []
  | e :: es => if e.1 = key then (key, item) :: es else e :: set key item es

/-- Add a value under a key that is not there yet. -/
def addNew (key : String) (item : Item) (es : Entries) : Option Entries :=
  if (es.lookup key).isSome then none else some (es ++ [(key, item)])

/-- **Change the table at a path**, making the tables on the way; `key` tells whether the path is
part of a key or of a header. -/
def change (isKey : Bool) (f : Origin → Entries → Option Entries) :
    List String → Origin → Entries → Option Entries
  | [], origin, es => f origin es
  | name :: path, _, es =>
    match es.lookup name with
    | none => do
      let origin := if isKey then Origin.dotted else .implied
      let inner ← change isKey f path origin []
      some (es ++ [(name, .table origin inner)])
    | some (.value _) => none
    | some (.table origin inner) => do
      if isKey ∧ origin = .header then none
      let inner ← change isKey f path origin inner
      some (set name (.table origin inner) es)
    | some (.tables elements) =>
      match elements.reverse with
      | [] => none
      | last :: before => do
        let last ← change isKey f path .header last
        some (set name (.tables (before.reverse ++ [last])) es)

/-- **Give a key a value**; the last part names it, the parts before lead to its table. -/
def assign (key : List String) (v : Value) (origin : Origin) (es : Entries) : Option Entries :=
  match key.getLast? with
  | none => none
  | some name =>
    change true
      (fun o es =>
        if o = .dotted ↔ key.length = 1 then none else addNew name (.value v) es)
      key.dropLast origin es

/-- Name a table by a header. -/
def openTable (name : String) (es : Entries) : Option Entries :=
  match es.lookup name with
  | none => some (es ++ [(name, .table .header [])])
  | some (.table .implied inner) =>
    some (es.filter (·.1 ≠ name) ++ [(name, .table .header inner)])
  | _ => none

/-- Name one more table of several by a header. -/
def openElement (name : String) (es : Entries) : Option Entries :=
  match es.lookup name with
  | none => some (es ++ [(name, .tables [[]])])
  | some (.tables elements) => some (set name (.tables (elements ++ [[]])) es)
  | _ => none

/-- **Follow a header**; `many` tells whether it names one table of several. -/
def follow (many : Bool) (path : List String) (es : Entries) : Option Entries :=
  match path.getLast? with
  | none => none
  | some name =>
    change false (fun _ es => if many then openElement name es else openTable name es)
      path.dropLast .header es

end Entries

mutual

/-- The value that an item is in the end. -/
def Item.toValue : Item → Value
  | .value v => v
  | .table _ es => .table (entriesToValue es)
  | .tables elements => .list (elementsToValue elements)

/-- The values of some entries. -/
def entriesToValue : List (String × Item) → List (String × Value)
  | [] => []
  | (name, item) :: es => (name, item.toValue) :: entriesToValue es

/-- The values of some tables. -/
def elementsToValue : List (List (String × Item)) → List Value
  | [] => []
  | es :: rest => .table (entriesToValue es) :: elementsToValue rest

end

end ChatFeed.Toml
