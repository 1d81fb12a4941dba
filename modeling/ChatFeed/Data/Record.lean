import ChatFeed.Data.Mismatch

/-!
# Data/Record — reading records field by field

A `Record` lists the fields of a record type; each `Field` says how its value is read and how it
changes the draft of what has been read so far.  The reading itself is left open (`R`), so that one
list serves a tree of data (`Pick`, here) and running text alike.

* `Pick.record` — a table gives the fields by name, in any order, unknown names ignored; a list
  gives them by position.  A field given twice, or a required one not given, is told.
-/

namespace ChatFeed.Data

/-- **How a tree of data is read** as a value of a type. -/
structure Pick (α : Type) where
  run : Value → Except Mismatch α

instance : Functor Pick where
  map f p := ⟨fun v => (p.run v).map f⟩

/-- **A field of a record** whose draft has type `δ`. -/
structure Field (R : Type → Type) (δ : Type) where
  name : String
  /-- Whether the field may be left out. -/
  optional : Bool
  /-- Whether a draft has a value for the field already. -/
  taken : δ → Bool
  /-- How a value of the field is read, and how it changes the draft. -/
  read : R (δ → δ)

/-- **A record type**: what it is called where something else is found, its fields in order, and how
a draft becomes a record. -/
structure Record (R : Type → Type) (δ ρ : Type) where
  label : String
  blank : δ
  fields : List (Field R δ)
  finish : δ → Except Mismatch ρ

variable {R : Type → Type} {δ ρ : Type}

/-- The field of a name. -/
def Record.field? (r : Record R δ ρ) (name : String) : Option (Field R δ) :=
  r.fields.find? (·.name = name)

/-- A number of elements, in words. -/
def elements (n : Nat) : String :=
  if n = 1 then "1 element" else toString n ++ " elements"

/-- What a list too short for a record should have been. -/
def Record.withElements (r : Record R δ ρ) : String :=
  r.label ++ " with " ++ elements r.fields.length

namespace Pick

/-- Text. -/
def text : Pick String := ⟨fun
  | .text s => .ok s
  | v => .error (.wrongType v "a string")⟩

/-- Text, or null for none. -/
def optionalText : Pick (Option String) := ⟨fun
  | .null => .ok none
  | .text s => .ok (some s)
  | v => .error (.wrongType v "a string")⟩

/-- A truth value. -/
def flag : Pick Bool := ⟨fun
  | .flag b => .ok b
  | v => .error (.wrongType v "a boolean")⟩

/-- An integer from `low` to `high`, by the name of that range. -/
def integer (name : String) (low high : Int) : Pick Int := ⟨fun
  | .integer n =>
    if low ≤ n ∧ n ≤ high then .ok n else .error (.wrongValue (.integer n) name)
  | v => .error (.wrongType v name)⟩

/-- A natural number up to `high`, by the name of that range. -/
def natural (name : String) (high : Nat) : Pick Nat := Int.toNat <$> integer name 0 high

/-- Nothing at all: null, or a table without entries. -/
def nothing : Pick Unit := ⟨fun
  | .null => .ok ()
  | .table [] => .ok ()
  | v => .error (.wrongType v "unit")⟩

/-- One of some named values: its name as text, or the only name of a table that holds nothing. -/
def choice {α : Type} (known : List (String × α)) : Pick α := ⟨fun v => do
  let named (name : String) : Except Mismatch α :=
    match known.lookup name with
    | some a => .ok a
    | none => .error (.unknownVariant name (known.map (·.1)))
  match v with
  | .text name => named name
  | .table [(name, inner)] =>
    let a ← named name
    nothing.run inner
    .ok a
  | .table es => .error (.wrongValue (.table es) "map with a single key")
  | v => .error (.wrongType v "string or map")⟩

/-- Read the entries of a table into a draft. -/
def entries (r : Record Pick δ ρ) (d : δ) : List (String × Value) → Except Mismatch δ
  | [] => .ok d
  | (name, v) :: rest =>
    match r.field? name with
    | none => entries r d rest
    | some f =>
      if f.taken d then .error (.repeated name)
      else do entries r ((← f.read.run v) d) rest

/-- Read the elements of a list into a draft, one for each field while there are any; gives also the
number of elements that no field took. -/
def positions (r : Record Pick δ ρ) (d : δ) :
    Nat → List (Field Pick δ) → List Value → Except Mismatch (δ × Nat)
  | _, [], rest => .ok (d, rest.length)
  | n, f :: fs, [] =>
    if f.optional then positions r d (n + 1) fs [] else .error (.wrongLength n r.withElements)
  | n, f :: fs, v :: rest => do positions r ((← f.read.run v) d) (n + 1) fs rest

/-- **A record**; with `exact`, a list longer than the fields is refused. -/
def record (exact : Bool) (r : Record Pick δ ρ) : Pick ρ := ⟨fun
  | .table es => do r.finish (← entries r r.blank es)
  | .list vs => do
    let (d, extra) ← positions r r.blank 0 r.fields vs
    let value ← r.finish d
    if exact ∧ extra ≠ 0 then
      .error (.wrongLength vs.length (elements (vs.length - extra) ++ " in sequence"))
    else .ok value
  | v => .error (.wrongType v r.label)⟩

end Pick

end ChatFeed.Data
