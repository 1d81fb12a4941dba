import ChatFeed.Data.Record
import ChatFeed.Json.Reader

/-!
# Json/Typed — reading JSON text straight into a type

A `Typed` reader knows the form that it wants while it reads, so a value of another form is told as
soon as it is met, before anything behind it is looked at.  What is found instead is read to its end
first when it is a single value, since a fault inside it comes earlier.
-/

namespace ChatFeed.Json

open Data

/-- **How JSON text is read as a value of a type**; the number says how deep containers may nest. -/
structure Typed (α : Type) where
  run : Nat → List Char → Scan (α × List Char)

instance : Functor Typed where
  map f p := ⟨fun depth cs => do
    let (a, cs) ← p.run depth cs
    .ok (f a, cs)⟩

/-- The failure when the text goes on with a value of another form. -/
def otherForm (expected : String) (cs : List Char) : Failure :=
  match cs with
  | '[' :: _ => .mismatch (.wrongType (.list []) expected)
  | '\x7b' :: _ => .mismatch (.wrongType (.table []) expected)
  | cs =>
    match scanSingle cs with
    | .ok (v, _) => .mismatch (.wrongType v expected)
    | .error f => f

namespace Typed

/-- A string, by the name under which it is expected. -/
def string (expected : String) : Typed String := ⟨fun _ cs =>
  match skipSpace cs with
  | '"' :: cs => scanString cs
  | cs => .error (otherForm expected cs)⟩

/-- Text. -/
def text : Typed String := string "a string"

/-- Text, or null for none. -/
def optionalText : Typed (Option String) := ⟨fun depth cs =>
  match skipSpace cs with
  | 'n' :: cs => do .ok (none, ← scanWord ['u', 'l', 'l'] cs)
  | cs => (some <$> text).run depth cs⟩

/-- Null. -/
def nothing : Typed Unit := ⟨fun _ cs =>
  match skipSpace cs with
  | 'n' :: cs => do .ok ((), ← scanWord ['u', 'l', 'l'] cs)
  | cs => .error (otherForm "unit" cs)⟩

/-- An integer from `low` to `high`, by the name of that range. -/
def integer (name : String) (low high : Int) : Typed Int := ⟨fun _ cs => do
  let found (r : Value × List Char) : Scan (Int × List Char) :=
    match (Pick.integer name low high).run r.1 with
    | .ok n => .ok (n, r.2)
    | .error e => .error (.mismatch e)
  match skipSpace cs with
  | '-' :: cs => found (← scanNumber true cs)
  | c :: cs =>
    if c.isDigit then found (← scanNumber false (c :: cs))
    else .error (otherForm name (c :: cs))
  | [] => .error .ended⟩

variable {δ ρ : Type}

/-- The name of an entry, as the field it names; a field that the draft has already is told here,
before its value. -/
def entryName (r : Record Typed δ ρ) (d : δ) (cs : List Char) :
    Scan (Option (Field Typed δ) × List Char) := do
  let (name, cs) ← scanString cs
  match r.field? name with
  | none => .ok (none, cs)
  | some f => if f.taken d then .error (.mismatch (.repeated name)) else .ok (some f, cs)

/-- The value of an entry: read into the draft when it has a field, passed over otherwise. -/
def entryValue (depth : Nat) (f : Option (Field Typed δ)) (d : δ) (cs : List Char) :
    Scan (δ × List Char) :=
  match f with
  | none => do .ok (d, ← skipValue cs)
  | some f => do
    let (change, cs) ← f.read.run depth cs
    .ok (change d, cs)

/-- Whether an array goes on with an element, and the text at it. -/
def nextElement (first : Bool) (cs : List Char) : Scan (Bool × List Char) :=
  match skipSpace cs with
  | [] => .error .ended
  | ']' :: cs => .ok (false, ']' :: cs)
  | c :: cs =>
    if first then .ok (true, c :: cs)
    else if c ≠ ',' then .error .malformed
    else match skipSpace cs with
      | ']' :: _ => .error .malformed
      | cs => .ok (true, cs)

/-- The elements of an array, one for each field while there are any. -/
def positions (r : Record Typed δ ρ) (depth : Nat) (d : δ) :
    Nat → List (Field Typed δ) → List Char → Scan (δ × List Char)
  | _, [], cs => .ok (d, cs)
  | n, f :: fs, cs => do
    let (more, cs) ← nextElement (n = 0) cs
    if more then
      let (change, cs) ← f.read.run depth cs
      positions r depth (change d) (n + 1) fs cs
    else if f.optional then positions r depth d (n + 1) fs cs
    else .error (.mismatch (.wrongLength n r.withElements))

/-- The draft as a record. -/
def finished (r : Record Typed δ ρ) (d : δ) (cs : List Char) : Scan (ρ × List Char) :=
  match r.finish d with
  | .ok value => .ok (value, cs)
  | .error e => .error (.mismatch e)

/-- **A record**, given by the names of its fields or by their positions. -/
def record (r : Record Typed δ ρ) : Typed ρ := ⟨fun depth cs =>
  match skipSpace cs, depth with
  | '[' :: _, 0 => .error .malformed
  | '\x7b' :: _, 0 => .error .malformed
  | '[' :: cs, depth + 1 => do
    let (d, cs) ← positions r depth r.blank 0 r.fields cs
    let (value, cs) ← finished r d cs
    match skipSpace cs with
    | [] => .error .ended
    | ']' :: cs => .ok (value, cs)
    | _ :: _ => .error .malformed
  | '\x7b' :: cs, depth + 1 => do
    let (d, cs) ← scanObject (entryName r) (entryValue depth) r.blank cs
    finished r d cs
  | cs, _ => .error (otherForm r.label cs)⟩

/-- One of some named values: its name as a string, or as the only name of an object whose value is
null. -/
def choice {α : Type} (known : List (String × α)) : Typed α := ⟨fun depth cs => do
  let named (r : String × List Char) : Scan (α × List Char) :=
    match known.lookup r.1 with
    | some a => .ok (a, r.2)
    | none => .error (.mismatch (.unknownVariant r.1 (known.map (·.1))))
  match skipSpace cs, depth with
  | [], _ => .error .ended
  | '"' :: cs, _ => named (← scanString cs)
  | '\x7b' :: _, 0 => .error .malformed
  | '\x7b' :: cs, depth + 1 =>
    let (a, cs) ← named (← (string "variant identifier").run depth cs)
    let (_, cs) ← nothing.run depth (← scanColon cs)
    match skipSpace cs with
    | [] => .error .ended
    | '\x7d' :: cs => .ok (a, cs)
    | _ :: _ => .error .malformed
  | _ :: _, _ => .error .malformed⟩

end Typed

end ChatFeed.Json
