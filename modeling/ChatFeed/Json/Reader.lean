import ChatFeed.Json.Number

/-!
# Json/Reader — values of JSON text

* `scanValue` — a whole value, checked in every part; containers may nest only so deep.
* `skipValue` — a value that nobody wants: its grammar is checked, but not the range of its
  numbers, the surrogates of its strings or its depth.

Both run on two loops, over the elements of an array and over the entries of an object, that leave
open what is done with each part.
-/

namespace ChatFeed.Json

open Data

variable {σ κ : Type}

/-- The elements of an array up to its bracket; `room` bounds their number. -/
def scanElements (element : σ → List Char → Scan (σ × List Char)) :
    Nat → σ → List Char → Scan (σ × List Char)
  | 0, _, _ => .error .ended
  | room + 1, s, cs => do
    let (s, cs) ← element s cs
    match skipSpace cs with
    | [] => .error .ended
    | ']' :: cs => .ok (s, cs)
    | ',' :: cs => scanElements element room s cs
    | _ :: _ => .error .malformed

/-- **An array**, from behind its opening bracket. -/
def scanArray (element : σ → List Char → Scan (σ × List Char)) (s : σ) (cs : List Char) :
    Scan (σ × List Char) :=
  match skipSpace cs with
  | ']' :: cs => .ok (s, cs)
  | _ => scanElements element (cs.length + 1) s cs

/-- The text behind the colon that separates a name from its value. -/
def scanColon (cs : List Char) : Scan (List Char) :=
  match skipSpace cs with
  | [] => .error .ended
  | ':' :: cs => .ok cs
  | _ :: _ => .error .malformed

/-- The entries of an object up to its brace; `room` bounds their number. -/
def scanEntries (name : σ → List Char → Scan (κ × List Char))
    (value : κ → σ → List Char → Scan (σ × List Char)) :
    Nat → σ → List Char → Scan (σ × List Char)
  | 0, _, _ => .error .ended
  | room + 1, s, cs =>
    match skipSpace cs with
    | [] => .error .ended
    | '"' :: cs => do
      let (k, cs) ← name s cs
      let (s, cs) ← value k s (← scanColon cs)
      match skipSpace cs with
      | [] => .error .ended
      | '\x7d' :: cs => .ok (s, cs)
      | ',' :: cs => scanEntries name value room s cs
      | _ :: _ => .error .malformed
    | _ :: _ => .error .malformed

/-- **An object**, from behind its opening brace: each name is read, then its value, both in the
light of what was read before. -/
def scanObject (name : σ → List Char → Scan (κ × List Char))
    (value : κ → σ → List Char → Scan (σ × List Char)) (s : σ) (cs : List Char) :
    Scan (σ × List Char) :=
  match skipSpace cs with
  | '\x7d' :: cs => .ok (s, cs)
  | _ => scanEntries name value (cs.length + 1) s cs

/-- How deep containers may nest in a value that is kept, the outermost one counted. -/
def topDepth : Nat := 127

/-- A value that is not a container, the text being at its first character. -/
def scanSingle : List Char → Scan (Value × List Char)
  | [] => .error .ended
  | 'n' :: cs => do .ok (.null, ← scanWord ['u', 'l', 'l'] cs)
  | 't' :: cs => do .ok (.flag true, ← scanWord ['r', 'u', 'e'] cs)
  | 'f' :: cs => do .ok (.flag false, ← scanWord ['a', 'l', 's', 'e'] cs)
  | '-' :: cs => scanNumber true cs
  | '"' :: cs => do
    let (s, cs) ← scanString cs
    .ok (.text s, cs)
  | c :: cs => if c.isDigit then scanNumber false (c :: cs) else .error .malformed

/-- **A value**, in which containers may nest `depth` deep. -/
def scanValue : Nat → List Char → Scan (Value × List Char)
  | 0, cs => scanSingle (skipSpace cs)
  | depth + 1, cs =>
    match skipSpace cs with
    | '[' :: cs => do
      let (items, cs) ← scanArray (σ := List Value)
        (fun items cs => do
          let (v, cs) ← scanValue depth cs
          .ok (v :: items, cs)) [] cs
      .ok (.list items.reverse, cs)
    | '\x7b' :: cs => do
      let (entries, cs) ← scanObject (σ := List (String × Value)) (fun _ => scanString)
        (fun name entries cs => do
          let (v, cs) ← scanValue depth cs
          .ok ((name, v) :: entries, cs)) [] cs
      .ok (.table entries.reverse, cs)
    | cs => scanSingle cs

/-- A value that is not wanted and not a container, the text being at its first character. -/
def skipSingle : List Char → Scan (List Char)
  | [] => .error .ended
  | 'n' :: cs => scanWord ['u', 'l', 'l'] cs
  | 't' :: cs => scanWord ['r', 'u', 'e'] cs
  | 'f' :: cs => scanWord ['a', 'l', 's', 'e'] cs
  | '-' :: cs => skipNumber cs
  | '"' :: cs => skipString cs
  | c :: cs => if c.isDigit then skipNumber (c :: cs) else .error .malformed

/-- Pass over a value in which containers nest less than `room` deep. -/
def skipNested : Nat → List Char → Scan (List Char)
  | 0, _ => .error .ended
  | room + 1, cs =>
    match skipSpace cs with
    | '[' :: cs => do
      let ((), cs) ← scanArray (σ := Unit) (fun _ cs => do .ok ((), ← skipNested room cs)) () cs
      .ok cs
    | '\x7b' :: cs => do
      let ((), cs) ← scanObject (σ := Unit) (κ := Unit) (fun _ cs => do .ok ((), ← skipString cs))
        (fun _ _ cs => do .ok ((), ← skipNested room cs)) () cs
      .ok cs
    | cs => skipSingle cs

/-- **Pass over a value.** -/
def skipValue (cs : List Char) : Scan (List Char) := skipNested (cs.length + 1) cs

/-- Read a text as one value and nothing behind it. -/
def readWhole {α : Type} (scan : List Char → Scan (α × List Char)) (cs : List Char) : Scan α := do
  let (a, cs) ← scan cs
  if (skipSpace cs).isEmpty then .ok a else .error .malformed

end ChatFeed.Json
