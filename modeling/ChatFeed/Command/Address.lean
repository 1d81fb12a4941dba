import ChatFeed.Number.Numeral

/-!
# Command/Address — addresses of sockets

An address is four numbers with points between and a port, or eight numbers of sixteen bits,
written in base sixteen with colons between, in brackets, and a port.  In the latter, one run of
zeros may be left out, and the last two numbers may be written as four.  A zone may stand behind a
percent sign.
-/

namespace ChatFeed

/-- **An address of a socket.** -/
inductive Address
  | four (host : List Nat) (port : Nat)
  | six (host : List Nat) (zone : Nat) (port : Nat)
  deriving DecidableEq, Repr

namespace Address

/-- Cut a text at each occurrence of a character. -/
def cut (mark : Char) (part : List Char) : List Char → List (List Char)
  | [] => [part.reverse]
  | c :: cs => if c = mark then part.reverse :: cut mark [] cs else cut mark (c :: part) cs

/-- A number up to a bound, in ASCII digits. -/
def number? (bound : Nat) (cs : List Char) : Option Nat :=
  if cs.isEmpty ∨ !cs.all Char.isDigit then none
  else (Numeral.readDigits bound 0 cs).toOption

/-- A number of an address of four: up to three digits, without a zero in front. -/
def octet? (cs : List Char) : Option Nat :=
  if 3 < cs.length ∨ (1 < cs.length ∧ cs.head? = some '0') then none else number? 255 cs

/-- The four numbers of an address. -/
def four? (cs : List Char) : Option (List Nat) :=
  let parts := cut '.' [] cs
  if parts.length = 4 then parts.mapM octet? else none

/-- The value of a digit of base sixteen. -/
def hexValue? (c : Char) : Option Nat :=
  if c.isDigit then some (Numeral.digitValue c)
  else if 'a' ≤ c ∧ c ≤ 'f' then some (c.toNat - 'a'.toNat + 10)
  else if 'A' ≤ c ∧ c ≤ 'F' then some (c.toNat - 'A'.toNat + 10)
  else none

/-- A number of sixteen bits in base sixteen. -/
def group? (cs : List Char) : Option Nat :=
  if cs.isEmpty ∨ 4 < cs.length then none
  else do return (← cs.mapM hexValue?).foldl (fun n d => 16 * n + d) 0

/-- Numbers with colons between; the last may be four numbers for two. -/
def groups? (last : Bool) : List (List Char) → Option (List Nat)
  | [] => some []
  | [part] =>
    match group? part with
    | some n => some [n]
    | none =>
      if last then
        match four? part with
        | some [a, b, c, d] => some [256 * a + b, 256 * c + d]
        | _ => none
      else none
  | part :: parts => do return (← group? part) :: (← groups? last parts)

/-- The numbers of a text with colons, none for the empty text. -/
def run? (last : Bool) (cs : List Char) : Option (List Nat) :=
  if cs.isEmpty then some [] else groups? last (cut ':' [] cs)

/-- The text before and behind the first two colons in a row. -/
def splitGap (before : List Char) : List Char → Option (List Char × List Char)
  | ':' :: ':' :: cs => some (before.reverse, cs)
  | c :: cs => splitGap (c :: before) cs
  | [] => none

/-- The eight numbers of an address. -/
def six? (cs : List Char) : Option (List Nat) := do
  match splitGap [] cs with
  | none =>
    let ns ← run? true cs
    if ns.length = 8 then some ns else none
  | some (front, back) =>
    let a ← run? false front
    let b ← run? true back
    if a.length + b.length ≤ 7 then some (a ++ List.replicate (8 - a.length - b.length) 0 ++ b)
    else none

/-- The text before the last occurrence of a character, and the text behind it. -/
def splitLast (mark : Char) (cs : List Char) : Option (List Char × List Char) :=
  let back := cs.reverse.takeWhile (· ≠ mark)
  match cs.reverse.drop back.length with
  | [] => none
  | _ :: front => some (front.reverse, back.reverse)

/-- **Read an address.** -/
def read (s : String) : Option Address := do
  let (host, port) ← splitLast ':' s.toList
  let port ← number? Numeral.max16 port
  match host with
  | '[' :: inner =>
    match inner.reverse with
    | ']' :: back =>
      let inner := back.reverse
      match splitLast '%' inner with
      | none => some (.six (← six? inner) 0 port)
      | some (host, zone) => some (.six (← six? host) (← number? Numeral.max32 zone) port)
    | _ => none
  | _ => some (.four (← four? host) port)

/-! ## Writing an address -/

/-- Numbers with points between. -/
def dotted (ns : List Nat) : String := ".".intercalate (ns.map toString)

/-- Numbers of sixteen bits with colons between. -/
def colons (ns : List Nat) : String :=
  ":".intercalate (ns.map fun n => String.ofList (Nat.toDigits 16 n))

/-- How many zeros there are in front. -/
def zeros (ns : List Nat) : Nat := (ns.takeWhile (· = 0)).length

/-- The first of the longest runs of zeros: where it begins, and how long it is. -/
def longestRun : Nat → List Nat → Nat × Nat
  | _, [] => (0, 0)
  | i, n :: ns =>
    let here := zeros (n :: ns)
    let (j, there) := longestRun (i + 1) ns
    if there ≤ here then (i, here) else (j, there)

/-- The eight numbers of an address, without the longest run of zeros if there are two or more. -/
def sixText (ns : List Nat) : String :=
  match ns with
  | [0, 0, 0, 0, 0, 65535, a, b] =>
    "::ffff:" ++ dotted [a / 256, a % 256, b / 256, b % 256]
  | _ =>
    let (i, n) := longestRun 0 ns
    if n < 2 then colons ns
    else colons (ns.take i) ++ "::" ++ colons (ns.drop (i + n))

/-- **The text of an address.** -/
def text : Address → String
  | .four host port => dotted host ++ ":" ++ toString port
  | .six host zone port =>
    let zone := if zone = 0 then "" else "%" ++ toString zone
    "[" ++ sixText host ++ zone ++ "]:" ++ toString port

/-- Whether an address is one of the machine at hand: any of its own, or the loop back to it. -/
def isLocal : Address → Bool
  | .four host _ => host = [0, 0, 0, 0] || host.head? = some 127
  | .six host _ _ => (host.take 7).all (· = 0) && host.getLastD 0 ≤ 1

end Address

end ChatFeed
