import ChatFeed.Data.Value
import ChatFeed.Number.Shortest
import ChatFeed.Text.Quoted

/-!
# Data/Mismatch — how data can fail to have the expected form

A `Mismatch` is the cause; `Mismatch.message` is its one sentence.  What was found is named by its
kind, with its value where the value is a single one; what was expected is named by the form.
-/

namespace ChatFeed.Data

/-- **Why a tree of data is not of the expected form.** -/
inductive Mismatch
  | wrongType (found : Value) (expected : String)
  | wrongValue (found : Value) (expected : String)
  | wrongLength (found : Nat) (expected : String)
  | missing (field : String)
  | repeated (field : String)
  | unknownVariant (name : String) (known : List String)

/-- The kind of a value, with the value itself where it is a single one. -/
def Value.kind (layout : Layout) : Value → String
  | .null => "null"
  | .flag b => "boolean `" ++ (if b then "true" else "false") ++ "`"
  | .integer n => "integer `" ++ toString n ++ "`"
  | .real d => "floating point `" ++ layout.text d ++ "`"
  | .text s => "string " ++ Text.quoted s
  | .list _ => "sequence"
  | .table _ => "map"

/-- Names in backquotes, as the rest of a sentence that offers them. -/
def offered : List String → String
  | [] => "there are no variants"
  | [a] => "expected `" ++ a ++ "`"
  | [a, b] => "expected `" ++ a ++ "` or `" ++ b ++ "`"
  | names => "expected one of " ++ ", ".intercalate (names.map fun n => "`" ++ n ++ "`")

/-- **The sentence that tells a mismatch**; the layout is for the doubles in it. -/
def Mismatch.message (layout : Layout) : Mismatch → String
  | .wrongType found expected =>
    "invalid type: " ++ found.kind layout ++ ", expected " ++ expected
  | .wrongValue found expected =>
    "invalid value: " ++ found.kind layout ++ ", expected " ++ expected
  | .wrongLength n expected => "invalid length " ++ toString n ++ ", expected " ++ expected
  | .missing field => "missing field `" ++ field ++ "`"
  | .repeated field => "duplicate field `" ++ field ++ "`"
  | .unknownVariant name known => "unknown variant `" ++ name ++ "`, " ++ offered known

end ChatFeed.Data
