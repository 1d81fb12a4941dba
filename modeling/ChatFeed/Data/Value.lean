import ChatFeed.Number.Double

/-!
# Data/Value — trees of data

What a text of structured data denotes, whatever its notation: a `Value`.  A table keeps its entries
in the order in which they were written, a repeated name included.
-/

namespace ChatFeed.Data

/-- **A tree of data.** -/
inductive Value
  | null
  | flag (b : Bool)
  | integer (n : Int)
  | real (d : Double)
  | text (s : String)
  | list (items : List Value)
  | table (entries : List (String × Value))

end ChatFeed.Data
