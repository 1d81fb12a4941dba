/-!
# Settings/Environment — what a program is started with

The variables, and where the account at hand has its home.  A table of accounts has a line for each,
with seven fields between colons; the third is the account's number and the sixth its home.
-/

namespace ChatFeed

/-- **The variables of an environment**, of two with one name the first counts, and the home of the
account that the program runs under, if it is known. -/
structure Environment where
  entries : List (String × String) := []
  accountHome : Option String := none
  deriving Repr, Inhabited

namespace Environment

/-- The value of a variable. -/
def get? (e : Environment) (name : String) : Option String := e.entries.lookup name

/-- The value of a variable that is set to something. -/
def given? (e : Environment) (name : String) : Option String :=
  (e.get? name).filter (· ≠ "")

/-- An environment with more variables; those that it has already stay as they are. -/
def extend (e : Environment) (more : List (String × String)) : Environment :=
  { e with entries := e.entries ++ more }

/-- The home of the account of a number in a table of accounts. -/
def homeOf? (accounts number : String) : Option String :=
  ((accounts.splitOn "\n").map (·.splitOn ":")).findSome? fun fields =>
    if fields[2]? = some number then fields[5]? else none

/-- The number of the account that runs a process, in the text that describes the process. -/
def accountNumber? (status : String) : Option String :=
  ((status.splitOn "\n").map (·.splitOn "\t")).findSome? fun words =>
    if words[0]? = some "Uid:" then words[1]? else none

end Environment

end ChatFeed
