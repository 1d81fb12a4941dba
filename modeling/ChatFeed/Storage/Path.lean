/-!
# Storage/Path — the parts of a path

A path is a text of names with slashes between them.  Empty names and single dots do not count, two
dots take back the name before them, and a path that begins with a slash is counted from the root,
which is the part `/`.  A path that ends in a slash or in a single dot means a directory.

Texts of paths are never normalized where they are shown: `join` and `parent` work on the text.
-/

namespace ChatFeed.Storage

/-- Cut a text at the slashes; `name` is the name so far, backwards. -/
def namesFrom (name : List Char) : List Char → List (List Char)
  | [] => [name.reverse]
  | c :: cs => if c = '/' then name.reverse :: namesFrom [] cs else namesFrom (c :: name) cs

/-- Add a name to the parts so far, which are kept backwards. -/
def stepInto (parts : List String) (name : String) : List String :=
  if name = "" ∨ name = "." then parts
  else if name = ".." then
    match parts with
    | [] => [".."]
    | ["/"] => ["/"]
    | ".." :: rest => ".." :: ".." :: rest
    | _ :: rest => rest
  else name :: parts

/-- **The parts of a path**; none for the empty path and for one with a zero character in it. -/
def parts (path : String) : Option (List String) :=
  let cs := path.toList
  if cs.isEmpty ∨ cs.any (·.toNat = 0) then none
  else
    let start := if cs.head? = some '/' then ["/"] else []
    some ((namesFrom [] cs).foldl (fun ps name => stepInto ps (String.ofList name)) start).reverse

/-- A path with some parts. -/
def pathOf : List String → String
  | "/" :: names => "/" ++ "/".intercalate names
  | names => "/".intercalate names

/-- Whether a path can only mean a directory. -/
def meansDirectory (path : String) : Bool :=
  match path.toList.reverse with
  | '/' :: _ => true
  | ['.'] => true
  | '.' :: '/' :: _ => true
  | _ => false

/-- The longest name that a directory can hold, in bytes. -/
def maxName : Nat := 255

/-- Whether a name is short enough. -/
def nameFits (name : String) : Bool := name.utf8ByteSize ≤ maxName

/-- Whether a path is counted from the root. -/
def isAbsolute (path : String) : Bool := path.toList.head? = some '/'

/-- **A path and a path below it**, with one slash between them. -/
def join (path rest : String) : String :=
  if isAbsolute rest then rest
  else if path = "" ∨ path.toList.getLast? = some '/' then path ++ rest
  else path ++ "/" ++ rest

/-- Drop slashes and single dots at the end of a path, kept backwards, but not its only part. -/
def trimSlashes : List Char → List Char
  | '/' :: c :: cs => trimSlashes (c :: cs)
  | '.' :: '/' :: c :: cs => trimSlashes (c :: cs)
  | ['.', '/'] => ['/']
  | cs => cs

/-- **The directory that a directory's text names**, as it is shown. -/
def shownDirectory (path : String) : String :=
  String.ofList (trimSlashes path.toList.reverse).reverse

end ChatFeed.Storage
