/-!
# Text/Lines — cutting a text into lines

A line ends at a line feed; a carriage return right before that line feed belongs to the ending.
The text after the last line feed is a line of its own unless it is empty, and a carriage return at
its end stays.
-/

namespace ChatFeed.Text

/-- Drop one carriage return at the end. -/
def chopReturn (cs : List Char) : List Char :=
  match cs.reverse with
  | '\r' :: rest => rest.reverse
  | _ => cs

/-- The lines of a text whose current line so far is `line`, kept backwards. -/
def linesFrom (line : List Char) : List Char → List (List Char)
  | [] => if line.isEmpty then [] else [line.reverse]
  | c :: cs => if c = '\n' then chopReturn line.reverse :: linesFrom [] cs
      else linesFrom (c :: line) cs

/-- **The lines of a text**, without their endings. -/
def lines (cs : List Char) : List (List Char) := linesFrom [] cs

end ChatFeed.Text
