/-!
# Text/Blank — the characters that count as blank, and trimming

**Blank** is the Unicode property `White_Space`: twenty-five characters, of which only six are
ASCII.  `trim` drops blanks from both ends and touches nothing between them.
-/

namespace ChatFeed.Text

/-- **A blank character**: one with the Unicode property `White_Space`. -/
def isBlank (c : Char) : Bool :=
  let n := c.toNat
  (0x9 ≤ n && n ≤ 0xD) || n == 0x20 || n == 0x85 || n == 0xA0 || n == 0x1680 ||
    (0x2000 ≤ n && n ≤ 0x200A) || n == 0x2028 || n == 0x2029 || n == 0x202F || n == 0x205F ||
    n == 0x3000

/-- Drop the blanks at the front. -/
def trimStart (cs : List Char) : List Char := cs.dropWhile isBlank

/-- Drop the blanks at the back. -/
def trimEnd (cs : List Char) : List Char := (trimStart cs.reverse).reverse

/-- **Drop the blanks at both ends.** -/
def trim (cs : List Char) : List Char := trimEnd (trimStart cs)

/-- A text of blanks only, the empty one included. -/
def allBlank (s : String) : Bool := s.toList.all isBlank

end ChatFeed.Text
