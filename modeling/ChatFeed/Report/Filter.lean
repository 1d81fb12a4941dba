import ChatFeed.Number.Numeral
import ChatFeed.Report.Journal
import ChatFeed.Text.Blank

/-!
# Report/Filter — which log lines are shown

A filter is a list of directives with commas between.  A directive is a level, or a part of the
program and perhaps a level for it; the directive for the smallest part decides, and without any
only errors are shown.
-/

namespace ChatFeed

/-- **A directive**: the part of the program that it is for, and how much is shown of it, from
nothing at zero to everything at five. -/
structure Directive where
  part : String
  rank : Nat
  deriving DecidableEq, Repr

namespace Directive

/-- The rank that shows everything. -/
def highest : Nat := 5

/-- The ranks under their names. -/
def ranks : List (String × Nat) :=
  [("off", 0), ("error", 1), ("warn", 2), ("info", 3), ("debug", 4), ("trace", highest)]

/-- The rank of a name, in letters of either size, or of a numeral. -/
def rank? (s : String) : Option Nat :=
  match Numeral.read Numeral.max64 s.toList with
  | .ok n => if n ≤ highest then some n else none
  | .error _ => ranks.lookup s.toLower

/-- A character with which the name of a part can begin. -/
def isStart (c : Char) : Bool := c.isAlphanum || c = '-' || c = ':' || c = '_' || c = '['

/-- **Read a directive.**  Without a level, everything of a part is shown. -/
def read? (s : String) : Option Directive :=
  if !((Text.trim s.toList).head?.any isStart) then none
  else match rank? s, s.splitOn "=" with
    | some r, _ => some ⟨"", r⟩
    | none, [part] => some ⟨part, highest⟩
    | none, [part, ""] => some ⟨part, highest⟩
    | none, [part, level] => (rank? level).map fun r => ⟨part, r⟩
    | none, _ => none

end Directive

/-- The rank that a level needs in order to be shown. -/
def Level.rank : Level → Nat
  | .error => 1
  | .warning => 2
  | .info => 3

/-- **Which lines are shown.** -/
structure LogFilter where
  directives : List Directive
  deriving DecidableEq, Repr

namespace LogFilter

/-- Lines that inform and all that matter more. -/
def standard : LogFilter := ⟨[⟨"", 3⟩]⟩

/-- **Read a filter**; one that cannot be read, or is not given, is the standard one. -/
def ofText (s : Option String) : LogFilter :=
  match s with
  | none => standard
  | some s =>
    match ((s.splitOn ",").filter (· ≠ "")).mapM Directive.read? with
    | none => standard
    | some [] => ⟨[⟨"", 1⟩]⟩
    | some ds => ⟨ds⟩

/-- The directive that decides for a part of the program. -/
def deciding? (f : LogFilter) (part : String) : Option Directive :=
  let fitting := f.directives.filter fun d => d.part.isPrefixOf part
  fitting.foldl (fun best d =>
    match best with
    | none => some d
    | some b => if b.part.length ≤ d.part.length then some d else some b) none

/-- Whether a line of a level is shown for a part of the program. -/
def shows (f : LogFilter) (part : String) (l : Level) : Bool :=
  match f.deciding? part with
  | none => false
  | some d => l.rank ≤ d.rank

end LogFilter

end ChatFeed
