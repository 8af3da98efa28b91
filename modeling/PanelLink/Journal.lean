/-
This file holds the entries a monitor writes to its journal: a level and a line.
A reader of the journal chooses the least severe level it wants to see.
-/

namespace PanelLink.Journal

/-- The levels, from the most severe one to the most talkative one. -/
inductive Level where
  | error
  | warn
  | info
  | debug
  | trace
  deriving DecidableEq, Repr

/-- The place of a level; a more severe one comes first. -/
def Level.rank : Level → Nat
  | .error => 0
  | .warn => 1
  | .info => 2
  | .debug => 3
  | .trace => 4

/-- One line of the journal. -/
structure Entry where
  level : Level
  line : String
  deriving DecidableEq, Repr

/-- The entries that are at least as severe as the given level. -/
def upTo (level : Level) (entries : List Entry) : List Entry :=
  entries.filter fun entry => entry.level.rank ≤ level.rank

end PanelLink.Journal
