/-
This file holds plain data trees, as an exchange format between programs has them,
and their view as settings. A word may stand alone or as the only field of a record
that holds nothing. A record may also be a list of its values in the order of the
fields; values may be missing at its end.
-/

import PanelLink.Data.View

namespace PanelLink.Data

/-- A tree of data. -/
inductive Tree where
  | nothing
  | truth (value : Bool)
  | natural (value : Nat)
  /-- A number that is no natural number: negative, or with a fraction. -/
  | otherNumber
  | text (value : String)
  | items (values : List Tree)
  | record (fields : List (String × Tree))
  deriving Inhabited

namespace Tree

/-- The natural number of a tree. -/
def natural? : Tree → Option Nat
  | natural value => some value
  | _ => none

/-- The truth value of a tree. -/
def boolean? : Tree → Option Bool
  | truth value => some value
  | _ => none

/-- The word of a tree. -/
def word? : Tree → Option String
  | text value => some value
  | record [(name, nothing)] => some name
  | _ => none

/-- The fields of a tree that stands for a record with the given field names. -/
def fields? (names : List String) : Tree → Option (List (String × Tree))
  | record fields => some fields
  | items values => if values.length ≤ names.length then some (names.zip values) else none
  | _ => none

instance : View Tree := ⟨natural?, boolean?, word?, fields?⟩

end Tree

end PanelLink.Data
