/-
This file holds what a settings reader needs to know about a tree of data: numbers,
truth values, words that choose one of several names, and records. Different
notations of such trees give different views. A tree that is not of the kind asked
for gives nothing.
-/

namespace PanelLink.Data

/-- A kind of tree that settings can be read from. -/
class View (Tree : Type) where
  /-- The natural number that a tree stands for. -/
  natural? : Tree → Option Nat
  /-- The truth value that a tree stands for. -/
  boolean? : Tree → Option Bool
  /-- The word that a tree stands for, where it chooses one of several names. -/
  word? : Tree → Option String
  /-- The fields of a tree that stands for a record with the given field names. -/
  fields? : List String → Tree → Option (List (String × Tree))

variable {Tree Value : Type}

/-- The value of a word in a table. -/
def wordIn? [View Tree] (table : List (String × Value)) (tree : Tree) : Option Value :=
  (View.word? tree).bind fun word => table.lookup word

/-- The word of a value in a table; a value that is not in it has the empty word. -/
def wordFor [BEq Value] (table : List (String × Value)) (value : Value) : String :=
  match table.find? fun entry => entry.2 == value with
  | some entry => entry.1
  | none => ""

/-- The natural number of a tree, if it is below a limit. -/
def below? [View Tree] (limit : Nat) (tree : Tree) : Option Nat :=
  (View.natural? tree).filter (· < limit)

/-- The value of a field that may be missing, but not be there twice. -/
def field? (fields : List (String × Tree)) (name : String) (read? : Tree → Option Value)
    (missing : Option Value) : Option Value :=
  match fields.filter fun entry => entry.1 == name with
  | [] => missing
  | [entry] => read? entry.2
  | _ => none

end PanelLink.Data
