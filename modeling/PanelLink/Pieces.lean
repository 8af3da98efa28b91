/-
This file cuts a list into pieces of one size. Every piece is full except possibly
the last, none is empty, and together they are the list. A size of zero counts as
one.
-/

namespace PanelLink

/-- The pieces of a list, in order. -/
def pieces {α : Type} (size : Nat) (items : List α) : List (List α) :=
  match items with
  | [] => []
  | first :: rest =>
    (first :: rest.take (size - 1)) :: pieces size (rest.drop (size - 1))
  termination_by items.length
  decreasing_by
    simp only [List.length_drop, List.length_cons]
    omega

end PanelLink
