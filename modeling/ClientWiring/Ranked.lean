/-!
# Lists in ascending rank

`byRank` sorts by a rank and keeps the order of items with the same rank, so it depends only on the
items of each rank in their order.
-/

namespace ClientWiring

/-- The items in ascending rank; items of one rank stay in their order. -/
def byRank {α : Type} (rank : α → Int) (items : List α) : List α :=
  items.mergeSort fun a b => rank a ≤ rank b

theorem byRank_perm {α : Type} (rank : α → Int) (items : List α) :
    (byRank rank items).Perm items := List.mergeSort_perm ..

end ClientWiring
