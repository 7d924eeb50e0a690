import ClientWiring.Tree.Basic

/-!
# Tables as layers

A tree that is laid over another one changes only the fields that it has: of tables,

    upper.get? name = none → (lower.merge upper).get? name = lower.get? name   (get?_merge_of_none)

and tables stay tables, also when many of them are laid over one another.
-/

namespace ClientWiring.Tree

/-- The tree is a table. -/
def IsTable (t : Tree) : Prop := ∃ fields, t = table fields

theorem isTable_table (fields : Fields) : IsTable (table fields) := ⟨fields, rfl⟩

theorem IsTable.merge {lower upper : Tree} (hlower : lower.IsTable) (hupper : upper.IsTable) :
    (lower.merge upper).IsTable := by
  obtain ⟨below, rfl⟩ := hlower
  obtain ⟨above, rfl⟩ := hupper
  rw [Tree.merge]
  exact isTable_table _

/-- The tree at the end of a path is a table unless the path is empty. -/
theorem isTable_nest {path : List String} (hpath : path ≠ []) (value : Tree) :
    (nest path value).IsTable := by
  cases path with
  | nil => exact absurd rfl hpath
  | cons name rest => exact isTable_table _

theorem get?_nest_of_head? {path : List String} {name : String} (hpath : path ≠ [])
    (hhead : path.head? ≠ some name) (value : Tree) : (nest path value).get? name = none := by
  cases path with
  | nil => exact absurd rfl hpath
  | cons first rest =>
    have hne : name ≠ first := fun h => hhead (congrArg some h.symm)
    simp [nest, get?, getField?, hne]

/-- By induction on the upper fields, for every lower table: each of them is set under a name of its
own, which is another one. -/
theorem getField?_mergeFields_of_none {upper : Fields} {name : String}
    (hnone : getField? upper name = none) (lower : Fields) :
    getField? (mergeFields lower upper) name = getField? lower name := by
  induction upper generalizing lower with
  | nil => rw [mergeFields]
  | cons p rest ih =>
    obtain ⟨k, v⟩ := p
    have hne : name ≠ k := by
      intro h
      simp [getField?, h] at hnone
    have hrest : getField? rest name = none := by
      rw [getField?, if_neg hne] at hnone
      exact hnone
    rw [mergeFields, ih hrest, getField?_setField, if_neg hne]

theorem get?_merge_of_none {lower upper : Tree} {name : String} (hlower : lower.IsTable)
    (hupper : upper.IsTable) (hnone : upper.get? name = none) :
    (lower.merge upper).get? name = lower.get? name := by
  obtain ⟨below, rfl⟩ := hlower
  obtain ⟨above, rfl⟩ := hupper
  rw [Tree.merge]
  exact getField?_mergeFields_of_none hnone below

/-- A row of tables over a table is a table. -/
theorem isTable_foldl_merge {layers : List Tree} (htables : ∀ layer ∈ layers, layer.IsTable)
    {lower : Tree} (hlower : lower.IsTable) : (layers.foldl Tree.merge lower).IsTable := by
  induction layers generalizing lower with
  | nil => exact hlower
  | cons layer rest ih =>
    have hlayer := htables layer (List.mem_cons_self ..)
    have hrest : ∀ t ∈ rest, t.IsTable := fun t ht => htables t (List.mem_cons_of_mem _ ht)
    exact ih hrest (hlower.merge hlayer)

/-- A field that no layer has stays as it is at the bottom. -/
theorem get?_foldl_merge_of_none {layers : List Tree} {name : String}
    (htables : ∀ layer ∈ layers, layer.IsTable) (hnone : ∀ layer ∈ layers, layer.get? name = none)
    {lower : Tree} (hlower : lower.IsTable) :
    (layers.foldl Tree.merge lower).get? name = lower.get? name := by
  induction layers generalizing lower with
  | nil => rfl
  | cons layer rest ih =>
    have hlayer := htables layer (List.mem_cons_self ..)
    have hrest : ∀ t ∈ rest, t.IsTable := fun t ht => htables t (List.mem_cons_of_mem _ ht)
    have hrestNone : ∀ t ∈ rest, t.get? name = none := fun t ht =>
      hnone t (List.mem_cons_of_mem _ ht)
    rw [List.foldl_cons, ih hrest hrestNone (hlower.merge hlayer)]
    exact get?_merge_of_none hlower hlayer (hnone layer (List.mem_cons_self ..))

end ClientWiring.Tree
