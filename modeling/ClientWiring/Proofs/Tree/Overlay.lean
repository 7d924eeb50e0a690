import ClientWiring.Proofs.Tree.Alike

/-!
# Rows of layers

Of layers laid over one another, the last one that settles a path decides what stands there.  So a
layer counts only where the ones above it leave a path open:

    DiffersUnder above t t' →
      Alike (overlay (below ++ t :: above)) (overlay (below ++ t' :: above))      (alike_overlay)

and a path at which a single layer has something keeps it, if no layer above cuts the path
(at?_overlay_of_single); if one does, nothing is left there (at?_overlay_of_cut).
-/

namespace ClientWiring.Tree

/-- Layers laid over one another, the lowest first. -/
def overlay (layers : List Tree) : Tree := layers.foldl merge (table [])

/-- A row of layers around one of them. -/
theorem overlay_around (below : List Tree) (layer : Tree) (above : List Tree) :
    overlay (below ++ layer :: above) = above.foldl merge ((overlay below).merge layer) := by
  rw [overlay, List.foldl_append, List.foldl_cons]
  rfl

/-- By induction on the upper fields: each of them is new when it is met. -/
theorem mergeFields_of_new {lower upper : Fields}
    (hnodup : ((lower ++ upper).map Prod.fst).Nodup) : mergeFields lower upper = lower ++ upper := by
  induction upper generalizing lower with
  | nil => rw [mergeFields, List.append_nil]
  | cons p rest ih =>
    obtain ⟨k, v⟩ := p
    have hnew : Tree.getField? lower k = none := by
      rw [getField?_eq_none_iff]
      intro hk
      rw [List.map_append, List.map_cons] at hnodup
      exact (List.nodup_append.mp hnodup).2.2 k hk k (List.mem_cons_self ..) rfl
    rw [mergeFields, hnew, setField_of_none hnew, ih (by simpa using hnodup), List.append_assoc]
    rfl

/-- The lowest layer is taken as it is. -/
theorem merge_empty_left {t : Tree} (ht : t.WellNamed) : (table []).merge t = t := by
  cases t with
  | table fields =>
    have hnodup : (([] ++ fields).map Prod.fst).Nodup := ht.nodup
    rw [merge, mergeFields_of_new hnodup, List.nil_append]
  | _ => rw [merge]; simp

/-! ## Names -/

theorem wellNamed_foldl_merge {layers : List Tree} (hlayers : ∀ t ∈ layers, t.WellNamed)
    {lower : Tree} (hlower : lower.WellNamed) : (layers.foldl merge lower).WellNamed := by
  induction layers generalizing lower with
  | nil => exact hlower
  | cons upper layers ih =>
    obtain ⟨hupper, hrest⟩ := List.forall_mem_cons.mp hlayers
    exact ih hrest (hlower.merge hupper)

theorem wellNamed_overlay {layers : List Tree} (h : ∀ t ∈ layers, t.WellNamed) :
    (overlay layers).WellNamed := wellNamed_foldl_merge h wellNamed_empty

/-! ## A lower tree under a row of layers -/

section Row

variable {above : List Tree} (hnames : ∀ t ∈ above, t.WellNamed) {path : List String}

include hnames

/-- A path that no layer settles is left to the lower tree. -/
theorem at?_foldl_merge_of_not_settles (hopen : ∀ t ∈ above, ¬ t.Settles path) (lower : Tree) :
    (above.foldl merge lower).at? path = lower.at? path := by
  induction above generalizing lower with
  | nil => rfl
  | cons upper above ih =>
    obtain ⟨hupper, habove⟩ := List.forall_mem_cons.mp hnames
    obtain ⟨hfirst, hrest⟩ := List.forall_mem_cons.mp hopen
    rw [List.foldl_cons, ih habove hrest, at?_merge_of_not_settles hupper hfirst]

/-- What stands at a path depends on the lower tree only if no layer settles the path. -/
theorem face_foldl_merge_congr {lower lower' : Tree}
    (h : (∃ t ∈ above, t.Settles path) ∨
      (lower.at? path).map face = (lower'.at? path).map face) :
    ((above.foldl merge lower).at? path).map face =
      ((above.foldl merge lower').at? path).map face := by
  induction above generalizing lower lower' with
  | nil =>
    rcases h with ⟨t, ht, -⟩ | h
    · cases ht
    · exact h
  | cons upper above ih =>
    obtain ⟨hupper, habove⟩ := List.forall_mem_cons.mp hnames
    refine ih habove ?_
    by_cases hsettled : upper.Settles path
    · right
      rw [face_merge_of_settles hupper hsettled, face_merge_of_settles hupper hsettled]
    · rcases h with ⟨t, ht, hpath⟩ | h
      · rcases List.mem_cons.mp ht with rfl | ht
        · exact absurd hpath hsettled
        · exact .inl ⟨t, ht, hpath⟩
      · right
        rw [at?_merge_of_not_settles hupper hsettled, at?_merge_of_not_settles hupper hsettled, h]

/-- Nothing comes to a path at which no layer has anything. -/
theorem at?_foldl_merge_of_none (hnone : ∀ t ∈ above, t.at? path = none) {lower : Tree}
    (hlower : lower.at? path = none) : (above.foldl merge lower).at? path = none := by
  induction above generalizing lower with
  | nil => exact hlower
  | cons upper above ih =>
    obtain ⟨hupper, habove⟩ := List.forall_mem_cons.mp hnames
    obtain ⟨hfirst, hrest⟩ := List.forall_mem_cons.mp hnone
    rw [List.foldl_cons]
    exact ih habove hrest ((at?_merge_of_lower_none hupper hlower).trans hfirst)

/-- A layer that cuts a path takes away what the lower tree has there. -/
theorem at?_foldl_merge_of_cut (hnone : ∀ t ∈ above, t.at? path = none)
    (hcut : ∃ t ∈ above, t.Cuts path) (lower : Tree) :
    (above.foldl merge lower).at? path = none := by
  induction above generalizing lower with
  | nil =>
    obtain ⟨t, ht, -⟩ := hcut
    cases ht
  | cons upper above ih =>
    obtain ⟨hupper, habove⟩ := List.forall_mem_cons.mp hnames
    obtain ⟨hfirst, hrest⟩ := List.forall_mem_cons.mp hnone
    rw [List.foldl_cons]
    by_cases hlater : ∃ t ∈ above, t.Cuts path
    · exact ih habove hrest hlater _
    · obtain ⟨t, ht, hpath⟩ := hcut
      rcases List.mem_cons.mp ht with rfl | ht
      · refine at?_foldl_merge_of_none habove hrest ?_
        have hface : ((lower.merge t).at? path).map face = none := by
          rw [face_merge_of_settles hupper (.inr hpath), hfirst]
          rfl
        exact Option.map_eq_none_iff.mp hface
      · exact absurd ⟨t, ht, hpath⟩ hlater

end Row

/-! ## One layer among others -/

/-- Two layers say the same of a path: the same stands there, and both or none of them leave the
path open. -/
structure AgreesAt (t t' : Tree) (path : List String) : Prop where
  face : (t.at? path).map face = (t'.at? path).map face
  settles : t.Settles path ↔ t'.Settles path

/-- Two layers differ at most where one of the layers above settles the path. -/
def DiffersUnder (above : List Tree) (t t' : Tree) : Prop :=
  ∀ path, (∃ upper ∈ above, upper.Settles path) ∨ t.AgreesAt t' path

variable {below above : List Tree}

/-- Whether a tree settles a path shows in what stands on the path. -/
theorem settles_of_faces {t t' : Tree} {path : List String}
    (hfaces : ∀ start, start <+: path → (t.at? start).map face = (t'.at? start).map face)
    (h : t.Settles path) : t'.Settles path := by
  rcases h with hsome | ⟨start, value, hstart, hvalue, hnot⟩
  · left
    rw [← Option.isSome_map (f := face), ← hfaces path (List.prefix_refl path),
      Option.isSome_map]
    exact hsome
  · right
    have hface := hfaces start hstart
    rw [hvalue] at hface
    obtain ⟨value', hvalue', hsame⟩ := Option.map_eq_some_iff.mp hface.symm
    refine ⟨start, value', hstart, hvalue', fun htable => hnot ?_⟩
    rw [← face_eq_table_iff] at htable ⊢
    rw [← hsame, htable]

/-- Layers with the same on every path that no layer above cuts. -/
theorem differsUnder_of_faces {t t' : Tree}
    (h : ∀ path, (∃ upper ∈ above, upper.Cuts path) ∨
      (t.at? path).map face = (t'.at? path).map face) : DiffersUnder above t t' := by
  intro path
  by_cases hcut : ∃ upper ∈ above, upper.Cuts path
  · obtain ⟨upper, hupper, hpath⟩ := hcut
    exact .inl ⟨upper, hupper, .inr hpath⟩
  · have hfaces : ∀ start, start <+: path →
        (t.at? start).map face = (t'.at? start).map face := by
      intro start hstart
      refine (h start).resolve_left ?_
      rintro ⟨upper, hupper, hfirst⟩
      exact hcut ⟨upper, hupper, hfirst.of_prefix hstart⟩
    exact .inr ⟨hfaces path (List.prefix_refl path), settles_of_faces hfaces,
      settles_of_faces fun start hstart => (hfaces start hstart).symm⟩

/-- A layer counts only where the layers above it leave paths open. -/
theorem alike_overlay {t t' : Tree} (hnames : ∀ u ∈ below ++ t :: above, u.WellNamed)
    (ht' : t'.WellNamed) (h : DiffersUnder above t t') :
    Alike (overlay (below ++ t :: above)) (overlay (below ++ t' :: above)) := by
  simp only [List.forall_mem_append, List.forall_mem_cons] at hnames
  obtain ⟨hbelow, ht, habove⟩ := hnames
  have hbase : (overlay below).WellNamed := wellNamed_overlay hbelow
  rw [overlay_around, overlay_around]
  refine ⟨wellNamed_foldl_merge habove (hbase.merge ht),
    wellNamed_foldl_merge habove (hbase.merge ht'), fun path => face_foldl_merge_congr habove ?_⟩
  refine (h path).imp id fun hagree => ?_
  by_cases hsettled : t.Settles path
  · rw [face_merge_of_settles ht hsettled,
      face_merge_of_settles ht' (hagree.settles.mp hsettled), hagree.face]
  · rw [at?_merge_of_not_settles ht hsettled,
      at?_merge_of_not_settles ht' fun h' => hsettled (hagree.settles.mpr h')]

section Single

variable {only : Tree} {path : List String} (hnames : ∀ u ∈ below ++ only :: above, u.WellNamed)
  (hothers : ∀ t ∈ below ++ above, t.at? path = none)

include hnames hothers

/-- What only one layer has is taken away by a layer above that cuts the path. -/
theorem at?_overlay_of_cut (hcut : ∃ upper ∈ above, upper.Cuts path) :
    (overlay (below ++ only :: above)).at? path = none := by
  simp only [List.forall_mem_append, List.forall_mem_cons] at hnames
  obtain ⟨-, -, habove⟩ := hnames
  rw [overlay_around]
  exact at?_foldl_merge_of_cut habove (fun t ht => hothers t (List.mem_append_right _ ht)) hcut _

/-- What only one layer has is kept if no layer above cuts the path. -/
theorem at?_overlay_of_single (hpath : path ≠ []) (huncut : ∀ upper ∈ above, ¬ upper.Cuts path) :
    (overlay (below ++ only :: above)).at? path = only.at? path := by
  simp only [List.forall_mem_append, List.forall_mem_cons] at hnames
  obtain ⟨hbelow, honly, habove⟩ := hnames
  have hbase : (overlay below).at? path = none := by
    refine at?_foldl_merge_of_none hbelow
      (fun t ht => hothers t (List.mem_append_left _ ht)) ?_
    cases path with
    | nil => exact absurd rfl hpath
    | cons name path => rfl
  have hopen : ∀ upper ∈ above, ¬ upper.Settles path := by
    rintro upper hupper (hsome | hcut)
    · rw [hothers upper (List.mem_append_right _ hupper)] at hsome
      cases hsome
    · exact huncut upper hupper hcut
  rw [overlay_around, at?_foldl_merge_of_not_settles habove hopen,
    at?_merge_of_lower_none honly hbase]

end Single

end ClientWiring.Tree
