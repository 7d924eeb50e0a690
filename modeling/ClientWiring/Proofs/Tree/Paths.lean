import ClientWiring.Proofs.Tree.Layers

/-!
# Trees by their paths

A tree is described by what stands at the end of each path of names.  In a tree whose tables have
each name once (`WellNamed`), merging is right-biased name by name,

    (lower.merge upper).get? name = Option.merge merge (lower.get? name) (upper.get? name)

and a whole merged tree is the recursive union of the two, where the upper one wins wherever not both
have a table (overlaid_merge).  Path by path this says that the upper tree settles what stands at a
path if it has a value there, or on the way there one that is no table; all other paths are left to
the lower tree (face_merge_of_settles, at?_merge_of_not_settles).
-/

namespace ClientWiring.Tree

/-- The value at the end of a path of names. -/
def at? : Tree → List String → Option Tree
  | t, [] => some t
  | t, name :: path => (t.get? name).bind fun sub => sub.at? path

@[simp] theorem at?_nil (t : Tree) : t.at? [] = some t := rfl

theorem at?_cons (t : Tree) (name : String) (path : List String) :
    t.at? (name :: path) = (t.get? name).bind fun sub => sub.at? path := rfl

theorem at?_append (t : Tree) (start rest : List String) :
    t.at? (start ++ rest) = (t.at? start).bind fun sub => sub.at? rest := by
  induction start generalizing t with
  | nil => rfl
  | cons name start ih =>
    rw [List.cons_append, at?_cons, at?_cons, Option.bind_assoc]
    simp only [ih]

theorem get?_of_not_isTable {t : Tree} (h : ¬ t.IsTable) (name : String) : t.get? name = none := by
  cases t with
  | table fields => exact absurd (isTable_table fields) h
  | _ => rfl

/-- Only a table goes on. -/
theorem at?_cons_of_not_isTable {t : Tree} (h : ¬ t.IsTable) (name : String)
    (path : List String) : t.at? (name :: path) = none := by
  rw [at?_cons, get?_of_not_isTable h]
  rfl

/-! ## Names that occur once -/

theorem getField?_eq_none_iff (fields : Fields) (name : String) :
    getField? fields name = none ↔ name ∉ fields.map Prod.fst := by
  induction fields with
  | nil => simp [getField?]
  | cons p rest ih =>
    obtain ⟨k, v⟩ := p
    by_cases h : name = k
    · simp [getField?, h]
    · simp [getField?, h, ih]

theorem names_setField (fields : Fields) (name : String) (value : Tree) :
    (setField fields name value).map Prod.fst =
      if name ∈ fields.map Prod.fst then fields.map Prod.fst
      else fields.map Prod.fst ++ [name] := by
  induction fields with
  | nil => rfl
  | cons p rest ih =>
    obtain ⟨k, v⟩ := p
    by_cases h : name = k
    · simp [setField, h]
    · rw [setField, if_neg h, List.map_cons, ih, List.map_cons]
      by_cases hmem : name ∈ rest.map Prod.fst
      · rw [if_pos hmem, if_pos (List.mem_cons_of_mem _ hmem)]
      · rw [if_neg hmem, if_neg (by simpa [h] using hmem), List.cons_append]

theorem nodup_setField {fields : Fields} (h : (fields.map Prod.fst).Nodup) (name : String)
    (value : Tree) : ((setField fields name value).map Prod.fst).Nodup := by
  rw [names_setField]
  split
  · exact h
  · next hnew =>
    refine List.nodup_append.mpr ⟨h, List.pairwise_singleton _ _, fun k hk j hj => ?_⟩
    rw [List.mem_singleton.mp hj]
    rintro rfl
    exact hnew hk

/-- A field that is not there yet is put at the end. -/
theorem setField_of_none {fields : Fields} {name : String} (h : getField? fields name = none)
    (value : Tree) : setField fields name value = fields ++ [(name, value)] := by
  induction fields with
  | nil => rfl
  | cons p rest ih =>
    obtain ⟨k, v⟩ := p
    by_cases hk : name = k
    · simp [getField?, hk] at h
    · rw [getField?, if_neg hk] at h
      rw [setField, if_neg hk, ih h, List.cons_append]

theorem nodup_mergeFields {lower : Fields} (h : (lower.map Prod.fst).Nodup) (upper : Fields) :
    ((mergeFields lower upper).map Prod.fst).Nodup := by
  induction upper generalizing lower with
  | nil =>
    rw [mergeFields]
    exact h
  | cons p rest ih =>
    obtain ⟨name, value⟩ := p
    rw [mergeFields]
    exact ih (nodup_setField h name _)

/-- By induction on the upper fields, for every lower table: each of them is met once, and before it
the table still has its lower value. -/
theorem getField?_mergeFields {upper : Fields} (hnodup : (upper.map Prod.fst).Nodup)
    (lower : Fields) (name : String) :
    getField? (mergeFields lower upper) name =
      Option.merge merge (getField? lower name) (getField? upper name) := by
  induction upper generalizing lower with
  | nil => simp [mergeFields, getField?]
  | cons p rest ih =>
    obtain ⟨k, v⟩ := p
    rw [List.map_cons, List.nodup_cons] at hnodup
    obtain ⟨hnew, hrest⟩ := hnodup
    rw [mergeFields, ih hrest, getField?_setField, getField?]
    by_cases h : name = k
    · subst h
      rw [if_pos rfl, if_pos rfl, (getField?_eq_none_iff rest name).mpr hnew]
      cases getField? lower name <;> rfl
    · rw [if_neg h, if_neg h]

/-- The table at the end of every path has each name once. -/
def WellNamed (t : Tree) : Prop :=
  ∀ path fields, t.at? path = some (table fields) → (fields.map Prod.fst).Nodup

theorem WellNamed.of_at? {t sub : Tree} {start : List String} (h : t.WellNamed)
    (hsub : t.at? start = some sub) : sub.WellNamed := by
  intro path fields hpath
  refine h (start ++ path) fields ?_
  rw [at?_append, hsub]
  exact hpath

theorem WellNamed.of_get? {t sub : Tree} {name : String} (h : t.WellNamed)
    (hsub : t.get? name = some sub) : sub.WellNamed := by
  have hat : t.at? [name] = some sub := by
    rw [at?_cons, hsub]
    rfl
  exact h.of_at? hat

theorem WellNamed.nodup {fields : Fields} (h : (table fields).WellNamed) :
    (fields.map Prod.fst).Nodup := h [] fields rfl

theorem wellNamed_of_not_isTable {t : Tree} (h : ¬ t.IsTable) : t.WellNamed := by
  intro path fields hpath
  cases path with
  | nil => exact absurd ⟨fields, Option.some.inj hpath⟩ h
  | cons name path =>
    rw [at?_cons_of_not_isTable h] at hpath
    cases hpath

theorem wellNamed_of_fields? {t : Tree} (h : t.fields? = none) : t.WellNamed := by
  refine wellNamed_of_not_isTable ?_
  rintro ⟨fields, rfl⟩
  cases h

theorem wellNamed_table {fields : Fields} (hnodup : (fields.map Prod.fst).Nodup)
    (hsub : ∀ name sub, getField? fields name = some sub → sub.WellNamed) :
    (table fields).WellNamed := by
  intro path inner hpath
  cases path with
  | nil =>
    cases hpath
    exact hnodup
  | cons name path =>
    rw [at?_cons] at hpath
    obtain ⟨sub, hget, hrest⟩ := Option.bind_eq_some_iff.mp hpath
    exact hsub name sub hget path inner hrest

theorem wellNamed_empty : (table []).WellNamed :=
  wellNamed_table List.nodup_nil fun _ _ h => nomatch h

theorem WellNamed.setField {fields : Fields} {value : Tree} (hfields : (table fields).WellNamed)
    (hvalue : value.WellNamed) (name : String) : (table (setField fields name value)).WellNamed := by
  refine wellNamed_table (nodup_setField hfields.nodup name value) fun other sub hsub => ?_
  rw [getField?_setField] at hsub
  split at hsub
  · cases hsub
    exact hvalue
  · exact hfields.of_get? hsub

theorem WellNamed.nest {value : Tree} (hvalue : value.WellNamed) (path : List String) :
    (Tree.nest path value).WellNamed := by
  induction path with
  | nil => exact hvalue
  | cons name path ih => exact wellNamed_empty.setField ih name

/-! ## Merging name by name -/

/-- If not both are tables, the upper tree is taken whole. -/
theorem merge_of_not_tables {lower upper : Tree} (h : ¬ (lower.IsTable ∧ upper.IsTable)) :
    lower.merge upper = upper := by
  cases lower with
  | table below =>
    cases upper with
    | table above => exact absurd ⟨isTable_table below, isTable_table above⟩ h
    | _ => rw [merge]; simp
  | _ => rw [merge]; simp

theorem get?_merge {lower upper : Tree} (hlower : lower.IsTable) (hupper : upper.IsTable)
    (hnames : upper.WellNamed) (name : String) :
    (lower.merge upper).get? name = Option.merge merge (lower.get? name) (upper.get? name) := by
  obtain ⟨below, rfl⟩ := hlower
  obtain ⟨above, rfl⟩ := hupper
  rw [merge]
  exact getField?_mergeFields hnames.nodup below name

section Names

variable {lower upper : Tree} (hlower : lower.IsTable) (hupper : upper.IsTable)
  (hnames : upper.WellNamed) {name : String}

include hlower hupper hnames

theorem at?_merge_of_upper_none (hnone : upper.get? name = none) (path : List String) :
    (lower.merge upper).at? (name :: path) = lower.at? (name :: path) := by
  rw [at?_cons, at?_cons, get?_merge hlower hupper hnames, hnone, Option.merge_none_right]

theorem at?_merge_of_lower_get?_none (hnone : lower.get? name = none) (path : List String) :
    (lower.merge upper).at? (name :: path) = upper.at? (name :: path) := by
  rw [at?_cons, at?_cons, get?_merge hlower hupper hnames, hnone, Option.merge_none_left]

theorem at?_merge_of_both {a b : Tree} (ha : lower.get? name = some a)
    (hb : upper.get? name = some b) (path : List String) :
    (lower.merge upper).at? (name :: path) = (a.merge b).at? path := by
  rw [at?_cons, get?_merge hlower hupper hnames, ha, hb]
  rfl

end Names

theorem WellNamed.merge {lower upper : Tree} (hlower : lower.WellNamed)
    (hupper : upper.WellNamed) : (lower.merge upper).WellNamed := by
  intro path
  induction path generalizing lower upper with
  | nil =>
    intro fields h
    by_cases hboth : lower.IsTable ∧ upper.IsTable
    · obtain ⟨⟨below, rfl⟩, ⟨above, rfl⟩⟩ := hboth
      rw [Tree.merge] at h
      cases h
      exact nodup_mergeFields hlower.nodup above
    · rw [merge_of_not_tables hboth] at h
      exact hupper [] fields h
  | cons name path ih =>
    intro fields h
    by_cases hboth : lower.IsTable ∧ upper.IsTable
    · cases ha : lower.get? name with
      | none =>
        rw [at?_merge_of_lower_get?_none hboth.1 hboth.2 hupper ha] at h
        exact hupper _ _ h
      | some a =>
        cases hb : upper.get? name with
        | none =>
          rw [at?_merge_of_upper_none hboth.1 hboth.2 hupper hb] at h
          exact hlower _ _ h
        | some b =>
          rw [at?_merge_of_both hboth.1 hboth.2 hupper ha hb] at h
          exact ih (hlower.of_get? ha) (hupper.of_get? hb) fields h
    · rw [merge_of_not_tables hboth] at h
      exact hupper _ _ h

/-! ## The recursive union -/

mutual

/-- The third tree is the union of the other two, where the second wins. -/
inductive Overlaid : Tree → Tree → Tree → Prop where
  | whole {lower upper : Tree} (h : ¬ (lower.IsTable ∧ upper.IsTable)) :
    Overlaid lower upper upper
  | byName {below above fields : Fields}
    (h : ∀ name, FieldOverlaid (getField? below name) (getField? above name)
      (getField? fields name)) :
    Overlaid (table below) (table above) (table fields)

/-- The same of a field that each of the tables may have or not. -/
inductive FieldOverlaid : Option Tree → Option Tree → Option Tree → Prop where
  | absent : FieldOverlaid none none none
  | lower (value : Tree) : FieldOverlaid (some value) none (some value)
  | upper (value : Tree) : FieldOverlaid none (some value) (some value)
  | both {lower upper union : Tree} (h : Overlaid lower upper union) :
    FieldOverlaid (some lower) (some upper) (some union)

end

theorem sizeOf_getField?_lt {fields : Fields} {name : String} {value : Tree}
    (h : getField? fields name = some value) : sizeOf value < sizeOf (table fields) := by
  have hlt : sizeOf value < sizeOf fields := by
    induction fields with
    | nil => cases h
    | cons p rest ih =>
      obtain ⟨k, v⟩ := p
      rw [getField?] at h
      split at h
      · cases h
        simp only [List.cons.sizeOf_spec, Prod.mk.sizeOf_spec]
        omega
      · have := ih h
        simp only [List.cons.sizeOf_spec]
        omega
  rw [table.sizeOf_spec]
  omega

/-- By induction on the size of the upper tree, as merging goes into its fields. -/
theorem overlaid_merge (lower : Tree) {upper : Tree} (hnames : upper.WellNamed) :
    Overlaid lower upper (lower.merge upper) := by
  by_cases hboth : lower.IsTable ∧ upper.IsTable
  · obtain ⟨⟨below, rfl⟩, ⟨above, rfl⟩⟩ := hboth
    rw [merge]
    refine .byName fun name => ?_
    rw [getField?_mergeFields hnames.nodup]
    cases ha : getField? below name with
    | none =>
      cases getField? above name with
      | none => exact .absent
      | some b => exact .upper b
    | some a =>
      cases hb : getField? above name with
      | none => exact .lower a
      | some b =>
        have := sizeOf_getField?_lt hb
        exact .both (overlaid_merge a (hnames.of_get? hb))
  · rw [merge_of_not_tables hboth]
    exact .whole hboth
termination_by sizeOf upper

/-! ## Paths that a tree settles -/

/-- A value that is no table stands on the path, at its end or before. -/
def Cuts (t : Tree) (path : List String) : Prop :=
  ∃ start value, start <+: path ∧ t.at? start = some value ∧ ¬ value.IsTable

/-- A tree settles what stands at a path: it has a value there, or its tables do not go so far. -/
def Settles (t : Tree) (path : List String) : Prop := (t.at? path).isSome ∨ t.Cuts path

/-- What cuts a path cuts every longer one. -/
theorem Cuts.of_prefix {t : Tree} {start path : List String} (h : t.Cuts start)
    (hstart : start <+: path) : t.Cuts path := by
  obtain ⟨first, value, hfirst, hvalue, hnot⟩ := h
  exact ⟨first, value, hfirst.trans hstart, hvalue, hnot⟩

/-- A value as it looks from above: of a table, only that it is one. -/
def face : Tree → Tree
  | table _ => table []
  | t => t

theorem settles_nil (t : Tree) : t.Settles [] := .inl rfl

theorem settles_of_not_isTable {t : Tree} (h : ¬ t.IsTable) (path : List String) :
    t.Settles path := .inr ⟨[], t, List.nil_prefix, rfl, h⟩

theorem cuts_nil_iff (t : Tree) : t.Cuts [] ↔ ¬ t.IsTable := by
  constructor
  · rintro ⟨start, value, hstart, hvalue, hnot⟩
    obtain rfl := List.prefix_nil.mp hstart
    obtain rfl := Option.some.inj hvalue
    exact hnot
  · exact fun h => ⟨[], t, List.nil_prefix, rfl, h⟩

theorem cuts_cons_iff (t : Tree) (name : String) (path : List String) :
    t.Cuts (name :: path) ↔ ¬ t.IsTable ∨ ∃ sub, t.get? name = some sub ∧ sub.Cuts path := by
  constructor
  · rintro ⟨start, value, hstart, hvalue, hnot⟩
    cases start with
    | nil =>
      obtain rfl := Option.some.inj hvalue
      exact .inl hnot
    | cons first start =>
      obtain ⟨rfl, hprefix⟩ := List.cons_prefix_cons.mp hstart
      obtain ⟨sub, hsub, hrest⟩ := Option.bind_eq_some_iff.mp hvalue
      exact .inr ⟨sub, hsub, start, value, hprefix, hrest, hnot⟩
  · rintro (hnot | ⟨sub, hsub, start, value, hprefix, hvalue, hnot⟩)
    · exact ⟨[], t, List.nil_prefix, rfl, hnot⟩
    · refine ⟨name :: start, value, List.cons_prefix_cons.mpr ⟨rfl, hprefix⟩, ?_, hnot⟩
      rw [at?_cons, hsub]
      exact hvalue

instance decidableIsTable (t : Tree) : Decidable t.IsTable :=
  match t with
  | table fields => isTrue (isTable_table fields)
  | null | bool _ | int _ | float _ | text _ | list _ => isFalse fun ⟨_, h⟩ => nomatch h

instance decidableCuts : (t : Tree) → (path : List String) → Decidable (t.Cuts path)
  | t, [] => decidable_of_iff _ (cuts_nil_iff t).symm
  | t, name :: path =>
    have (sub : Tree) : Decidable (sub.Cuts path) := decidableCuts sub path
    decidable_of_iff _ (cuts_cons_iff t name path).symm

theorem settles_cons_iff {t : Tree} (htable : t.IsTable) (name : String) (path : List String) :
    t.Settles (name :: path) ↔ ∃ sub, t.get? name = some sub ∧ sub.Settles path := by
  rw [Settles, cuts_cons_iff, at?_cons]
  constructor
  · rintro (hsome | hnot | ⟨sub, hsub, hcut⟩)
    · obtain ⟨value, hvalue⟩ := Option.isSome_iff_exists.mp hsome
      obtain ⟨sub, hsub, hrest⟩ := Option.bind_eq_some_iff.mp hvalue
      exact ⟨sub, hsub, .inl (by rw [hrest]; rfl)⟩
    · exact absurd htable hnot
    · exact ⟨sub, hsub, .inr hcut⟩
  · rintro ⟨sub, hsub, hsome | hcut⟩
    · refine .inl ?_
      rw [hsub]
      exact hsome
    · exact .inr (.inr ⟨sub, hsub, hcut⟩)

/-- What the upper tree leaves open is as it is below. -/
theorem at?_merge_of_not_settles {lower upper : Tree} (hnames : upper.WellNamed)
    {path : List String} (hopen : ¬ upper.Settles path) :
    (lower.merge upper).at? path = lower.at? path := by
  induction path generalizing lower upper with
  | nil => exact absurd (settles_nil upper) hopen
  | cons name path ih =>
    by_cases hupper : upper.IsTable
    · rw [settles_cons_iff hupper] at hopen
      by_cases hlower : lower.IsTable
      · cases hb : upper.get? name with
        | none => exact at?_merge_of_upper_none hlower hupper hnames hb path
        | some b =>
          have hrest : ¬ b.Settles path := fun h => hopen ⟨b, hb, h⟩
          cases ha : lower.get? name with
          | none =>
            rw [at?_merge_of_lower_get?_none hlower hupper hnames ha, at?_cons, at?_cons, ha, hb]
            exact Option.not_isSome_iff_eq_none.mp fun h => hrest (.inl h)
          | some a =>
            rw [at?_merge_of_both hlower hupper hnames ha hb, at?_cons, ha]
            exact ih (hnames.of_get? hb) hrest
      · -- the upper table replaces a value through which no path leads
        rw [merge_of_not_tables fun h => hlower h.1, at?_cons_of_not_isTable hlower]
        exact Option.not_isSome_iff_eq_none.mp fun h =>
          hopen ((settles_cons_iff hupper name path).mp (.inl h))
    · exact absurd (settles_of_not_isTable hupper _) hopen

/-- What the upper tree settles is as it is there; under a table, fields of the lower one may
remain. -/
theorem face_merge_of_settles {lower upper : Tree} (hnames : upper.WellNamed)
    {path : List String} (hsettled : upper.Settles path) :
    ((lower.merge upper).at? path).map face = (upper.at? path).map face := by
  by_cases hboth : lower.IsTable ∧ upper.IsTable
  · obtain ⟨hlower, hupper⟩ := hboth
    induction path generalizing lower upper with
    | nil =>
      obtain ⟨below, rfl⟩ := hlower
      obtain ⟨above, rfl⟩ := hupper
      rw [merge]
      rfl
    | cons name path ih =>
      obtain ⟨b, hb, hrest⟩ := (settles_cons_iff hupper name path).mp hsettled
      cases ha : lower.get? name with
      | none => rw [at?_merge_of_lower_get?_none hlower hupper hnames ha]
      | some a =>
        rw [at?_merge_of_both hlower hupper hnames ha hb, at?_cons, hb]
        by_cases hinner : a.IsTable ∧ b.IsTable
        · exact ih (hnames.of_get? hb) hrest hinner.1 hinner.2
        · rw [merge_of_not_tables hinner]
          rfl
  · rw [merge_of_not_tables hboth]

/-- Where the lower tree has nothing, only the upper one counts. -/
theorem at?_merge_of_lower_none {lower upper : Tree} (hnames : upper.WellNamed)
    {path : List String} (hnone : lower.at? path = none) :
    (lower.merge upper).at? path = upper.at? path := by
  induction path generalizing lower upper with
  | nil => cases hnone
  | cons name path ih =>
    by_cases hboth : lower.IsTable ∧ upper.IsTable
    · obtain ⟨hlower, hupper⟩ := hboth
      cases ha : lower.get? name with
      | none => exact at?_merge_of_lower_get?_none hlower hupper hnames ha path
      | some a =>
        cases hb : upper.get? name with
        | none =>
          rw [at?_merge_of_upper_none hlower hupper hnames hb, hnone, at?_cons, hb]
          rfl
        | some b =>
          rw [at?_cons, ha] at hnone
          rw [at?_merge_of_both hlower hupper hnames ha hb, at?_cons, hb]
          exact ih (hnames.of_get? hb) hnone
    · rw [merge_of_not_tables hboth]

end ClientWiring.Tree
