import ClientWiring.Proofs.Tree.Paths
import ClientWiring.Tree.Section
import Mathlib.Logic.Relation

/-!
# Sections that may be left out

An outline says what a reading knows of its trees: the fields of a section, and which of them are
sections or maps in turn.  An edit puts in an empty section or map where there is none, or adds a field
that its section does not know, anywhere in a tree:

    {}                  { telemetry = {} }          a section that was absent
    ["svc", "test"]     ["svc", "test", {}]         the next one of a row
    {}                  { colour = "red" }          a field that is not known

Edits are undone by taking out what was put in, so trees that differ by edits either way are the ones
that `Relation.EqvGen` joins.  A reading that follows its outline cannot tell them apart
(Follows.eq_of_eqvGen).  A section is followed if its fields are, and if the default that stands in for
each part is what the empty part is read as                           (EditedFields.withDefault_part).
-/

namespace ClientWiring.Tree

/-- What a reading knows of its trees. -/
inductive Outline where
  /-- A value that is taken as a whole. -/
  | ofValue
  /-- A value that may be null or absent, neither of which is the same as empty. -/
  | ofOption (value : Outline)
  /-- A map, all of whose values have one outline. -/
  | ofMap (value : Outline)
  /-- A section with these fields, in the order of a row.  Its parts are the fields that are more than
  a value. -/
  | ofSection (names : List String) (parts : List (String × Outline))

/-- An empty table is meant where there is none. -/
def Outline.MayBeEmpty : Outline → Prop
  | .ofMap _ | .ofSection _ _ => True
  | .ofValue | .ofOption _ => False

/-- What a tree becomes when something is put in that its reading should not notice. -/
inductive Edit : Outline → Tree → Tree → Prop
  /-- An absent part of a section, as an empty table. -/
  | fill {names parts name part} (before after : Fields)
      (hpart : parts.lookup name = some part) (hempty : part.MayBeEmpty)
      (hnew : name ∉ (before ++ after).map Prod.fst) :
      Edit (.ofSection names parts) (table (before ++ after))
        (table (before ++ (name, table []) :: after))
  /-- The part that a row would reach next, as an empty table. -/
  | extend {names parts name part} (items : List Tree) (hnext : names[items.length]? = some name)
      (hpart : parts.lookup name = some part) (hempty : part.MayBeEmpty) :
      Edit (.ofSection names parts) (list items) (list (items ++ [table []]))
  /-- A field that the section does not know. -/
  | unknown {names parts name value} (before after : Fields) (hunknown : name ∉ names) :
      Edit (.ofSection names parts) (table (before ++ after))
        (table (before ++ (name, value) :: after))
  /-- Something inside a part of a section. -/
  | field {names parts name part t t'} (before after : Fields)
      (hpart : parts.lookup name = some part) (hedit : Edit part t t') :
      Edit (.ofSection names parts) (table (before ++ (name, t) :: after))
        (table (before ++ (name, t') :: after))
  /-- Something inside a part that a row reaches. -/
  | item {names parts name part t t'} (before after : List Tree)
      (hplace : names[before.length]? = some name) (hpart : parts.lookup name = some part)
      (hedit : Edit part t t') :
      Edit (.ofSection names parts) (list (before ++ t :: after)) (list (before ++ t' :: after))
  /-- Something inside a value of a map. -/
  | entry {value name t t'} (before after : Fields) (hedit : Edit value t t') :
      Edit (.ofMap value) (table (before ++ (name, t) :: after))
        (table (before ++ (name, t') :: after))
  /-- Something inside a value that might have been absent. -/
  | present {value t t'} (hedit : Edit value t t') : Edit (.ofOption value) t t'

/-- A reading answers the same before and after an edit. -/
def Follows {α : Type} (o : Outline) (read : Tree → α) : Prop :=
  ∀ t t', Edit o t t' → read t = read t'

/-- Edits may be undone, and there may be any number of them. -/
theorem Follows.eq_of_eqvGen {α : Type} {o : Outline} {read : Tree → α} (h : Follows o read)
    {t t' : Tree} (hedits : Relation.EqvGen (Edit o) t t') : read t = read t' := by
  induction hedits with
  | rel t t' hedit => exact h t t' hedit
  | refl t => rfl
  | symm t t' _ ih => exact ih.symm
  | trans t t' t'' _ _ ih ih' => exact ih.trans ih'

/-- A reading that follows its outline and takes an empty table for the default. -/
structure DefaultsTo {α : Type} (o : Outline) (read : Tree → Option α) (default : α) : Prop where
  follows : Follows o read
  empty : read (table []) = some default

/-! ## Readings of a value -/

/-- There is nothing to edit in a value that is taken as a whole. -/
theorem follows_ofValue {α : Type} (read : Tree → α) : Follows .ofValue read := by
  intro t t' hedit
  cases hedit

/-- An edit is made in a table or a row, and leaves one. -/
theorem Edit.ne_null {o : Outline} {t t' : Tree} (h : Edit o t t') : t ≠ .null ∧ t' ≠ .null := by
  induction h with
  | present _ ih => exact ih
  | _ => exact ⟨Tree.noConfusion, Tree.noConfusion⟩

theorem nullable?_of_ne_null {α : Type} (value : Tree → Option α) {t : Tree} (h : t ≠ .null) :
    nullable? value t = (value t).map some := by
  cases t with
  | null => exact absurd rfl h
  | _ => rfl

theorem Follows.nullable? {α : Type} {o : Outline} {value : Tree → Option α} (h : Follows o value) :
    Follows (.ofOption o) (nullable? value) := by
  intro t t' hedit
  cases hedit with
  | present hinner =>
    obtain ⟨ht, ht'⟩ := hinner.ne_null
    rw [nullable?_of_ne_null value ht, nullable?_of_ne_null value ht', h t t' hinner]

/-- The values of a map are read one by one. -/
theorem Follows.mapOf? {α : Type} {o : Outline} {value : Tree → Option α} (h : Follows o value) :
    Follows (.ofMap o) (mapOf? value) := by
  intro t t' hedit
  cases hedit with
  | entry before after hinner =>
    simp only [Tree.mapOf?, List.mapM_append, List.mapM_cons, h _ _ hinner]

/-- An absent map is an empty one. -/
theorem Follows.defaultsTo_mapOf? {α : Type} {o : Outline} {value : Tree → Option α}
    (h : Follows o value) : DefaultsTo (.ofMap o) (Tree.mapOf? value) .empty where
  follows := h.mapOf?
  empty := rfl

/-! ## Fields of a section -/

/-- What an edit can do to the field of a name. -/
inductive FieldEdit (parts : List (String × Outline)) (name : String) :
    Option Tree → Option Tree → Prop
  | same (value : Option Tree) : FieldEdit parts name value value
  | filled {part} (hpart : parts.lookup name = some part) (hempty : part.MayBeEmpty) :
      FieldEdit parts name none (some (table []))
  | inside {part t t'} (hpart : parts.lookup name = some part) (hedit : Edit part t t') :
      FieldEdit parts name (some t) (some t')

/-- Fields that differ by an edit of their section. -/
def EditedFields (names : List String) (parts : List (String × Outline)) (fields fields' : Fields) :
    Prop :=
  ∀ name ∈ names, FieldEdit parts name (getField? fields name) (getField? fields' name)

theorem getField?_append (before after : Fields) (name : String) :
    getField? (before ++ after) name = (getField? before name).or (getField? after name) := by
  induction before with
  | nil => rfl
  | cons p rest ih =>
    obtain ⟨k, v⟩ := p
    by_cases h : name = k
    · simp [getField?, h]
    · simp [getField?, h, ih]

section

variable {names : List String} {parts : List (String × Outline)} {name : String} {part : Outline}
  {before after : Fields}

theorem editedFields_fill (hpart : parts.lookup name = some part) (hempty : part.MayBeEmpty)
    (hnew : name ∉ after.map Prod.fst) :
    EditedFields names parts (before ++ after) (before ++ (name, table []) :: after) := by
  intro other _
  rw [getField?_append, getField?_append, getField?]
  by_cases h : other = name
  · subst h
    rw [if_pos rfl, (getField?_eq_none_iff after other).mpr hnew, Option.or_none]
    cases getField? before other with
    | none => exact .filled hpart hempty
    | some first => exact .same _
  · rw [if_neg h]
    exact .same _

theorem editedFields_unknown (hunknown : name ∉ names) (value : Tree) :
    EditedFields names parts (before ++ after) (before ++ (name, value) :: after) := by
  intro other hother
  have hne : other ≠ name := fun e => hunknown (e ▸ hother)
  rw [getField?_append, getField?_append, getField?, if_neg hne]
  exact .same _

theorem editedFields_field {t t' : Tree} (hpart : parts.lookup name = some part)
    (hedit : Edit part t t') :
    EditedFields names parts (before ++ (name, t) :: after) (before ++ (name, t') :: after) := by
  intro other _
  rw [getField?_append, getField?_append, getField?, getField?]
  by_cases h : other = name
  · subst h
    rw [if_pos rfl, if_pos rfl]
    cases getField? before other with
    | none => exact .inside hpart hedit
    | some first => exact .same _
  · rw [if_neg h, if_neg h]
    exact .same _

/-- In a row a value has the name that stands at its place. -/
theorem zip_place {before : List Tree} (hplace : names[before.length]? = some name) (t : Tree)
    (after : List Tree) :
    names.zip (before ++ t :: after) =
      names.zip before ++ (name, t) :: (names.drop (before.length + 1)).zip after := by
  induction before generalizing names with
  | nil =>
    cases names with
    | nil => cases hplace
    | cons first rest =>
      obtain rfl : first = name := Option.some.inj hplace
      rfl
  | cons item before ih =>
    cases names with
    | nil => cases hplace
    | cons first rest =>
      have hrest := ih hplace
      rw [List.cons_append, List.zip_cons_cons, hrest]
      rfl

theorem editedFields_extend {items : List Tree} (hnext : names[items.length]? = some name)
    (hpart : parts.lookup name = some part) (hempty : part.MayBeEmpty) :
    EditedFields names parts (names.zip items) (names.zip (items ++ [table []])) := by
  have hfill : EditedFields names parts (names.zip items ++ [])
      (names.zip items ++ [(name, table [])]) := editedFields_fill hpart hempty List.not_mem_nil
  rw [List.append_nil] at hfill
  rwa [zip_place hnext, List.zip_nil_right]

theorem editedFields_item {before after : List Tree} {t t' : Tree}
    (hplace : names[before.length]? = some name) (hpart : parts.lookup name = some part)
    (hedit : Edit part t t') :
    EditedFields names parts (names.zip (before ++ t :: after))
      (names.zip (before ++ t' :: after)) := by
  rw [zip_place hplace, zip_place hplace]
  exact editedFields_field hpart hedit

end

namespace EditedFields

variable {α : Type} {names : List String} {parts : List (String × Outline)}
  {fields fields' : Fields} (h : EditedFields names parts fields fields') {value : Tree → Option α}

include h

/-- Fields that are no parts stay as they are. -/
theorem getField?_eq {name : String} (hname : name ∈ names) (hplain : parts.lookup name = none) :
    getField? fields name = getField? fields' name := by
  have hfield := h name hname
  generalize getField? fields name = old, getField? fields' name = new at hfield ⊢
  cases hfield with
  | same => rfl
  | filled hpart _ =>
    rw [hplain] at hpart
    cases hpart
  | inside hpart _ =>
    rw [hplain] at hpart
    cases hpart

theorem required {name : String} (hname : name ∈ names) (hplain : parts.lookup name = none) :
    Tree.required fields name value = Tree.required fields' name value := by
  rw [Tree.required, Tree.required, h.getField?_eq hname hplain]

theorem withDefault {name : String} {default : α} (hname : name ∈ names)
    (hplain : parts.lookup name = none) :
    Tree.withDefault fields name value default = Tree.withDefault fields' name value default := by
  rw [Tree.withDefault, Tree.withDefault, h.getField?_eq hname hplain]

theorem optional {name : String} (hname : name ∈ names) (hplain : parts.lookup name = none) :
    Tree.optional fields name value = Tree.optional fields' name value :=
  h.withDefault hname hplain

/-- A part may be put in or taken out if the default stands for the empty part. -/
theorem withDefault_part (name : String) {part : Outline} {default : α} (hname : name ∈ names)
    (hpart : parts.lookup name = some part) (hvalue : DefaultsTo part value default) :
    Tree.withDefault fields name value default = Tree.withDefault fields' name value default := by
  have hsame : ∀ {other}, parts.lookup name = some other → other = part := fun hother =>
    Option.some.inj (hother.symm.trans hpart)
  have hfield := h name hname
  unfold Tree.withDefault
  generalize getField? fields name = old, getField? fields' name = new at hfield ⊢
  cases hfield with
  | same => rfl
  | filled _ _ => exact hvalue.empty.symm
  | inside hother hedit => exact hvalue.follows _ _ (hsame hother ▸ hedit)

/-- A part that may be absent without being empty can only be edited where it is present. -/
theorem optional_part (name : String) {part : Outline} (hname : name ∈ names)
    (hpart : parts.lookup name = some (.ofOption part)) (hvalue : Follows part value) :
    Tree.optional fields name value = Tree.optional fields' name value := by
  have hsame : ∀ {other}, parts.lookup name = some other → other = .ofOption part := fun hother =>
    Option.some.inj (hother.symm.trans hpart)
  have hfield := h name hname
  unfold Tree.optional Tree.withDefault
  generalize getField? fields name = old, getField? fields' name = new at hfield ⊢
  cases hfield with
  | same => rfl
  | filled hother hempty =>
    rw [hsame hother] at hempty
    exact absurd hempty id
  | inside hother hedit => exact hvalue.nullable? _ _ (hsame hother ▸ hedit)

end EditedFields

/-! ## Sections -/

section

variable {α : Type} {surplus : Surplus} {names : List String} {parts : List (String × Outline)}

theorem rowFields?_of_le {items : List Tree} (h : items.length ≤ names.length) :
    rowFields? surplus names items = some (names.zip items) := by
  have hfits : ¬ (surplus = .refused ∧ names.length < items.length) := by omega
  rw [rowFields?, if_neg hfits]

theorem lt_length_of_getElem? {items : List Tree} {name : String}
    (h : names[items.length]? = some name) : items.length < names.length :=
  (List.getElem?_eq_some_iff.mp h).1

/-- A section is followed if what is read of its fields stays the same. -/
theorem follows_sectionOf? {read : Fields → Option α}
    (h : ∀ fields fields', EditedFields names parts fields fields' → read fields = read fields') :
    Follows (.ofSection names parts) fun t => (sectionOf? surplus names t).bind read := by
  intro t t' hedit
  cases hedit with
  | fill before after hpart hempty hnew =>
    rw [List.map_append, List.mem_append, not_or] at hnew
    exact h _ _ (editedFields_fill hpart hempty hnew.2)
  | extend items hnext hpart hempty =>
    have hlt := lt_length_of_getElem? hnext
    simp only [sectionOf?]
    rw [rowFields?_of_le (Nat.le_of_lt hlt), rowFields?_of_le (by rw [List.length_append]; exact hlt)]
    exact h _ _ (editedFields_extend hnext hpart hempty)
  | unknown before after hunknown => exact h _ _ (editedFields_unknown hunknown _)
  | field before after hpart hinner => exact h _ _ (editedFields_field hpart hinner)
  | @item _ _ _ _ t t' before after hplace hpart hinner =>
    have hlength : (before ++ t :: after).length = (before ++ t' :: after).length := by simp
    simp only [sectionOf?, rowFields?, hlength]
    split
    · rfl
    · exact h _ _ (editedFields_item hplace hpart hinner)

/-- What stands for an absent section is what is read of no fields. -/
theorem defaultsTo_sectionOf? {read : Fields → Option α} {default : α}
    (hempty : read [] = some default)
    (h : ∀ fields fields', EditedFields names parts fields fields' → read fields = read fields') :
    DefaultsTo (.ofSection names parts) (fun t => (sectionOf? surplus names t).bind read) default where
  follows := follows_sectionOf? h
  empty := hempty

/-- So is one that can be a row only in full, unless its last field is a part that may be empty: a row
that is short of this one would be read only after an edit. -/
theorem follows_wholeSection? {read : Fields → Option α}
    (hlast : ∀ name part, names.getLast? = some name → parts.lookup name = some part →
      ¬ part.MayBeEmpty)
    (h : ∀ fields fields', EditedFields names parts fields fields' → read fields = read fields') :
    Follows (.ofSection names parts) fun t => (wholeSection? surplus names t).bind read := by
  intro t t' hedit
  have hsection : (sectionOf? surplus names t).bind read = (sectionOf? surplus names t').bind read :=
    follows_sectionOf? h t t' hedit
  cases hedit with
  | fill => exact hsection
  | unknown => exact hsection
  | field => exact hsection
  | extend items hnext hpart hempty =>
    have hlt := lt_length_of_getElem? hnext
    have hnotLast : items.length + 1 ≠ names.length := by
      intro hfull
      refine hlast _ _ ?_ hpart hempty
      rw [List.getLast?_eq_getElem?, ← hfull, Nat.add_sub_cancel, hnext]
    have hshort : (items ++ [table []]).length < names.length := by
      rw [List.length_append, List.length_singleton]
      omega
    simp only [wholeSection?, if_pos hlt, if_pos hshort]
  | @item _ _ _ _ t t' before after hplace hpart hinner =>
    have hlength : (before ++ t :: after).length = (before ++ t' :: after).length := by simp
    simp only [wholeSection?, hlength]
    split
    · rfl
    · exact hsection

end

end ClientWiring.Tree
