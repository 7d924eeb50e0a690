import ClientWiring.Proofs.Tree.Paths
import ClientWiring.Tree.Section

/-!
# Trees with the same content

Two trees are alike if they have the same at every path; then they differ at most in the order in
which tables have their fields.  A strict reading looks fields up by their names, and a table that is
read as a map is sorted by them, so readings answer the same for alike trees (`Respects`).  This is
kept by every way in which readings are put together.
-/

namespace ClientWiring.Tree

/-- Two trees with the same at each path. -/
structure Alike (t t' : Tree) : Prop where
  left : t.WellNamed
  right : t'.WellNamed
  face : ∀ path, (t.at? path).map face = (t'.at? path).map face

/-- A reading answers the same for alike trees. -/
def Respects {α : Type} (read : Tree → α) : Prop := ∀ t t', Alike t t' → read t = read t'

/-! ## Alike tables -/

theorem face_eq_table_iff (t : Tree) : t.face = table [] ↔ t.IsTable := by
  constructor
  · intro h
    cases t with
    | table fields => exact isTable_table fields
    | _ => cases h
  · rintro ⟨fields, rfl⟩
    rfl

theorem face_of_not_isTable {t : Tree} (h : ¬ t.IsTable) : t.face = t := by
  cases t with
  | table fields => exact absurd (isTable_table fields) h
  | _ => rfl

/-- Alike trees are the same, or both tables. -/
theorem Alike.eq_or_tables {t t' : Tree} (h : Alike t t') :
    t = t' ∨ ∃ fields fields', t = table fields ∧ t' = table fields' := by
  have hface : t.face = t'.face := Option.some.inj (h.face [])
  by_cases htable : t.IsTable
  · obtain ⟨fields, rfl⟩ := htable
    obtain ⟨fields', rfl⟩ := (face_eq_table_iff t').mp hface.symm
    exact .inr ⟨fields, fields', rfl, rfl⟩
  · have htable' : ¬ t'.IsTable := fun h' =>
      htable ((face_eq_table_iff t).mp (hface.trans ((face_eq_table_iff t').mpr h')))
    rw [face_of_not_isTable htable, face_of_not_isTable htable'] at hface
    exact .inl hface

theorem Alike.symm {t t' : Tree} (h : Alike t t') : Alike t' t where
  left := h.right
  right := h.left
  face := fun path => (h.face path).symm

/-- Fields of alike tables are alike, or there are none. -/
theorem Alike.getField? {fields fields' : Fields} (h : Alike (table fields) (table fields'))
    (name : String) :
    (Tree.getField? fields name = none ∧ Tree.getField? fields' name = none) ∨
      ∃ sub sub', Tree.getField? fields name = some sub ∧
        Tree.getField? fields' name = some sub' ∧ Alike sub sub' := by
  have hat : ∀ path, (((Tree.getField? fields name).bind fun sub => sub.at? path).map Tree.face) =
      (((Tree.getField? fields' name).bind fun sub => sub.at? path).map Tree.face) :=
    fun path => h.face (name :: path)
  cases ha : Tree.getField? fields name with
  | none =>
    cases hb : Tree.getField? fields' name with
    | none => exact .inl ⟨rfl, rfl⟩
    | some sub' =>
      have hroot := hat []
      simp [ha, hb] at hroot
  | some sub =>
    cases hb : Tree.getField? fields' name with
    | none =>
      have hroot := hat []
      simp [ha, hb] at hroot
    | some sub' =>
      refine .inr ⟨sub, sub', rfl, rfl, h.left.of_get? ha, h.right.of_get? hb, fun path => ?_⟩
      have hpath := hat path
      rw [ha, hb] at hpath
      exact hpath

/-- A table with a single field, which is no table again, is alike only to itself. -/
theorem Alike.eq_single {fields' : Fields} {name : String} {t : Tree}
    (h : Alike (table [(name, t)]) (table fields')) (ht : t.fields? = none) :
    fields' = [(name, t)] := by
  have hname : ∀ {k v}, (k, v) ∈ fields' → k = name := by
    intro k v hmem
    refine Decidable.byContradiction fun hne => ?_
    rcases h.getField? k with ⟨-, hnone⟩ | ⟨sub, -, hsub, -⟩
    · exact (getField?_eq_none_iff fields' k).mp hnone (List.mem_map.mpr ⟨(k, v), hmem, rfl⟩)
    · rw [Tree.getField?, if_neg hne] at hsub
      cases hsub
  have hvalue : Tree.getField? fields' name = some t := by
    rcases h.getField? name with ⟨hnone, -⟩ | ⟨sub, sub', hsub, hsub', halike⟩
    · rw [Tree.getField?, if_pos rfl] at hnone
      cases hnone
    · rw [Tree.getField?, if_pos rfl] at hsub
      cases hsub
      rcases halike.eq_or_tables with rfl | ⟨inner, -, rfl, -⟩
      · exact hsub'
      · cases ht
  cases fields' with
  | nil => cases hvalue
  | cons p rest =>
    obtain ⟨k, v⟩ := p
    obtain rfl : k = name := hname (List.mem_cons_self ..)
    rw [Tree.getField?, if_pos rfl] at hvalue
    cases hvalue
    cases rest with
    | nil => rfl
    | cons q rest =>
      obtain ⟨j, w⟩ := q
      obtain rfl : j = k := hname (List.mem_cons_of_mem _ (List.mem_cons_self ..))
      exact absurd (List.mem_cons_self ..) (List.nodup_cons.mp h.right.nodup).1

/-! ## Readings of a value -/

theorem respects_of_tables {α : Type} {read : Tree → α}
    (h : ∀ fields fields', Alike (table fields) (table fields') →
      read (table fields) = read (table fields')) : Respects read := by
  intro t t' halike
  rcases halike.eq_or_tables with rfl | ⟨fields, fields', rfl, rfl⟩
  · rfl
  · exact h fields fields' halike

theorem respects_text? : Respects text? := respects_of_tables fun _ _ _ => rfl

theorem respects_bool? : Respects bool? := respects_of_tables fun _ _ _ => rfl

theorem respects_uint16? : Respects uint16? := respects_of_tables fun _ _ _ => rfl

theorem respects_uint32? : Respects uint32? := respects_of_tables fun _ _ _ => rfl

theorem respects_uint64? : Respects uint64? := respects_of_tables fun _ _ _ => rfl

theorem respects_double? : Respects double? := respects_of_tables fun _ _ _ => rfl

theorem respects_texts? : Respects texts? := respects_of_tables fun _ _ _ => rfl

theorem respects_nullable? {α : Type} {value : Tree → Option α} (h : Respects value) :
    Respects (nullable? value) := by
  refine respects_of_tables fun fields fields' halike => ?_
  have hvalue := h _ _ halike
  simp only [nullable?, hvalue]

/-! ## Maps -/

/-- The value of a field, read. -/
def readField? {α : Type} (value : Tree → Option α) (fields : Fields) (name : String) : Option α :=
  (Tree.getField? fields name).bind value

theorem getField?_of_mem {fields : Fields} (hnodup : (fields.map Prod.fst).Nodup)
    {p : String × Tree} (h : p ∈ fields) : Tree.getField? fields p.1 = some p.2 := by
  induction fields with
  | nil => cases h
  | cons q rest ih =>
    obtain ⟨k, v⟩ := q
    rw [List.map_cons, List.nodup_cons] at hnodup
    rcases List.mem_cons.mp h with rfl | h
    · rw [Tree.getField?, if_pos rfl]
    · have hne : p.1 ≠ k := fun e => hnodup.1 (List.mem_map.mpr ⟨p, h, e⟩)
      rw [Tree.getField?, if_neg hne]
      exact ih hnodup.2 h

theorem mem_of_getField? {fields : Fields} {name : String} {t : Tree}
    (h : Tree.getField? fields name = some t) : (name, t) ∈ fields := by
  induction fields with
  | nil => cases h
  | cons q rest ih =>
    obtain ⟨k, v⟩ := q
    rw [Tree.getField?] at h
    split at h
    · next hname =>
      cases h
      rw [hname]
      exact List.mem_cons_self ..
    · exact List.mem_cons_of_mem _ (ih h)

/-- Pairs that were read one by one have the names of the fields and their values. -/
theorem lookupPair_of_mapM {α : Type} {value : Tree → Option α} {fields : Fields}
    {pairs : List (String × α)}
    (h : fields.mapM (fun p => (value p.2).map fun v => (p.1, v)) = some pairs) (name : String) :
    pairs.map Prod.fst = fields.map Prod.fst ∧
      SortedMap.lookupPair name pairs = readField? value fields name := by
  induction fields generalizing pairs with
  | nil =>
    rw [List.mapM_nil] at h
    cases h
    exact ⟨rfl, rfl⟩
  | cons p rest ih =>
    obtain ⟨k, t⟩ := p
    rw [List.mapM_cons] at h
    obtain ⟨first, hfirst, h⟩ := Option.bind_eq_some_iff.mp h
    obtain ⟨others, hothers, h⟩ := Option.bind_eq_some_iff.mp h
    obtain ⟨v, hv, rfl⟩ := Option.map_eq_some_iff.mp hfirst
    cases h
    obtain ⟨hnames, hlookup⟩ := ih hothers
    refine ⟨by rw [List.map_cons, List.map_cons, hnames], ?_⟩
    rw [SortedMap.lookupPair, readField?, Tree.getField?]
    split
    · exact hv.symm
    · exact hlookup

theorem isSome_mapM_iff {α β : Type} (f : α → Option β) (xs : List α) :
    (xs.mapM f).isSome ↔ ∀ x ∈ xs, (f x).isSome := by
  induction xs with
  | nil => simp
  | cons x rest ih =>
    rw [List.mapM_cons, List.forall_mem_cons, ← ih]
    cases f x <;> cases rest.mapM f <;> simp

/-- Where names occur once, the last pair with a name is the first. -/
theorem lastPair_eq_lookupPair {α : Type} {pairs : List (String × α)}
    (hnodup : (pairs.map Prod.fst).Nodup) (name : String) :
    SortedMap.lastPair name pairs = SortedMap.lookupPair name pairs := by
  induction pairs with
  | nil => rfl
  | cons p rest ih =>
    obtain ⟨k, v⟩ := p
    rw [List.map_cons, List.nodup_cons] at hnodup
    rw [SortedMap.lastPair] at ih ⊢
    rw [List.reverse_cons, SortedMap.lookupPair_append, ih hnodup.2]
    by_cases h : name = k
    · subst h
      have hnone : SortedMap.lookupPair name rest = none :=
        SortedMap.lookupPair_eq_none fun q hq e =>
          hnodup.1 (List.mem_map.mpr ⟨q, hq, e.symm⟩)
      simp [hnone, SortedMap.lookupPair]
    · simp [SortedMap.lookupPair, h]

/-- A table is read as the map with the same look-ups, if each of its values can be read. -/
theorem mapOf?_eq_some_iff {α : Type} {value : Tree → Option α} {fields : Fields}
    (hnodup : (fields.map Prod.fst).Nodup) (m : SortedMap α) :
    mapOf? value (table fields) = some m ↔
      ∀ name, m.get? name = readField? value fields name ∧
        ((Tree.getField? fields name).isSome → (m.get? name).isSome) := by
  have hofList : ∀ pairs, fields.mapM (fun p => (value p.2).map fun v => (p.1, v)) = some pairs →
      ∀ name, (SortedMap.ofList pairs).get? name = readField? value fields name := by
    intro pairs hpairs name
    obtain ⟨hnames, hlookup⟩ := lookupPair_of_mapM hpairs name
    rw [SortedMap.get?_ofList, lastPair_eq_lookupPair (hnames ▸ hnodup), hlookup]
  unfold mapOf?
  rw [Option.map_eq_some_iff]
  constructor
  · rintro ⟨pairs, hpairs, rfl⟩ name
    refine ⟨hofList pairs hpairs name, fun hsome => ?_⟩
    obtain ⟨t, ht⟩ := Option.isSome_iff_exists.mp hsome
    have hread := (isSome_mapM_iff _ fields).mp (by rw [hpairs]; rfl) (name, t)
      (mem_of_getField? ht)
    rw [hofList pairs hpairs name, readField?, ht]
    simpa using hread
  · intro h
    have hread : (fields.mapM fun p => (value p.2).map fun v => (p.1, v)).isSome := by
      refine (isSome_mapM_iff _ fields).mpr fun p hp => ?_
      have hfield := getField?_of_mem hnodup hp
      obtain ⟨hget, hsome⟩ := h p.1
      rw [hget, readField?, hfield] at hsome
      simpa using hsome rfl
    obtain ⟨pairs, hpairs⟩ := Option.isSome_iff_exists.mp hread
    refine ⟨pairs, hpairs, SortedMap.ext_get? fun name => ?_⟩
    rw [hofList pairs hpairs name, (h name).1]

theorem respects_mapOf? {α : Type} {value : Tree → Option α} (hvalue : Respects value) :
    Respects (mapOf? value) := by
  refine respects_of_tables fun fields fields' halike => ?_
  have hfield : ∀ name, readField? value fields name = readField? value fields' name ∧
      (Tree.getField? fields name).isSome = (Tree.getField? fields' name).isSome := by
    intro name
    rcases halike.getField? name with ⟨ha, hb⟩ | ⟨sub, sub', ha, hb, hsub⟩
    · simp only [readField?, ha, hb, and_self]
    · simp only [readField?, ha, hb, Option.bind_some, hvalue _ _ hsub, Option.isSome_some,
        and_self]
  apply Option.ext
  intro m
  rw [mapOf?_eq_some_iff halike.left.nodup, mapOf?_eq_some_iff halike.right.nodup]
  simp only [(hfield _).1, (hfield _).2]

theorem respects_textMap? : Respects textMap? := respects_mapOf? respects_text?

/-! ## Readings of fields -/

section Fields

variable {α : Type} {fields fields' : Fields} (h : Alike (table fields) (table fields'))
  {value : Tree → Option α}

include h

theorem Alike.required (hvalue : Respects value) (name : String) :
    Tree.required fields name value = Tree.required fields' name value := by
  rcases h.getField? name with ⟨ha, hb⟩ | ⟨sub, sub', ha, hb, hsub⟩
  · simp only [Tree.required, ha, hb]
  · simp only [Tree.required, ha, hb, hvalue _ _ hsub]

theorem Alike.withDefault (hvalue : Respects value) (name : String) (default : α) :
    Tree.withDefault fields name value default = Tree.withDefault fields' name value default := by
  rcases h.getField? name with ⟨ha, hb⟩ | ⟨sub, sub', ha, hb, hsub⟩
  · simp only [Tree.withDefault, ha, hb]
  · simp only [Tree.withDefault, ha, hb, hvalue _ _ hsub]

theorem Alike.optional (hvalue : Respects value) (name : String) :
    Tree.optional fields name value = Tree.optional fields' name value :=
  h.withDefault (respects_nullable? hvalue) name none

end Fields

/-- A section whose fields are read respectfully. -/
theorem respects_section {α : Type} {surplus : Surplus} {names : List String}
    {read : Fields → Option α}
    (h : ∀ fields fields', Alike (table fields) (table fields') → read fields = read fields') :
    Respects fun t => (sectionOf? surplus names t).bind read :=
  respects_of_tables fun fields fields' halike => h fields fields' halike

theorem respects_wholeSection {α : Type} {surplus : Surplus} {names : List String}
    {read : Fields → Option α}
    (h : ∀ fields fields', Alike (table fields) (table fields') → read fields = read fields') :
    Respects fun t => (wholeSection? surplus names t).bind read :=
  respects_of_tables fun fields fields' halike => h fields fields' halike

end ClientWiring.Tree
