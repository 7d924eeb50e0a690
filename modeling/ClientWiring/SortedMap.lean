/-!
# Text-keyed maps in ascending key order

A map is a list of pairs with strictly ascending keys, compared by code point, so two maps with
the same look-ups are the same map (`ext_get?`).  Every operation is described by what it does to
the look-up `get?`:

    (m.insert k v).get? j       = if j = k then some v else m.get? j        (get?_insert)
    (m.insertIfNew k v).get? j  = if j = k ∧ m.get? k = none then some v …  (get?_insertIfNew)
    (m.erase k).get? j          = if j = k then none else m.get? j          (get?_erase)
    (m.union n).get? j          = (n.get? j).or (m.get? j)                  (get?_union)
    (m.mapValues f).get? j      = (m.get? j).map (f j)                      (get?_mapValues)
-/

namespace ClientWiring

/-- A finite map from text to `α`, held in ascending key order. -/
structure SortedMap (α : Type) where
  pairs : List (String × α)
  ascending : pairs.Pairwise (fun a b => a.1 < b.1)

namespace SortedMap

variable {α β : Type}

/-! ## Operations on pairs -/

/-- The value of the first pair with this key. -/
def lookupPair (key : String) : List (String × α) → Option α
  | [] => none
  | (k, v) :: rest => if key = k then some v else lookupPair key rest

/-- Puts a pair in its place; a pair with the same key is replaced. -/
def insertPair (key : String) (value : α) : List (String × α) → List (String × α)
  | [] => [(key, value)]
  | (k, v) :: rest =>
    if key = k then (key, value) :: rest
    else if key < k then (key, value) :: (k, v) :: rest
    else (k, v) :: insertPair key value rest

/-- Drops the pairs with this key. -/
def erasePair (key : String) : List (String × α) → List (String × α)
  | [] => []
  | (k, v) :: rest => if key = k then erasePair key rest else (k, v) :: erasePair key rest

/-! ## Lemmas on pairs -/

private theorem lt_of_not_lt {a b : String} (hne : a ≠ b) (h : ¬ a < b) : b < a := by
  grind

theorem lookupPair_insertPair (key j : String) (value : α) (pairs : List (String × α)) :
    lookupPair j (insertPair key value pairs) =
      if j = key then some value else lookupPair j pairs := by
  induction pairs with
  | nil => by_cases h : j = key <;> simp [insertPair, lookupPair, h]
  | cons p rest ih =>
    obtain ⟨k, v⟩ := p
    by_cases hk : key = k
    · subst hk
      by_cases h : j = key <;> simp [insertPair, lookupPair, h]
    · by_cases hlt : key < k
      · by_cases h : j = key <;> simp [insertPair, lookupPair, hk, hlt, h]
      · by_cases h : j = key
        · subst h; simp [insertPair, lookupPair, hk, hlt, ih]
        · simp [insertPair, lookupPair, hk, hlt, ih, h]

theorem lookupPair_erasePair (key j : String) (pairs : List (String × α)) :
    lookupPair j (erasePair key pairs) = if j = key then none else lookupPair j pairs := by
  induction pairs with
  | nil => simp [erasePair, lookupPair]
  | cons p rest ih =>
    obtain ⟨k, v⟩ := p
    by_cases hk : key = k
    · subst hk
      by_cases h : j = key
      · subst h; simp [erasePair, ih]
      · simp [erasePair, lookupPair, ih, h]
    · by_cases h : j = key
      · subst h; simp [erasePair, lookupPair, ih, hk]
      · by_cases hj : j = k <;> simp [erasePair, lookupPair, ih, hk, hj, h]
        grind

theorem mem_insertPair {key : String} {value : α} {pairs : List (String × α)} {p : String × α}
    (h : p ∈ insertPair key value pairs) : p = (key, value) ∨ p ∈ pairs := by
  induction pairs with
  | nil => simpa [insertPair] using h
  | cons q rest ih =>
    obtain ⟨k, v⟩ := q
    by_cases hk : key = k
    · simp only [insertPair, if_pos hk, List.mem_cons] at h
      rcases h with h | h
      · exact .inl h
      · exact .inr (List.mem_cons_of_mem _ h)
    · by_cases hlt : key < k
      · simpa [insertPair, hk, hlt] using h
      · simp only [insertPair, if_neg hk, if_neg hlt, List.mem_cons] at h
        rcases h with h | h
        · exact .inr (by simp [h])
        · rcases ih h with h | h
          · exact .inl h
          · exact .inr (List.mem_cons_of_mem _ h)

theorem mem_erasePair {key : String} {pairs : List (String × α)} {p : String × α}
    (h : p ∈ erasePair key pairs) : p ∈ pairs := by
  induction pairs with
  | nil => simp [erasePair] at h
  | cons q rest ih =>
    obtain ⟨k, v⟩ := q
    by_cases hk : key = k
    · simp only [erasePair, if_pos hk] at h
      exact List.mem_cons_of_mem _ (ih h)
    · simp only [erasePair, if_neg hk, List.mem_cons] at h
      rcases h with h | h
      · simp [h]
      · exact List.mem_cons_of_mem _ (ih h)

theorem pairwise_insertPair (key : String) (value : α) {pairs : List (String × α)}
    (h : pairs.Pairwise (fun a b => a.1 < b.1)) :
    (insertPair key value pairs).Pairwise (fun a b => a.1 < b.1) := by
  induction pairs with
  | nil => simp [insertPair]
  | cons q rest ih =>
    obtain ⟨k, v⟩ := q
    obtain ⟨hhead, hrest⟩ := List.pairwise_cons.1 h
    by_cases hk : key = k
    · subst hk
      simp only [insertPair]
      exact List.pairwise_cons.2 ⟨hhead, hrest⟩
    · by_cases hlt : key < k
      · simp only [insertPair, if_neg hk, if_pos hlt]
        refine List.pairwise_cons.2 ⟨?_, h⟩
        intro p hp
        rcases List.mem_cons.1 hp with rfl | hp
        · exact hlt
        · exact String.lt_trans hlt (hhead p hp)
      · simp only [insertPair, if_neg hk, if_neg hlt]
        refine List.pairwise_cons.2 ⟨?_, ih hrest⟩
        intro p hp
        rcases mem_insertPair hp with rfl | hp
        · exact lt_of_not_lt hk hlt
        · exact hhead p hp

theorem pairwise_erasePair (key : String) {pairs : List (String × α)}
    (h : pairs.Pairwise (fun a b => a.1 < b.1)) :
    (erasePair key pairs).Pairwise (fun a b => a.1 < b.1) := by
  induction pairs with
  | nil => simp [erasePair]
  | cons q rest ih =>
    obtain ⟨k, v⟩ := q
    obtain ⟨hhead, hrest⟩ := List.pairwise_cons.1 h
    by_cases hk : key = k
    · simpa [erasePair, hk] using ih hrest
    · simp only [erasePair, if_neg hk]
      exact List.pairwise_cons.2 ⟨fun p hp => hhead p (mem_erasePair hp), ih hrest⟩

/-! ## The map -/

/-- The map without keys. -/
def empty : SortedMap α := ⟨[], .nil⟩

instance : EmptyCollection (SortedMap α) := ⟨empty⟩
instance : Inhabited (SortedMap α) := ⟨empty⟩

theorem ext_pairs {m n : SortedMap α} (h : m.pairs = n.pairs) : m = n := by
  cases m; cases n; cases h; rfl

instance [DecidableEq α] : DecidableEq (SortedMap α) := fun m n =>
  if h : m.pairs = n.pairs then .isTrue (ext_pairs h) else .isFalse fun e => h (e ▸ rfl)

/-- The value at a key. -/
def get? (m : SortedMap α) (key : String) : Option α := lookupPair key m.pairs

/-- Whether the key has a value. -/
def contains (m : SortedMap α) (key : String) : Bool := (m.get? key).isSome

/-- Sets the value at a key. -/
def insert (m : SortedMap α) (key : String) (value : α) : SortedMap α :=
  ⟨insertPair key value m.pairs, pairwise_insertPair key value m.ascending⟩

/-- Sets the value at a key that has none. -/
def insertIfNew (m : SortedMap α) (key : String) (value : α) : SortedMap α :=
  if m.contains key then m else m.insert key value

/-- Sets the value at a key when there is one to set. -/
def insertSome (m : SortedMap α) (key : String) (value : Option α) : SortedMap α :=
  match value with
  | none => m
  | some v => m.insert key v

/-- Removes a key. -/
def erase (m : SortedMap α) (key : String) : SortedMap α :=
  ⟨erasePair key m.pairs, pairwise_erasePair key m.ascending⟩

/-- Inserts pairs one after the other, so that a later pair wins. -/
def insertMany (m : SortedMap α) (pairs : List (String × α)) : SortedMap α :=
  pairs.foldl (fun m p => m.insert p.1 p.2) m

/-- Inserts the pairs of a second map, whose values win. -/
def union (m n : SortedMap α) : SortedMap α := m.insertMany n.pairs

/-- The map of a list of pairs; a later pair wins. -/
def ofList (pairs : List (String × α)) : SortedMap α := empty.insertMany pairs

/-- The keys, ascending. -/
def keys (m : SortedMap α) : List String := m.pairs.map (·.1)

/-- The number of keys. -/
def size (m : SortedMap α) : Nat := m.pairs.length

/-- Whether there is no key. -/
def isEmpty (m : SortedMap α) : Bool := m.pairs.isEmpty

/-- Applies a function to every value. -/
def mapValues (f : String → α → β) (m : SortedMap α) : SortedMap β :=
  ⟨m.pairs.map fun p => (p.1, f p.1 p.2), by
    rw [List.pairwise_map]; exact m.ascending⟩

/-! ## Lemmas -/

@[simp] theorem get?_empty (key : String) : (empty : SortedMap α).get? key = none := rfl

theorem get?_insert (m : SortedMap α) (key j : String) (value : α) :
    (m.insert key value).get? j = if j = key then some value else m.get? j :=
  lookupPair_insertPair key j value m.pairs

theorem get?_erase (m : SortedMap α) (key j : String) :
    (m.erase key).get? j = if j = key then none else m.get? j :=
  lookupPair_erasePair key j m.pairs

theorem get?_insertIfNew (m : SortedMap α) (key j : String) (value : α) :
    (m.insertIfNew key value).get? j =
      if j = key ∧ m.get? key = none then some value else m.get? j := by
  unfold insertIfNew contains
  cases h : m.get? key with
  | none => simp [get?_insert]
  | some v => simp

theorem get?_insertSome (m : SortedMap α) (key j : String) (value : Option α) :
    (m.insertSome key value).get? j = if j = key then value.or (m.get? j) else m.get? j := by
  cases value with
  | none => simp [insertSome]
  | some v => simp [insertSome, get?_insert]

/-- The value of a key in a list of pairs, where the last pair with the key counts. -/
def lastPair (key : String) (pairs : List (String × α)) : Option α :=
  lookupPair key pairs.reverse

theorem lookupPair_append (key : String) (xs ys : List (String × α)) :
    lookupPair key (xs ++ ys) = (lookupPair key xs).or (lookupPair key ys) := by
  induction xs with
  | nil => simp [lookupPair]
  | cons p rest ih =>
    obtain ⟨k, v⟩ := p
    by_cases h : key = k <;> simp [lookupPair, h, ih]

theorem get?_insertMany (m : SortedMap α) (pairs : List (String × α)) (key : String) :
    (m.insertMany pairs).get? key = (lastPair key pairs).or (m.get? key) := by
  induction pairs generalizing m with
  | nil => simp [insertMany, lastPair, lookupPair]
  | cons p rest ih =>
    obtain ⟨k, v⟩ := p
    have step : m.insertMany ((k, v) :: rest) = (m.insert k v).insertMany rest := rfl
    rw [step, ih, get?_insert]
    simp only [lastPair, List.reverse_cons, lookupPair_append]
    cases lookupPair key rest.reverse with
    | some w => simp
    | none => by_cases h : key = k <;> simp [lookupPair, h]

theorem mem_of_lookupPair {key : String} {value : α} {pairs : List (String × α)}
    (h : lookupPair key pairs = some value) : (key, value) ∈ pairs := by
  induction pairs with
  | nil => simp [lookupPair] at h
  | cons p rest ih =>
    obtain ⟨k, v⟩ := p
    by_cases hk : key = k
    · simp [lookupPair, hk] at h; simp [hk, h]
    · simp [lookupPair, hk] at h; simp [ih h]

theorem lookupPair_eq_none {key : String} {pairs : List (String × α)}
    (h : ∀ p ∈ pairs, key ≠ p.1) : lookupPair key pairs = none := by
  induction pairs with
  | nil => rfl
  | cons p rest ih =>
    have hp := h p (by simp)
    simp [lookupPair, hp, ih fun q hq => h q (by simp [hq])]

theorem lookupPair_of_mem {key : String} {value : α} {pairs : List (String × α)}
    (hs : pairs.Pairwise (fun a b => a.1 < b.1)) (h : (key, value) ∈ pairs) :
    lookupPair key pairs = some value := by
  induction pairs with
  | nil => simp at h
  | cons p rest ih =>
    obtain ⟨k, v⟩ := p
    obtain ⟨hhead, hrest⟩ := List.pairwise_cons.1 hs
    rcases List.mem_cons.1 h with h | h
    · cases h; simp [lookupPair]
    · have hlt : k < key := hhead _ h
      have hne : key ≠ k := fun e => String.lt_irrefl _ (e ▸ hlt)
      simp [lookupPair, hne, ih hrest h]

theorem mem_pairs_iff (m : SortedMap α) (key : String) (value : α) :
    (key, value) ∈ m.pairs ↔ m.get? key = some value :=
  ⟨lookupPair_of_mem m.ascending, mem_of_lookupPair⟩

theorem lookupPair_reverse {pairs : List (String × α)}
    (hs : pairs.Pairwise (fun a b => a.1 < b.1)) (key : String) :
    lookupPair key pairs.reverse = lookupPair key pairs := by
  induction pairs with
  | nil => rfl
  | cons p rest ih =>
    obtain ⟨k, v⟩ := p
    obtain ⟨hhead, hrest⟩ := List.pairwise_cons.1 hs
    rw [List.reverse_cons, lookupPair_append, ih hrest]
    by_cases hk : key = k
    · subst hk
      have : lookupPair key rest = none :=
        lookupPair_eq_none fun q hq e => String.lt_irrefl _ (e ▸ hhead q hq)
      simp [this, lookupPair]
    · simp [lookupPair, hk]

theorem get?_union (m n : SortedMap α) (key : String) :
    (m.union n).get? key = (n.get? key).or (m.get? key) := by
  rw [union, get?_insertMany, lastPair, lookupPair_reverse n.ascending]
  rfl

theorem get?_ofList (pairs : List (String × α)) (key : String) :
    (ofList pairs).get? key = lastPair key pairs := by
  simp [ofList, get?_insertMany]

private theorem eq_of_lookupPair {xs ys : List (String × α)}
    (hx : xs.Pairwise (fun a b => a.1 < b.1)) (hy : ys.Pairwise (fun a b => a.1 < b.1))
    (h : ∀ key, lookupPair key xs = lookupPair key ys) : xs = ys := by
  induction xs generalizing ys with
  | nil =>
    cases ys with
    | nil => rfl
    | cons p rest => have := h p.1; simp [lookupPair] at this
  | cons p xs ih =>
    obtain ⟨k, v⟩ := p
    cases ys with
    | nil => have := h k; simp [lookupPair] at this
    | cons q ys =>
      obtain ⟨j, w⟩ := q
      obtain ⟨hxh, hxr⟩ := List.pairwise_cons.1 hx
      obtain ⟨hyh, hyr⟩ := List.pairwise_cons.1 hy
      have hkj : k = j := by
        by_cases hne : k = j
        · exact hne
        · have h1 := mem_of_lookupPair ((h k).symm.trans (by simp [lookupPair]) :
            lookupPair k ((j, w) :: ys) = some v)
          have h2 := mem_of_lookupPair ((h j).trans (by simp [lookupPair]) :
            lookupPair j ((k, v) :: xs) = some w)
          have h3 : (k, v) ∈ ys := by simpa [hne] using h1
          have h4 : (j, w) ∈ xs := by simpa [Ne.symm hne] using h2
          exact absurd (hxh _ h4) (String.lt_asymm (hyh _ h3))
      subst hkj
      have hvw : v = w := by have := h k; simpa [lookupPair] using this
      subst hvw
      have hrest : xs = ys := ih hxr hyr fun key => by
        by_cases hk : key = k
        · subst hk
          rw [lookupPair_eq_none fun q hq e => String.lt_irrefl _ (e ▸ hxh q hq),
            lookupPair_eq_none fun q hq e => String.lt_irrefl _ (e ▸ hyh q hq)]
        · have := h key; simpa [lookupPair, hk] using this
      rw [hrest]

/-- Maps with the same look-ups are equal. -/
theorem ext_get? {m n : SortedMap α} (h : ∀ key, m.get? key = n.get? key) : m = n :=
  ext_pairs (eq_of_lookupPair m.ascending n.ascending h)

/-! ## Keys -/

theorem mem_keys_iff (m : SortedMap α) (key : String) :
    key ∈ m.keys ↔ ∃ value, m.get? key = some value := by
  unfold keys
  rw [List.mem_map]
  constructor
  · rintro ⟨⟨k, v⟩, hmem, rfl⟩
    exact ⟨v, (m.mem_pairs_iff k v).mp hmem⟩
  · rintro ⟨v, hv⟩
    exact ⟨(key, v), (m.mem_pairs_iff key v).mpr hv, rfl⟩

theorem ascending_keys (m : SortedMap α) : m.keys.Pairwise (fun a b => a < b) := by
  unfold keys
  rw [List.pairwise_map]
  exact m.ascending

theorem nodup_keys (m : SortedMap α) : m.keys.Nodup := by
  refine m.ascending_keys.imp ?_
  intro a b hlt heq
  exact String.lt_irrefl a (heq ▸ hlt)

theorem length_keys (m : SortedMap α) : m.keys.length = m.size := List.length_map ..

/-! ## Changed values -/

theorem lookupPair_map (f : String → α → β) (key : String) (pairs : List (String × α)) :
    lookupPair key (pairs.map fun p => (p.1, f p.1 p.2)) = (lookupPair key pairs).map (f key) := by
  induction pairs with
  | nil => rfl
  | cons p rest ih =>
    obtain ⟨k, v⟩ := p
    rw [List.map_cons, lookupPair, lookupPair, ih]
    by_cases h : key = k
    · rw [if_pos h, if_pos h, h, Option.map_some]
    · rw [if_neg h, if_neg h]

theorem get?_mapValues (f : String → α → β) (m : SortedMap α) (key : String) :
    (m.mapValues f).get? key = (m.get? key).map (f key) :=
  lookupPair_map f key m.pairs

theorem mapValues_mapValues {γ : Type} (f : String → α → β) (g : String → β → γ)
    (m : SortedMap α) : (m.mapValues f).mapValues g = m.mapValues fun key v => g key (f key v) := by
  apply ext_get?
  intro key
  rw [get?_mapValues, get?_mapValues, get?_mapValues, Option.map_map]
  rfl

theorem mapValues_insert (f : String → α → β) (m : SortedMap α) (key : String) (value : α) :
    (m.insert key value).mapValues f = (m.mapValues f).insert key (f key value) := by
  apply ext_get?
  intro j
  rw [get?_mapValues, get?_insert, get?_insert, get?_mapValues]
  by_cases h : j = key
  · rw [if_pos h, if_pos h, h, Option.map_some]
  · rw [if_neg h, if_neg h]

theorem mapValues_insertSome (f : String → α → β) (m : SortedMap α) (key : String)
    (value : Option α) :
    (m.insertSome key value).mapValues f = (m.mapValues f).insertSome key (value.map (f key)) := by
  cases value with
  | none => rfl
  | some v => exact mapValues_insert f m key v

theorem mapValues_insertIfNew (f : String → α → β) (m : SortedMap α) (key : String) (value : α) :
    (m.insertIfNew key value).mapValues f = (m.mapValues f).insertIfNew key (f key value) := by
  have hcontains : (m.mapValues f).contains key = m.contains key := by
    rw [contains, get?_mapValues, Option.isSome_map]
    rfl
  unfold insertIfNew
  rw [hcontains]
  cases m.contains key with
  | true => rfl
  | false => exact mapValues_insert f m key value

theorem mapValues_union (f : String → α → β) (m n : SortedMap α) :
    (m.union n).mapValues f = (m.mapValues f).union (n.mapValues f) := by
  apply ext_get?
  intro key
  rw [get?_mapValues, get?_union, get?_union, get?_mapValues, get?_mapValues]
  cases n.get? key <;> rfl

end SortedMap

end ClientWiring
