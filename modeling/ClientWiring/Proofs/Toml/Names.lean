import ClientWiring.Proofs.Tree.Paths
import ClientWiring.Toml.Document

/-!
# Names in documents

Every table of a finished document has each name once.  While a document is read, a table is changed
in two ways only, by a new key at its end and by a new node under a key that it has; finished, these
are the two cases of setting a field:

    toFields (entries.set key node) = setField (toFields entries) key node.toTree     (toFields_set)

So the property holds from line to line, at whatever depth a line changes the tables.
-/

namespace ClientWiring.Toml

open ClientWiring.Tree

namespace Entries

/-! ## Finished tables -/

theorem getField?_toFields (entries : Entries) (key : String) :
    getField? (toFields entries) key = (get? entries key).map Node.toTree := by
  induction entries with
  | nil => rw [toFields]; rfl
  | cons p rest ih =>
    obtain ⟨k, node⟩ := p
    rw [toFields, getField?, get?]
    split
    · rfl
    · exact ih

theorem toFields_set (entries : Entries) (key : String) (node : Node) :
    toFields (set entries key node) = setField (toFields entries) key node.toTree := by
  induction entries with
  | nil => simp only [set, toFields, setField]
  | cons p rest ih =>
    obtain ⟨k, old⟩ := p
    rw [set, toFields, setField]
    split
    · rw [toFields]
    · rw [toFields, ih]

theorem toFields_append_of_new {entries : Entries} {key : String}
    (hnew : get? entries key = none) (node : Node) :
    toFields (entries ++ [(key, node)]) = setField (toFields entries) key node.toTree := by
  have happend : toFields (entries ++ [(key, node)]) =
      toFields entries ++ [(key, node.toTree)] := by
    clear hnew
    induction entries with
    | nil => simp only [List.nil_append, toFields]
    | cons p rest ih => rw [List.cons_append, toFields, ih, toFields, List.cons_append]
  rw [happend, setField_of_none]
  rw [getField?_toFields, hnew]
  rfl

/-! ## Tables under construction -/

/-- Finished, the table has each name once, and so have the tables inside of it. -/
def NamedOnce (entries : Entries) : Prop := (table (toFields entries)).WellNamed

theorem namedOnce_nil : NamedOnce [] := by
  rw [NamedOnce, toFields]
  exact wellNamed_empty

variable {entries : Entries}

theorem NamedOnce.set (h : NamedOnce entries) {node : Node} (hnode : node.toTree.WellNamed)
    (key : String) : NamedOnce (entries.set key node) := by
  rw [NamedOnce, toFields_set]
  exact h.setField hnode key

theorem NamedOnce.append (h : NamedOnce entries) {key : String} (hnew : get? entries key = none)
    {node : Node} (hnode : node.toTree.WellNamed) : NamedOnce (entries ++ [(key, node)]) := by
  rw [NamedOnce, toFields_append_of_new hnew]
  exact h.setField hnode key

theorem wellNamed_tables (items : List Entries) : (Node.tables items).toTree.WellNamed := by
  rw [Node.toTree]
  exact wellNamed_of_fields? rfl

theorem wellNamed_table_iff (form : Form) (inner : Entries) :
    (Node.table form inner).toTree.WellNamed ↔ NamedOnce inner := by
  rw [Node.toTree, NamedOnce]

theorem NamedOnce.of_get? (h : NamedOnce entries) {key : String} {form : Form} {inner : Entries}
    (hget : get? entries key = some (.table form inner)) : NamedOnce inner := by
  have hfield : getField? (toFields entries) key = some (Node.table form inner).toTree := by
    rw [getField?_toFields, hget]
    rfl
  exact (wellNamed_table_iff form inner).mp (WellNamed.of_get? h hfield)

/-- By induction on the path: each step sets the table of one name anew. -/
theorem NamedOnce.alter {dotted : Bool} {change : Form → Entries → Option Entries}
    (hchange : ∀ form inner changed, NamedOnce inner → change form inner = some changed →
      NamedOnce changed)
    {path : List String} {form : Form} {altered : Entries} (h : NamedOnce entries)
    (halter : alter dotted change path form entries = some altered) : NamedOnce altered := by
  induction path generalizing form entries altered with
  | nil => exact hchange form entries altered h halter
  | cons key path ih =>
    rw [Entries.alter] at halter
    split at halter
    · -- a new table
      obtain ⟨next, hnext, hset⟩ := Option.bind_eq_some_iff.mp halter
      obtain ⟨inner, hinner, rfl⟩ := Option.map_eq_some_iff.mp hnext
      cases hset
      exact h.set ((wellNamed_table_iff _ inner).mpr (ih namedOnce_nil hinner)) key
    · next hget =>
      split at halter
      · cases halter
      · obtain ⟨next, hnext, hset⟩ := Option.bind_eq_some_iff.mp halter
        obtain ⟨inner, hinner, rfl⟩ := Option.map_eq_some_iff.mp hnext
        cases hset
        exact h.set ((wellNamed_table_iff _ inner).mpr (ih (h.of_get? hget) hinner)) key
    · obtain ⟨next, hnext, hset⟩ := Option.bind_eq_some_iff.mp halter
      obtain ⟨last, -, rfl⟩ := Option.map_eq_some_iff.mp hnext
      cases hset
      exact h.set (wellNamed_tables _) key
    · cases halter
    · cases halter

theorem NamedOnce.addAt (h : NamedOnce entries) {path : List String} {key : String}
    {value : Tree} (hvalue : value.WellNamed) {form : Form} {added : Entries}
    (hadd : addAt path key value form entries = some added) : NamedOnce added := by
  refine h.alter (fun form inner changed hinner hchange => ?_) hadd
  rw [add] at hchange
  split at hchange
  · cases hchange
  · split at hchange
    · cases hchange
    · next hnew =>
      cases hchange
      exact hinner.append hnew (by rw [Node.toTree]; exact hvalue)

theorem NamedOnce.openTable (h : NamedOnce entries) {key : String} {form : Form}
    {opened : Entries} (hopen : openTable key form entries = some opened) : NamedOnce opened := by
  rw [Entries.openTable] at hopen
  split at hopen
  · next hnew =>
    cases hopen
    exact h.append hnew ((wellNamed_table_iff _ _).mpr namedOnce_nil)
  · next inner hget =>
    cases hopen
    exact h.set ((wellNamed_table_iff _ inner).mpr (h.of_get? hget)) key
  · cases hopen

theorem NamedOnce.openListed (h : NamedOnce entries) {key : String} {form : Form}
    {opened : Entries} (hopen : openListed key form entries = some opened) :
    NamedOnce opened := by
  rw [Entries.openListed] at hopen
  split at hopen
  · next hnew =>
    cases hopen
    exact h.append hnew (wellNamed_tables _)
  · cases hopen
    exact h.set (wellNamed_tables _) key
  · cases hopen

end Entries

/-! ## Values -/

theorem wellNamed_integer {cs : List Char} {t : Tree} (h : integer? cs = some t) :
    t.WellNamed := by
  have hfitting : ∀ {n : Int}, fitting? n = some t → t.WellNamed := by
    intro n hn
    rw [fitting?] at hn
    split at hn
    · cases hn
      exact wellNamed_of_fields? rfl
    · cases hn
  unfold integer? at h
  split at h
  all_goals
    obtain ⟨_, -, h⟩ := Option.bind_eq_some_iff.mp h
    exact hfitting h

theorem wellNamed_special {negative : Bool} {cs : List Char} {t : Tree}
    (h : special? negative cs = some t) : t.WellNamed := by
  unfold special? at h
  split at h
  · cases h
    exact wellNamed_of_fields? rfl
  · cases h
    exact wellNamed_of_fields? rfl
  · cases h

theorem wellNamed_fractional {negative : Bool} {cs : List Char} {t : Tree}
    (h : fractional? negative cs = some t) : t.WellNamed := by
  unfold fractional? at h
  simp only [] at h
  split at h
  · cases h
  · obtain ⟨_, -, h⟩ := Option.bind_eq_some_iff.mp h
    -- with and without a fraction, with and without an exponent
    split at h
    all_goals
      obtain ⟨_, -, h⟩ := Option.bind_eq_some_iff.mp h
      split at h
      all_goals
        obtain ⟨_, -, h⟩ := Option.bind_eq_some_iff.mp h
        split at h
        · cases h
        · cases h
          exact wellNamed_of_fields? rfl

theorem wellNamed_float {cs : List Char} {t : Tree} (h : float? cs = some t) : t.WellNamed := by
  unfold float? at h
  rcases Option.or_eq_some_iff.mp h with hspecial | ⟨-, hfractional⟩
  · exact wellNamed_special hspecial
  · exact wellNamed_fractional hfractional

/-- A date or time has a single field. -/
theorem wellNamed_dateTime {cs : List Char} {t : Tree} (h : dateTime? cs = some t) :
    t.WellNamed := by
  obtain ⟨form, -, rfl⟩ := Option.map_eq_some_iff.mp h
  have hform : (text (String.ofList form)).WellNamed := wellNamed_of_fields? rfl
  exact wellNamed_empty.setField hform dateTimeField

theorem wellNamed_word {cs : List Char} {t : Tree} (h : word? cs = some t) : t.WellNamed := by
  unfold word? at h
  split at h
  · cases h
    exact wellNamed_of_fields? rfl
  · cases h
    exact wellNamed_of_fields? rfl
  · rcases Option.or_eq_some_iff.mp h with hnumber | ⟨-, hdate⟩
    · rcases Option.or_eq_some_iff.mp hnumber with hinteger | ⟨-, hfloat⟩
      · exact wellNamed_integer hinteger
      · exact wellNamed_float hfloat
    · exact wellNamed_dateTime hdate

/-- With so much fuel, each value that is read has each name once in every table. -/
def NamesValues (fuel : Nat) : Prop :=
  ∀ {depth cs t after}, takeNested fuel depth cs = some (t, after) → t.WellNamed

/-- With so much fuel, pairs are read into a table under construction so that it keeps each name
once. -/
def NamesPairs (fuel : Nat) : Prop :=
  ∀ {depth entries cs entries' after}, Entries.NamedOnce entries →
    takePairs fuel depth entries cs = some (entries', after) → Entries.NamedOnce entries'

theorem namesValues_succ {fuel : Nat} (hpairs : NamesPairs fuel) : NamesValues (fuel + 1) := by
  intro depth cs t after h
  unfold takeNested at h
  split at h
  · obtain ⟨_, -, hr⟩ := Option.map_eq_some_iff.mp h
    cases hr
    exact wellNamed_of_fields? rfl
  · obtain ⟨_, -, hr⟩ := Option.map_eq_some_iff.mp h
    cases hr
    exact wellNamed_of_fields? rfl
  · -- a list
    split at h
    · cases h
    · obtain ⟨_, -, hr⟩ := Option.bind_eq_some_iff.mp h
      cases hr
      exact wellNamed_of_fields? rfl
  · -- a table
    split at h
    · cases h
    · split at h
      · cases h
        exact wellNamed_empty
      · obtain ⟨⟨entries, rest⟩, hentries, hr⟩ := Option.bind_eq_some_iff.mp h
        cases hr
        exact hpairs Entries.namedOnce_nil hentries
  · obtain ⟨_, hword, hr⟩ := Option.bind_eq_some_iff.mp h
    cases hr
    exact wellNamed_word hword

theorem namesPairs_succ {fuel : Nat} (hvalues : NamesValues fuel) (hpairs : NamesPairs fuel) :
    NamesPairs (fuel + 1) := by
  intro depth entries cs entries' after hentries h
  unfold takePairs at h
  obtain ⟨⟨path, key, rest⟩, -, h⟩ := Option.bind_eq_some_iff.mp h
  dsimp only at h
  split at h
  · obtain ⟨⟨value, rest⟩, hvalue, h⟩ := Option.bind_eq_some_iff.mp h
    obtain ⟨added, hadd, h⟩ := Option.bind_eq_some_iff.mp h
    have hadded : added.NamedOnce := hentries.addAt (hvalues hvalue) hadd
    split at h
    · exact hpairs hadded h
    · cases h
      exact hadded
    · cases h
  · cases h

/-- By induction on the fuel: values and the pairs of a table contain each other. -/
theorem namesValues_and_namesPairs (fuel : Nat) : NamesValues fuel ∧ NamesPairs fuel := by
  induction fuel with
  | zero =>
    constructor
    · intro depth cs t after h
      rw [takeNested] at h
      cases h
    · intro depth entries cs entries' after _ h
      rw [takePairs] at h
      cases h
  | succ fuel ih => exact ⟨namesValues_succ ih.2, namesPairs_succ ih.1 ih.2⟩

theorem wellNamed_takeValue {cs after : List Char} {t : Tree}
    (h : takeValue cs = some (t, after)) : t.WellNamed := (namesValues_and_namesPairs _).1 h

/-! ## Documents -/

namespace Document

variable {d d' : Document} {path : List String} {key : String}

theorem namedOnce_addPair (hd : d.entries.NamedOnce) {value : Tree} (hvalue : value.WellNamed)
    (h : d.addPair path key value = some d') : d'.entries.NamedOnce := by
  obtain ⟨entries, haltered, hadded⟩ := Option.bind_eq_some_iff.mp h
  cases hadded
  exact hd.alter (fun _ _ _ hinner hchange => hinner.addAt hvalue hchange) haltered

theorem namedOnce_openTable (hd : d.entries.NamedOnce) (h : d.openTable path key = some d') :
    d'.entries.NamedOnce := by
  obtain ⟨entries, haltered, hopened⟩ := Option.bind_eq_some_iff.mp h
  cases hopened
  exact hd.alter (fun _ _ _ hinner hchange => hinner.openTable hchange) haltered

theorem namedOnce_openListed (hd : d.entries.NamedOnce) (h : d.openListed path key = some d') :
    d'.entries.NamedOnce := by
  obtain ⟨entries, haltered, hopened⟩ := Option.bind_eq_some_iff.mp h
  cases hopened
  exact hd.alter (fun _ _ _ hinner hchange => hinner.openListed hchange) haltered

end Document

/-- Whatever a line says, it changes a document in one of the three ways. -/
theorem namedOnce_takeLine {d d' : Document} {cs after : List Char}
    (hd : d.entries.NamedOnce) (h : takeLine d cs = some (d', after)) : d'.entries.NamedOnce := by
  unfold takeLine at h
  split at h
  all_goals
    obtain ⟨⟨path, key, rest⟩, -, h⟩ := Option.bind_eq_some_iff.mp h
    dsimp only at h
    split at h
  · obtain ⟨opened, hopen, h⟩ := Option.bind_eq_some_iff.mp h
    cases h
    exact Document.namedOnce_openListed hd hopen
  · cases h
  · obtain ⟨opened, hopen, h⟩ := Option.bind_eq_some_iff.mp h
    cases h
    exact Document.namedOnce_openTable hd hopen
  · cases h
  · obtain ⟨⟨value, rest⟩, hvalue, h⟩ := Option.bind_eq_some_iff.mp h
    obtain ⟨added, hadd, h⟩ := Option.bind_eq_some_iff.mp h
    cases h
    exact Document.namedOnce_addPair hd (wellNamed_takeValue hvalue) hadd
  · cases h

theorem namedOnce_readLines {fuel : Nat} {d d' : Document} {cs : List Char}
    (hd : d.entries.NamedOnce) (h : readLines fuel d cs = some d') : d'.entries.NamedOnce := by
  induction fuel generalizing d cs with
  | zero => cases h
  | succ fuel ih =>
    rw [readLines] at h
    obtain ⟨cs, -, h⟩ := Option.bind_eq_some_iff.mp h
    split at h
    · cases h
      exact hd
    · obtain ⟨⟨next, rest⟩, hline, h⟩ := Option.bind_eq_some_iff.mp h
      obtain ⟨rest, -, h⟩ := Option.bind_eq_some_iff.mp h
      exact ih (namedOnce_takeLine hd hline) h

/-- The tree of a document has each name once in every table. -/
theorem wellNamed_parse {text : String} {t : Tree} (h : parse text = some t) : t.WellNamed := by
  unfold parse at h
  obtain ⟨d, hread, hd⟩ := Option.bind_eq_some_iff.mp h
  cases hd
  exact namedOnce_readLines Entries.namedOnce_nil hread

end ClientWiring.Toml
