import ClientWiring.Environment.Layer
import ClientWiring.Proofs.Tree.Overlay

/-!
# Names in the layer of variables

A table in the value of a variable is built by setting one field after the other, so it has each name
once, and so has the layer: it is laid out of the paths of single variables.
-/

namespace ClientWiring.Environment

open ClientWiring.Tree

/-- Setting fields one after the other keeps names apart. -/
theorem wellNamed_foldl_setField {pairs : List (String × Tree)}
    (hpairs : ∀ p ∈ pairs, p.2.WellNamed) {fields : Fields} (h : (table fields).WellNamed) :
    (table (pairs.foldl (fun fs p => setField fs p.1 p.2) fields)).WellNamed := by
  induction pairs generalizing fields with
  | nil => exact h
  | cons p pairs ih =>
    obtain ⟨hp, hrest⟩ := List.forall_mem_cons.mp hpairs
    exact ih hrest (h.setField hp p.1)

theorem wellNamed_plain (cs : List Char) : (plain cs).WellNamed := by
  unfold plain
  dsimp only
  split
  · exact wellNamed_of_fields? rfl
  · split
    · exact wellNamed_of_fields? rfl
    · exact wellNamed_of_fields? rfl

/-- With so much fuel, each value that is read has each name once in every table. -/
def NamesValues (fuel : Nat) : Prop :=
  ∀ {cs t after}, takeValue fuel cs = some (t, after) → t.WellNamed

/-- With so much fuel, so have the values of all pairs that are read. -/
def NamesPairs (fuel : Nat) : Prop :=
  ∀ {cs pairs after}, takePairs fuel cs = some (pairs, after) → ∀ p ∈ pairs, p.2.WellNamed

theorem namesValues_succ {fuel : Nat} (hpairs : NamesPairs fuel) : NamesValues (fuel + 1) := by
  intro cs t after h
  unfold takeValue at h
  dsimp only at h
  split at h
  · cases h
    exact wellNamed_of_fields? rfl
  · cases h
    exact wellNamed_of_fields? rfl
  · -- a table
    obtain ⟨⟨pairs, rest⟩, hread, h⟩ := Option.bind_eq_some_iff.mp h
    cases h
    exact wellNamed_foldl_setField (hpairs hread) wellNamed_empty
  · -- a list
    obtain ⟨_, -, h⟩ := Option.bind_eq_some_iff.mp h
    cases h
    exact wellNamed_of_fields? rfl
  · obtain ⟨_, -, h⟩ := Option.bind_eq_some_iff.mp h
    cases h
    exact wellNamed_of_fields? rfl
  · split at h
    · cases h
      exact wellNamed_of_fields? rfl
    · cases h
  · cases h
    exact wellNamed_plain _

theorem namesPairs_succ {fuel : Nat} (hvalues : NamesValues fuel) (hpairs : NamesPairs fuel) :
    NamesPairs (fuel + 1) := by
  intro cs pairs after h
  unfold takePairs at h
  split at h
  · cases h
  · cases h
    exact fun p hp => nomatch hp
  · next hfuel _ =>
    cases hfuel
    obtain ⟨⟨key, rest⟩, -, h⟩ := Option.bind_eq_some_iff.mp h
    dsimp only at h
    split at h
    · obtain ⟨⟨value, rest⟩, hvalue, h⟩ := Option.bind_eq_some_iff.mp h
      have hsub : value.WellNamed := hvalues hvalue
      split at h
      · obtain ⟨⟨others, rest⟩, hothers, h⟩ := Option.bind_eq_some_iff.mp h
        cases h
        exact List.forall_mem_cons.mpr ⟨hsub, hpairs hothers⟩
      · cases h
        exact List.forall_mem_singleton.mpr hsub
      · cases h
    · cases h

/-- By induction on the fuel: values and the pairs of a table contain each other. -/
theorem namesValues_and_namesPairs (fuel : Nat) : NamesValues fuel ∧ NamesPairs fuel := by
  induction fuel with
  | zero =>
    constructor
    · intro cs t after h
      rw [takeValue] at h
      cases h
    · intro cs pairs after h
      rw [takePairs] at h
      cases h
  | succ fuel ih => exact ⟨namesValues_succ ih.2, namesPairs_succ ih.1 ih.2⟩

theorem wellNamed_parseValue (text : String) : (parseValue text).WellNamed := by
  unfold parseValue
  split
  · next hvalue => exact (namesValues_and_namesPairs _).1 hvalue
  · exact wellNamed_of_fields? rfl

/-- The layer of the variables has each name once in every table. -/
theorem wellNamed_layer (e : Environment) : e.layer.WellNamed := by
  refine wellNamed_foldl_merge (fun t ht => ?_) wellNamed_empty
  obtain ⟨v, -, hv⟩ := List.mem_filterMap.mp ht
  obtain ⟨path, -, rfl⟩ := Option.map_eq_some_iff.mp hv
  exact (wellNamed_parseValue v.2).nest path

end ClientWiring.Environment
