import ClientWiring.Kafka.Template
import ClientWiring.Proofs.Text.Digits
import Mathlib.Data.List.Nodup

/-!
# When the ids of a factory repeat

A factory issues ids for its own prefix and for those of its callers, and counts them together.  The
ids of a run are the prefixes that were asked for, in order, each with its number behind it:

    f.idsOf calls = (f.prefixesOf calls).mapIdx fun k p => p ++ (f.number k).repr       (idsOf_eq)

No number comes twice in a run of up to 2^64 ids, but nothing marks where the number begins.  So ids
repeat when the digits at the end of one prefix stand in the other id as digits of the number:

    (f.idsOf calls).Nodup ↔ f.Unshifted (f.prefixesOf calls)                   (nodup_idsOf_iff)

Prefixes that do not have digits where another one ends are safe (nodup_idsOf_of_stop).
-/

namespace ClientWiring.Kafka

open Text.Digits

/-- A call that can issue an id: for the id alone, or for a producer that has it. -/
inductive IdCall where
  | next
  | create (around : Surroundings) (own : Option String)

/-- The prefix that comes with a call. -/
def IdCall.own : IdCall → Option String
  | next => none
  | create _ own => own

namespace ProducerFactory

/-- The id of a call, and the factory after it. -/
def call (f : ProducerFactory) : IdCall → Option String × ProducerFactory
  | .next => f.allocate none
  | .create around own => ((f.allocate own).1, (f.create around own).2)

/-- The ids that a run of calls issues. -/
def idsOf (f : ProducerFactory) : List IdCall → List String
  | [] => []
  | c :: rest => (f.call c).1.toList ++ (f.call c).2.idsOf rest

/-- The prefix of the id of a call. -/
def prefixOf (f : ProducerFactory) (c : IdCall) : Option String := c.own.or f.transactionIdPrefix

/-- The prefixes of the ids of a run. -/
def prefixesOf (f : ProducerFactory) (calls : List IdCall) : List String :=
  calls.filterMap f.prefixOf

/-- The number of the id that is issued after `k` others. -/
def number (f : ProducerFactory) (k : Nat) : Nat := (f.issued.toNat + k) % UInt64.size

/-- The factory after one more id. -/
def counted (f : ProducerFactory) : ProducerFactory := { f with issued := f.issued + 1 }

/-! ## What a call is -/

/-- The id of a call for a producer is the one that the producer gets. -/
theorem answer_create (around : Surroundings) (f : ProducerFactory) (own : Option String) :
    (f.create around own).1 =
      f.client.make around [(transactionalIdKey, (f.call (.create around own)).1)]
        .producerRefused := rfl

/-- A template that keeps no producer calls its factory once, with its own prefix. -/
theorem factory_obtain (around : Surroundings) (t : Template) (hnone : t.hasProducer = false) :
    (t.obtain around).2.factory =
      (t.factory.call (.create around t.transactionIdPrefix)).2 := by
  unfold Template.obtain
  rw [if_neg (by simp [hnone])]
  rfl

/-! ## One call -/

theorem call_eq_allocate (f : ProducerFactory) (c : IdCall) : f.call c = f.allocate c.own := by
  cases c with
  | next => rfl
  | create around own => rfl

theorem number_zero (f : ProducerFactory) : f.number 0 = f.issued.toNat :=
  Nat.mod_eq_of_lt f.issued.toNat_lt

/-- A call without a prefix leaves the factory as it is. -/
theorem call_of_none {f : ProducerFactory} {c : IdCall} (h : f.prefixOf c = none) :
    f.call c = (none, f) := by
  unfold prefixOf at h
  rw [call_eq_allocate, allocate, h]

/-- Any other call gives the prefix with the next number, and counts. -/
theorem call_of_some {f : ProducerFactory} {c : IdCall} {p : String}
    (h : f.prefixOf c = some p) : f.call c = (some (p ++ (f.number 0).repr), f.counted) := by
  unfold prefixOf at h
  rw [call_eq_allocate, allocate, h, number_zero]
  rfl

theorem prefixesOf_cons (f : ProducerFactory) (c : IdCall) (rest : List IdCall) :
    f.prefixesOf (c :: rest) = (f.prefixOf c).toList ++ f.prefixesOf rest := by
  unfold prefixesOf
  cases h : f.prefixOf c with
  | none => rw [List.filterMap_cons_none h]; rfl
  | some p => rw [List.filterMap_cons_some h]; rfl

@[simp] theorem prefixesOf_counted (f : ProducerFactory) (calls : List IdCall) :
    f.counted.prefixesOf calls = f.prefixesOf calls := rfl

@[simp] theorem number_counted (f : ProducerFactory) (k : Nat) :
    f.counted.number k = f.number (k + 1) := by
  unfold number counted
  rw [UInt64.toNat_add, UInt64.toNat_one, Nat.mod_add_mod, Nat.add_assoc, Nat.add_comm 1 k]

/-- The ids after the first one are those of the counted factory. -/
theorem mapIdx_number_cons (f : ProducerFactory) (p : String) (rest : List String) :
    (p :: rest).mapIdx (fun k p => p ++ (f.number k).repr) =
      (p ++ (f.number 0).repr) :: rest.mapIdx fun k p => p ++ (f.counted.number k).repr := by
  simp only [List.mapIdx_cons, number_counted]

/-! ## A whole run -/

/-- By induction on the calls, for every factory: each one hands on a counted factory, whose numbers
are the later ones. -/
theorem idsOf_eq (f : ProducerFactory) (calls : List IdCall) :
    f.idsOf calls = (f.prefixesOf calls).mapIdx fun k p => p ++ (f.number k).repr := by
  induction calls generalizing f with
  | nil => rfl
  | cons c rest ih =>
    rw [idsOf, prefixesOf_cons]
    cases h : f.prefixOf c with
    | none =>
      rw [call_of_none h]
      exact ih f
    | some p =>
      rw [call_of_some h]
      have hrest := ih f.counted
      rw [prefixesOf_counted] at hrest
      simp only [Option.toList_some, List.singleton_append, mapIdx_number_cons, hrest]

/-- The counter comes back to a number only after 2^64 ids. -/
theorem eq_of_number_eq {f : ProducerFactory} {i j : Nat} (hi : i < UInt64.size)
    (hj : j < UInt64.size) (h : f.number i = f.number j) : i = j := by
  unfold number at h
  have hlt := f.issued.toNat_lt
  simp only [UInt64.size] at *
  omega

/-- Two ids of a run are the same just when their prefixes are shifted. -/
theorem id_eq_iff {f : ProducerFactory} {i j : Nat} (hi : i < UInt64.size) (hj : j < UInt64.size)
    (hne : i ≠ j) (p q : String) :
    p ++ (f.number i).repr = q ++ (f.number j).repr ↔
      Shifted p (f.number i) q (f.number j) ∨ Shifted q (f.number j) p (f.number i) := by
  rw [append_repr_eq_iff]
  constructor
  · rintro (⟨-, hsame⟩ | h)
    · exact absurd (eq_of_number_eq hi hj hsame) hne
    · exact h
  · exact .inr

/-- No two prefixes of a list are shifted at the numbers that they get. -/
def Unshifted (f : ProducerFactory) (prefixes : List String) : Prop :=
  ∀ i j p q, prefixes[i]? = some p → prefixes[j]? = some q →
    ¬ Shifted p (f.number i) q (f.number j)

theorem nodup_mapIdx_iff_unshifted (f : ProducerFactory) (prefixes : List String)
    (hshort : prefixes.length ≤ UInt64.size) :
    (prefixes.mapIdx fun k p => p ++ (f.number k).repr).Nodup ↔ f.Unshifted prefixes := by
  rw [List.nodup_iff_getElem?_ne_getElem?]
  simp only [List.getElem?_mapIdx, List.length_mapIdx]
  constructor
  · intro hnodup i j p q hp hq hshift
    obtain ⟨hi, -⟩ := List.getElem?_eq_some_iff.mp hp
    obtain ⟨hj, -⟩ := List.getElem?_eq_some_iff.mp hq
    have hsame := append_repr_of_shifted hshift
    rcases Nat.lt_trichotomy i j with hlt | rfl | hlt
    · have hne := hnodup i j hlt hj
      rw [hp, hq] at hne
      exact hne (congrArg some hsame)
    · -- an id is not shifted against itself: its number would be above itself
      obtain ⟨m, hm, -, hvalue⟩ := hshift
      have hpos : 0 < m * 10 ^ (f.number i).repr.length :=
        Nat.mul_pos hm (Nat.pow_pos (by decide))
      omega
    · have hne := hnodup j i hlt hi
      rw [hp, hq] at hne
      exact hne (congrArg some hsame.symm)
  · intro hun i j hlt hj heq
    have hi : i < prefixes.length := Nat.lt_trans hlt hj
    rw [List.getElem?_eq_getElem hi, List.getElem?_eq_getElem hj] at heq
    have hids := Option.some.inj heq
    rcases (id_eq_iff (by omega) (by omega) (by omega) _ _).mp hids with hshift | hshift
    · exact hun i j _ _ (List.getElem?_eq_getElem hi) (List.getElem?_eq_getElem hj) hshift
    · exact hun j i _ _ (List.getElem?_eq_getElem hj) (List.getElem?_eq_getElem hi) hshift

/-- Prefixes are safe when none of them is another one with digits behind it. -/
theorem nodup_idsOf_of_stop (f : ProducerFactory) (calls : List IdCall)
    (hshort : (f.prefixesOf calls).length ≤ UInt64.size)
    (hstop : ∀ p ∈ f.prefixesOf calls, ∀ q ∈ f.prefixesOf calls, ∀ m, 0 < m → p ≠ q ++ m.repr) :
    (f.idsOf calls).Nodup := by
  rw [idsOf_eq, nodup_mapIdx_iff_unshifted f _ hshort]
  rintro i j p q hp hq ⟨m, hm, hpq, -⟩
  exact hstop p (List.mem_of_getElem? hp) q (List.mem_of_getElem? hq) m hm hpq

/-- The exact condition for the ids of a run to be different. -/
theorem nodup_idsOf_iff (f : ProducerFactory) (calls : List IdCall)
    (hshort : (f.prefixesOf calls).length ≤ UInt64.size) :
    (f.idsOf calls).Nodup ↔ f.Unshifted (f.prefixesOf calls) := by
  rw [idsOf_eq]
  exact nodup_mapIdx_iff_unshifted f _ hshort

/-- A factory with the prefix `a`. -/
def lettered : ProducerFactory := { new .assembled .empty with transactionIdPrefix := some "a" }

/-- An id, a producer for the caller's prefix `a1`, and ten more ids. -/
def clashingCalls : List IdCall :=
  .next :: .create (.offline (.ofFiles [])) (some "a1") :: List.replicate 10 .next

/-- The caller's prefix at number 1 is shifted against the factory's at number 11. -/
theorem nodup_idsOf_iff_clashing :
    (lettered.prefixesOf clashingCalls).length ≤ UInt64.size ∧
      ¬ (lettered.idsOf clashingCalls).Nodup := by
  have hshort : (lettered.prefixesOf clashingCalls).length ≤ UInt64.size := by decide
  refine ⟨hshort, fun hnodup => ?_⟩
  exact (nodup_idsOf_iff lettered clashingCalls hshort).mp hnodup 1 11 "a1" "a" rfl rfl
    ⟨1, by decide, by decide, by decide⟩

/-- The two ids are both `a11`, in a run of twelve. -/
theorem clashing_ids_repeat :
    (lettered.idsOf clashingCalls).length = 12 ∧ (lettered.idsOf clashingCalls)[1]? = some "a11" ∧
      (lettered.idsOf clashingCalls)[11]? = some "a11" ∧
      ¬ (lettered.idsOf clashingCalls).Nodup := by
  decide

end ProducerFactory

end ClientWiring.Kafka
