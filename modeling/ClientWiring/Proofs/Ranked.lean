import ClientWiring.Ranked
import Mathlib.Logic.ExistsUnique

/-!
# Ascending rank, ties as registered

Two lists have the same ties when the items of each rank are the same and stand in the same order;
such lists are permutations of each other                                      (SameTies.perm).  A
list has exactly one arrangement that ascends in rank and keeps its ties (existsUnique_inRankOrder),
and `byRank` finds it:

    InRankOrder rank registered ordered ↔ ordered = byRank rank registered   (inRankOrder_iff)

So `byRank` cannot tell lists with the same ties apart                 (SameTies.byRank_eq).
-/

namespace ClientWiring

variable {α : Type} {rank : α → Int} {xs ys : List α}

/-- The items of each rank are the same in both lists, in the same order. -/
def SameTies (rank : α → Int) (xs ys : List α) : Prop :=
  ∀ k, xs.filter (rank · = k) = ys.filter (rank · = k)

/-- An arrangement in ascending rank in which items of one rank stand as they were registered. -/
structure InRankOrder (rank : α → Int) (registered ordered : List α) : Prop where
  ascending : ordered.Pairwise fun a b => rank a ≤ rank b
  ties : SameTies rank registered ordered

namespace SameTies

theorem symm (h : SameTies rank xs ys) : SameTies rank ys xs := fun k => (h k).symm

theorem trans {zs : List α} (hxy : SameTies rank xs ys) (hyz : SameTies rank ys zs) :
    SameTies rank xs zs := fun k => (hxy k).trans (hyz k)

/-- Each item of one list is in the other. -/
theorem mem (h : SameTies rank xs ys) {a : α} (ha : a ∈ xs) : a ∈ ys := by
  have hfilter : a ∈ xs.filter (rank · = rank a) := List.mem_filter.mpr ⟨ha, by simp⟩
  rw [h] at hfilter
  exact (List.mem_filter.mp hfilter).1

/-- Heads of one rank are equal, and what follows them has the same ties. -/
theorem uncons {a b : α} (h : SameTies rank (a :: xs) (b :: ys)) (hrank : rank a = rank b) :
    a = b ∧ SameTies rank xs ys := by
  have hhead := h (rank a)
  simp only [List.filter_cons, hrank, decide_true, if_true] at hhead
  obtain ⟨rfl, -⟩ := List.cons.inj hhead
  refine ⟨rfl, fun k => ?_⟩
  have hk := h k
  simp only [List.filter_cons] at hk
  split at hk
  · exact (List.cons.inj hk).2
  · exact hk

end SameTies

/-- The head of an ascending list has the least rank. -/
theorem rank_head_le {a b : α} (hxs : (a :: xs).Pairwise fun a b => rank a ≤ rank b)
    (hb : b ∈ a :: xs) : rank a ≤ rank b := by
  cases hb with
  | head => exact Int.le_refl _
  | tail _ hb => exact List.rel_of_pairwise_cons hxs hb

/-- Ascending lists with the same ties are equal: their heads are in both lists, so they have the
same rank, and so they are the first of the items of that rank. -/
theorem eq_of_ascending (hxs : xs.Pairwise fun a b => rank a ≤ rank b)
    (hys : ys.Pairwise fun a b => rank a ≤ rank b) (h : SameTies rank xs ys) : xs = ys := by
  induction xs generalizing ys with
  | nil =>
    cases ys with
    | nil => rfl
    | cons b ys => exact absurd (h.symm.mem List.mem_cons_self) List.not_mem_nil
  | cons a xs ih =>
    cases ys with
    | nil => exact absurd (h.mem List.mem_cons_self) List.not_mem_nil
    | cons b ys =>
      have hab : rank a ≤ rank b := rank_head_le hxs (h.symm.mem List.mem_cons_self)
      have hba : rank b ≤ rank a := rank_head_le hys (h.mem List.mem_cons_self)
      obtain ⟨rfl, htail⟩ := h.uncons (Int.le_antisymm hab hba)
      rw [ih hxs.of_cons hys.of_cons htail]

/-! ## The arrangement that is found -/

theorem ascending_byRank (rank : α → Int) (xs : List α) :
    (byRank rank xs).Pairwise fun a b => rank a ≤ rank b := by
  have hsorted : (byRank rank xs).Pairwise fun a b => decide (rank a ≤ rank b) :=
    List.pairwise_mergeSort (by simp only [decide_eq_true_eq]; omega) (by simp; omega) xs
  exact hsorted.imp of_decide_eq_true

/-- The items of one rank are already in ascending rank, so they are a sublist of the sorted list,
and there are no others of their rank in it. -/
theorem sameTies_byRank (rank : α → Int) (xs : List α) : SameTies rank xs (byRank rank xs) := by
  intro k
  have hperm : (byRank rank xs).Perm xs := byRank_perm rank xs
  have htied : (xs.filter (rank · = k)).Pairwise fun a b => decide (rank a ≤ rank b) := by
    refine List.pairwise_of_forall_mem_list fun a ha b hb => ?_
    simp only [List.mem_filter, decide_eq_true_eq] at ha hb ⊢
    omega
  have hsub : (xs.filter (rank · = k)).Sublist (byRank rank xs) :=
    List.sublist_mergeSort (by simp only [decide_eq_true_eq]; omega) (by simp; omega) htied
      List.filter_sublist
  have hfiltered := hsub.filter (rank · = k)
  rw [List.filter_filter] at hfiltered
  simp only [Bool.and_self] at hfiltered
  exact hfiltered.eq_of_length (hperm.filter _).length_eq.symm

theorem inRankOrder_byRank (rank : α → Int) (xs : List α) :
    InRankOrder rank xs (byRank rank xs) :=
  ⟨ascending_byRank rank xs, sameTies_byRank rank xs⟩

/-- The one arrangement in ascending rank with ties as registered. -/
theorem inRankOrder_iff (rank : α → Int) (registered ordered : List α) :
    InRankOrder rank registered ordered ↔ ordered = byRank rank registered := by
  constructor
  · rintro ⟨hascending, hties⟩
    exact eq_of_ascending hascending (ascending_byRank rank registered)
      (hties.symm.trans (sameTies_byRank rank registered))
  · rintro rfl
    exact inRankOrder_byRank rank registered

theorem existsUnique_inRankOrder (rank : α → Int) (registered : List α) :
    ∃! ordered, InRankOrder rank registered ordered :=
  ⟨_, inRankOrder_byRank rank registered, fun ordered h => (inRankOrder_iff _ _ ordered).mp h⟩

/-- Two items of rank 2 stay in their order behind one of rank 1. -/
example : byRank Prod.fst [(2, 'a'), (1, 'b'), (2, 'c')] = [(1, 'b'), (2, 'a'), (2, 'c')] := by
  cbv

/-- Lists with the same ties are arranged alike. -/
theorem SameTies.byRank_eq (h : SameTies rank xs ys) : byRank rank xs = byRank rank ys :=
  eq_of_ascending (ascending_byRank rank xs) (ascending_byRank rank ys)
    (((sameTies_byRank rank xs).symm.trans h).trans (sameTies_byRank rank ys))

/-- Lists with the same ties are permutations of each other. -/
theorem SameTies.perm (h : SameTies rank xs ys) : xs.Perm ys :=
  (byRank_perm rank xs).symm.trans (h.byRank_eq ▸ byRank_perm rank ys)

end ClientWiring
