import Mathlib.Data.List.Basic
import Mathlib.Data.List.TakeWhile

/-!
# Cutting at a mark

A text is cut at a mark: at the first one, before which there is none, or at the last one, behind which
there is none.  Either cut can be made in one way only.  What is behind the last mark is the last of the
pieces between marks                                                       (reverse_takeWhile_reverse).
-/

namespace ClientWiring.Text

/-- A text with a mark in it can be cut at the last one. -/
theorem exists_last_mark {mark : Char} {cs : List Char} (h : mark ∈ cs) :
    ∃ front back, cs = front ++ mark :: back ∧ mark ∉ back := by
  obtain ⟨back, front, hcut, hback⟩ := List.eq_append_cons_of_mem (List.mem_reverse.mpr h)
  refine ⟨front.reverse, back.reverse, ?_, by simpa using hback⟩
  rw [← List.reverse_reverse cs, hcut]
  simp

theorem splitOn_of_notMem {mark : Char} {cs : List Char} (h : mark ∉ cs) :
    cs.splitOn mark = [cs] := by
  have hparts : ∀ part ∈ [cs], mark ∉ part := List.forall_mem_singleton.mpr h
  simpa using List.splitOn_intercalate mark hparts (List.cons_ne_nil _ _)

/-- Read from its end, a text has its last piece before the first mark. -/
theorem reverse_takeWhile_reverse (mark : Char) (cs : List Char) :
    (cs.reverse.takeWhile (· ≠ mark)).reverse = (cs.splitOn mark).getLastD [] := by
  have hpiece : ∀ {piece : List Char}, mark ∉ piece →
      ∀ c ∈ piece.reverse, decide (c ≠ mark) = true := by
    intro piece hpiece c hc
    exact decide_eq_true fun e => hpiece (e ▸ List.mem_reverse.mp hc)
  by_cases h : mark ∈ cs
  · obtain ⟨front, back, rfl, hback⟩ := exists_last_mark h
    have hreverse : (front ++ mark :: back).reverse = back.reverse ++ mark :: front.reverse := by
      simp
    rw [hreverse, List.takeWhile_append_of_pos (hpiece hback),
      List.takeWhile_cons_of_neg (by simp), List.append_nil, List.reverse_reverse,
      List.splitOn_append_cons_self, splitOn_of_notMem hback, List.getLastD_concat]
  · rw [List.takeWhile_eq_self_iff.mpr (hpiece h), List.reverse_reverse, splitOn_of_notMem h]
    rfl

/-- The first mark of a text is where it is cut. -/
theorem append_mark_inj {mark : Char} {front front' back back' : List Char} (hfront : mark ∉ front)
    (hfront' : mark ∉ front') (h : front ++ mark :: back = front' ++ mark :: back') :
    front = front' ∧ back = back' := by
  rcases List.append_eq_append_iff.mp h with ⟨more, hmore, hrest⟩ | ⟨more, hmore, hrest⟩
  · cases more with
    | nil => exact ⟨by simpa using hmore.symm, by simpa using hrest⟩
    | cons c more =>
      obtain ⟨rfl, -⟩ := List.cons.inj hrest
      exact absurd (hmore ▸ List.mem_append_right front (List.mem_cons_self ..)) hfront'
  · cases more with
    | nil => exact ⟨by simpa using hmore, by simpa using hrest.symm⟩
    | cons c more =>
      obtain ⟨rfl, -⟩ := List.cons.inj hrest
      exact absurd (hmore ▸ List.mem_append_right front' (List.mem_cons_self ..)) hfront

end ClientWiring.Text
