import ClientWiring.Inspect
import ClientWiring.Proofs.Text.Quoted

/-!
# What can be read off the text of a map

The text of a map tells the map, whatever stands behind it, since keys and values are quoted.  A
record that ends in a map, with the same fields before it, tells that map:

    inspect m ++ x = inspect n ++ y ↔ m = n ∧ x = y                (inspect_append_inj)
    record name (fields ++ [field label (inspect m)]) ++ x = … ↔ m = n ∧ x = y
                                                                   (record_append_inj)
-/

namespace ClientWiring.Inspect

/-! ## Texts with separators -/

theorem joined_cons_cons (separator first second : String) (rest : List String) :
    joined separator (first :: second :: rest) =
      first ++ separator ++ joined separator (second :: rest) :=
  String.intercalate_cons_cons

/-- What stands before the last one of some texts depends on the others alone. -/
theorem exists_joined_concat (separator : String) (texts : List String) :
    ∃ before, ∀ last, joined separator (texts ++ [last]) = before ++ last := by
  by_cases hnone : texts = []
  · refine ⟨"", fun last => ?_⟩
    rw [hnone, List.nil_append, joined, String.intercalate_singleton, String.empty_append]
  · refine ⟨joined separator texts ++ separator, fun last => ?_⟩
    have hlast : [last] ≠ [] := by simp
    rw [joined, String.intercalate_append_of_ne_nil hnone hlast, String.intercalate_singleton,
      joined]

/-! ## Maps -/

/-- The text of a pair of texts in a map. -/
def pairText (p : String × String) : String := inspect p.1 ++ ": " ++ inspect p.2

/-- The texts of further pairs, and the brace behind them. -/
def closing : List (String × String) → String
  | [] => "\x7d"
  | p :: rest => ", " ++ pairText p ++ closing rest

/-- The text of pairs after the opening brace. -/
def opened : List (String × String) → String
  | [] => "\x7d"
  | p :: rest => pairText p ++ closing rest

theorem joined_pairText (p : String × String) (rest : List (String × String)) :
    joined ", " ((p :: rest).map pairText) ++ "\x7d" = pairText p ++ closing rest := by
  induction rest generalizing p with
  | nil => rw [List.map_singleton, joined, String.intercalate_singleton]; rfl
  | cons q rest ih =>
    rw [List.map_cons, List.map_cons, joined_cons_cons, closing, String.append_assoc,
      ← List.map_cons, ih q, String.append_assoc, String.append_assoc]

theorem inspect_eq_opened (m : SortedMap String) : inspect m = "\x7b" ++ opened m.pairs := by
  have hbraced : inspect m = "\x7b" ++ joined ", " (m.pairs.map pairText) ++ "\x7d" := by
    show braced (m.pairs.map fun p => (inspect p.1, inspect p.2)) = _
    unfold braced
    rw [List.map_map]
    rfl
  rw [hbraced, String.append_assoc, String.append_right_inj]
  cases m.pairs with
  | nil => rfl
  | cons p rest => exact joined_pairText p rest

theorem inspect_text_append_inj {a b x y : String} :
    inspect a ++ x = inspect b ++ y ↔ a = b ∧ x = y :=
  Text.Quoted.quote_append_inj

theorem pairText_append_inj {p q : String × String} {x y : String}
    (h : pairText p ++ x = pairText q ++ y) : p = q ∧ x = y := by
  unfold pairText at h
  simp only [String.append_assoc, inspect_text_append_inj, String.append_right_inj] at h
  obtain ⟨hkey, hvalue, hxy⟩ := h
  exact ⟨Prod.ext hkey hvalue, hxy⟩

/-- By induction on the first pairs: a comma goes on with a pair and a brace ends them. -/
theorem closing_append_inj {ps qs : List (String × String)} {x y : String}
    (h : closing ps ++ x = closing qs ++ y) : ps = qs ∧ x = y := by
  induction ps generalizing qs with
  | nil =>
    cases qs with
    | nil => exact ⟨rfl, (String.append_right_inj _).mp h⟩
    | cons q qs =>
      -- one text goes on with a brace, the other with a comma
      have hchars := congrArg String.toList h
      simp [closing] at hchars
  | cons p ps ih =>
    cases qs with
    | nil =>
      have hchars := congrArg String.toList h
      simp [closing] at hchars
    | cons q qs =>
      simp only [closing, String.append_assoc, String.append_right_inj] at h
      obtain ⟨hpair, hrest⟩ := pairText_append_inj h
      obtain ⟨hpairs, hxy⟩ := ih hrest
      exact ⟨by rw [hpair, hpairs], hxy⟩

theorem pairText_ne_brace (p : String × String) (x y : String) :
    pairText p ++ x ≠ "\x7d" ++ y := by
  intro h
  have hchars := congrArg String.toList h
  rw [pairText, String.append_assoc, String.append_assoc] at hchars
  have hquote := Text.Quoted.toList_quote_append p.1 (": " ++ (inspect p.2 ++ x))
  exact absurd (hquote.symm.trans hchars) (by simp)

theorem opened_append_inj {ps qs : List (String × String)} {x y : String}
    (h : opened ps ++ x = opened qs ++ y) : ps = qs ∧ x = y := by
  cases ps with
  | nil =>
    cases qs with
    | nil => exact ⟨rfl, (String.append_right_inj _).mp h⟩
    | cons q qs =>
      rw [opened, opened, String.append_assoc] at h
      exact absurd h.symm (pairText_ne_brace q _ _)
  | cons p ps =>
    cases qs with
    | nil =>
      rw [opened, opened, String.append_assoc] at h
      exact absurd h (pairText_ne_brace p _ _)
    | cons q qs =>
      rw [opened, opened, String.append_assoc, String.append_assoc] at h
      obtain ⟨hpair, hrest⟩ := pairText_append_inj h
      obtain ⟨hpairs, hxy⟩ := closing_append_inj hrest
      exact ⟨by rw [hpair, hpairs], hxy⟩

/-- A map can be read off its text, whatever follows it. -/
theorem inspect_append_inj {m n : SortedMap String} {x y : String} :
    inspect m ++ x = inspect n ++ y ↔ m = n ∧ x = y := by
  constructor
  · intro h
    rw [inspect_eq_opened, inspect_eq_opened, String.append_assoc, String.append_assoc,
      String.append_right_inj] at h
    obtain ⟨hpairs, hxy⟩ := opened_append_inj h
    exact ⟨SortedMap.ext_pairs hpairs, hxy⟩
  · rintro ⟨rfl, rfl⟩
    rfl

/-! ## Records -/

/-- A record tells the map in its last field. -/
theorem record_append_inj (name : String) (fields : List String) (label : String)
    {m n : SortedMap String} {x y : String} :
    record name (fields ++ [field label (inspect m)]) ++ x =
        record name (fields ++ [field label (inspect n)]) ++ y ↔
      m = n ∧ x = y := by
  obtain ⟨before, hbefore⟩ := exists_joined_concat ", " fields
  unfold record field
  rw [hbefore, hbefore]
  simp only [String.append_assoc, String.append_right_inj, inspect_append_inj]

end ClientWiring.Inspect
