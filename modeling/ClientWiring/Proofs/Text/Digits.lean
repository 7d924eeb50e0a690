import Mathlib.Algebra.Ring.Nat

/-!
# Texts that end in a decimal number

A text and a number written one after the other can be read in two ways only if one of the texts is
the other with digits behind it:

    p ++ a.repr = q ++ b.repr ↔ p = q ∧ a = b ∨ Shifted p a q b ∨ Shifted q b p a
                                                                        (append_repr_eq_iff)

So there is only one way if both texts end in characters that are no digits (append_repr_inj).
-/

namespace ClientWiring.Text.Digits

/-- The first text is the second with digits behind it, and the second number starts with them: the
digits are on the left of the cut in `p`, `a` and on its right in `q`, `b`. -/
def Shifted (p : String) (a : Nat) (q : String) (b : Nat) : Prop :=
  ∃ m, 0 < m ∧ p = q ++ m.repr ∧ b = m * 10 ^ a.repr.length + a

theorem length_toDigits (n : Nat) : (Nat.toDigits 10 n).length = n.repr.length := by
  rw [← Nat.toList_repr, String.length_toList]

theorem toDigits_injective {a b : Nat} (h : Nat.toDigits 10 a = Nat.toDigits 10 b) : a = b := by
  have hvalue := congrArg (fun digits => Nat.ofDigitChars 10 digits 0) h
  simpa using hvalue

/-- A number behind the digits of another one, which is not zero. -/
theorem toDigits_append (m a : Nat) (hm : 0 < m) :
    Nat.toDigits 10 m ++ Nat.toDigits 10 a =
      Nat.toDigits 10 (m * 10 ^ (Nat.toDigits 10 a).length + a) := by
  induction a using Nat.strongRecOn with
  | ind a ih =>
    by_cases ha : a < 10
    · rw [Nat.toDigits_append_toDigits (by decide) hm ha]
      have hone : (Nat.toDigits 10 a).length = 1 := by
        rw [Nat.toDigits_of_lt_base ha]
        rfl
      rw [hone, Nat.pow_one, Nat.mul_comm]
    · have hsplit := Nat.toDigits_append_toDigits (b := 10) (n := a / 10) (d := a % 10)
        (by decide) (by omega) (by omega)
      rw [Nat.div_add_mod] at hsplit
      have hlength : (Nat.toDigits 10 a).length = (Nat.toDigits 10 (a / 10)).length + 1 := by
        rw [← hsplit, List.length_append, Nat.toDigits_of_lt_base (n := a % 10) (by omega)]
        rfl
      have hpos : 0 < m * 10 ^ (Nat.toDigits 10 (a / 10)).length + a / 10 :=
        Nat.add_pos_left (Nat.mul_pos hm (Nat.pow_pos (by decide))) _
      have hvalue : m * 10 ^ ((Nat.toDigits 10 (a / 10)).length + 1) + a =
          10 * (m * 10 ^ (Nat.toDigits 10 (a / 10)).length + a / 10) + a % 10 := by
        rw [Nat.pow_succ, ← Nat.mul_assoc]
        omega
      rw [hlength, hvalue, ← Nat.toDigits_append_toDigits (by decide) hpos (by omega),
        ← ih (a / 10) (by omega), List.append_assoc, hsplit]

/-- The digits of a number that end in those of another one are those of a third. -/
theorem exists_of_toDigits_eq_append {digits : List Char} {a b : Nat}
    (h : Nat.toDigits 10 b = digits ++ Nat.toDigits 10 a) (hne : digits ≠ []) :
    ∃ m, 0 < m ∧ digits = Nat.toDigits 10 m ∧ b = m * 10 ^ (Nat.toDigits 10 a).length + a := by
  have hvalue : b = Nat.ofDigitChars 10 digits 0 * 10 ^ (Nat.toDigits 10 a).length + a := by
    have hread := congrArg (fun cs => Nat.ofDigitChars 10 cs 0) h
    simp only [Nat.ofDigitChars_append, Nat.ofDigitChars_ten_toDigits] at hread
    rw [Nat.ofDigitChars_eq_ofDigitChars_zero, Nat.ofDigitChars_ten_toDigits] at hread
    rw [hread, Nat.mul_comm]
  have hpos : 0 < Nat.ofDigitChars 10 digits 0 := by
    rcases Nat.eq_zero_or_pos (Nat.ofDigitChars 10 digits 0) with hzero | hpos
    · -- digits that stand for zero would not change the number, but they make it longer
      rw [hzero, Nat.zero_mul, Nat.zero_add] at hvalue
      rw [hvalue] at h
      exact absurd (List.self_eq_append_left.mp h) hne
    · exact hpos
  refine ⟨_, hpos, ?_, hvalue⟩
  have hdigits := toDigits_append _ a hpos
  rw [← hvalue, h] at hdigits
  exact (List.append_cancel_right hdigits).symm

theorem append_repr_of_shifted {p q : String} {a b : Nat} (h : Shifted p a q b) :
    p ++ a.repr = q ++ b.repr := by
  obtain ⟨m, hm, rfl, rfl⟩ := h
  rw [String.append_assoc]
  congr 1
  apply String.toList_injective
  rw [String.toList_append, Nat.toList_repr, Nat.toList_repr, Nat.toList_repr,
    toDigits_append m a hm, length_toDigits]

/-- A text whose rest together with the first number makes the second number. -/
theorem eq_or_shifted {p q : String} {a b : Nat} {rest : List Char}
    (hp : p.toList = q.toList ++ rest) (hb : Nat.toDigits 10 b = rest ++ Nat.toDigits 10 a) :
    p = q ∧ a = b ∨ Shifted p a q b := by
  by_cases hrest : rest = []
  · subst hrest
    left
    rw [List.append_nil] at hp
    exact ⟨String.toList_injective hp, (toDigits_injective hb).symm⟩
  · right
    obtain ⟨m, hm, hdigits, hvalue⟩ := exists_of_toDigits_eq_append hb hrest
    refine ⟨m, hm, ?_, ?_⟩
    · apply String.toList_injective
      rw [hp, hdigits, String.toList_append, Nat.toList_repr]
    · rw [hvalue, length_toDigits]

theorem append_repr_eq_iff (p q : String) (a b : Nat) :
    p ++ a.repr = q ++ b.repr ↔ (p = q ∧ a = b) ∨ Shifted p a q b ∨ Shifted q b p a := by
  constructor
  · intro h
    have hlists := congrArg String.toList h
    rw [String.toList_append, String.toList_append, Nat.toList_repr, Nat.toList_repr] at hlists
    rcases List.append_eq_append_iff.mp hlists with ⟨rest, hq, ha⟩ | ⟨rest, hp, hb⟩
    · rcases eq_or_shifted hq ha with ⟨rfl, rfl⟩ | hshift
      · exact .inl ⟨rfl, rfl⟩
      · exact .inr (.inr hshift)
    · rcases eq_or_shifted hp hb with heq | hshift
      · exact .inl heq
      · exact .inr (.inl hshift)
  · rintro (⟨rfl, rfl⟩ | h | h)
    · rfl
    · exact append_repr_of_shifted h
    · exact (append_repr_of_shifted h).symm

/-! ## Texts that do not end in a digit -/

theorem getLast?_append_repr (p : String) (n : Nat) :
    ∃ c, (p ++ n.repr).toList.getLast? = some c ∧ c.isDigit = true := by
  have hne : Nat.toDigits 10 n ≠ [] := Nat.toDigits_ne_nil
  refine ⟨(Nat.toDigits 10 n).getLast hne, ?_, ?_⟩
  · rw [String.toList_append, Nat.toList_repr, List.getLast?_append,
      List.getLast?_eq_some_getLast hne]
    rfl
  · exact Nat.isDigit_of_mem_toDigits (by decide) (by decide) (List.getLast_mem hne)

/-- A text ends in a character that is no digit. -/
def EndsInMark (p : String) : Prop := ∃ c, p.toList.getLast? = some c ∧ c.isDigit = false

theorem endsInMark_append (p : String) {q : String} (hq : EndsInMark q) : EndsInMark (p ++ q) := by
  obtain ⟨c, hlast, hmark⟩ := hq
  refine ⟨c, ?_, hmark⟩
  rw [String.toList_append, List.getLast?_append, hlast]
  rfl

theorem not_shifted_of_endsInMark {p q : String} {a b : Nat} (hp : EndsInMark p) :
    ¬ Shifted p a q b := by
  rintro ⟨m, -, rfl, -⟩
  obtain ⟨c, hlast, hmark⟩ := hp
  obtain ⟨d, hdigits, hdigit⟩ := getLast?_append_repr q m
  rw [hlast] at hdigits
  obtain rfl := Option.some.inj hdigits
  rw [hmark] at hdigit
  cases hdigit

/-- A number behind a mark is read in one way. -/
theorem append_repr_inj {p q : String} {a b : Nat} (hp : EndsInMark p) (hq : EndsInMark q)
    (h : p ++ a.repr = q ++ b.repr) : p = q ∧ a = b := by
  rcases (append_repr_eq_iff p q a b).mp h with hsame | hshift | hshift
  · exact hsame
  · exact absurd hshift (not_shifted_of_endsInMark hp)
  · exact absurd hshift (not_shifted_of_endsInMark hq)

end ClientWiring.Text.Digits
