import ClientWiring.Text.Quoted
import Mathlib.Tactic.SplitIfs

/-!
# Quoted text reads back

Every character of a quoted text can be read off its written form, whatever follows, and the quote
that ends the text begins no written form.  So a quoted text says where it ends, and two of them with
anything behind them are the same only if texts and rests are:

    readChar? (escape c ++ rest) = some (c, rest)                      (readChar?_escape)
    quote a ++ x = quote b ++ y ↔ a = b ∧ x = y                        (quote_append_inj)
-/

namespace ClientWiring.Text

/-! ## Hexadecimal numbers -/

namespace Hex

theorem digit?_digitChar : ∀ d, d < 16 → digit? (Nat.digitChar d) = some d := by decide

theorem number?_singleton {c : Char} {d : Nat} (hc : digit? c = some d) :
    number? [c] = some d := by
  simp [number?, hc]

theorem number?_concat {cs : List Char} {c : Char} {n d : Nat} (hcs : number? cs = some n)
    (hc : digit? c = some d) : number? (cs ++ [c]) = some (n * 16 + d) := by
  unfold number? at hcs ⊢
  split at hcs
  · cases hcs
  · rw [if_neg (by simp), List.foldl_append, hcs]
    simp [hc]

/-- By strong induction on the number, whose last digit stands behind the digits of its sixteenth. -/
theorem number?_lowerDigits (n : Nat) : number? (lowerDigits n) = some n := by
  unfold lowerDigits
  induction n using Nat.strongRecOn with
  | ind n ih =>
    rw [Nat.toDigits_eq_if (by decide)]
    split
    · next hsmall => exact number?_singleton (digit?_digitChar n hsmall)
    · next hlarge =>
      have hfront := ih (n / 16) (by omega)
      have hlast := digit?_digitChar (n % 16) (by omega)
      rw [number?_concat hfront hlast, Nat.mul_comm, Nat.div_add_mod]

theorem digitChar_ne_brace : ∀ d, d < 16 → Nat.digitChar d ≠ '\x7d' := by decide

theorem ne_brace_of_mem_lowerDigits (n : Nat) : ∀ c ∈ lowerDigits n, c ≠ '\x7d' := by
  unfold lowerDigits
  induction n using Nat.strongRecOn with
  | ind n ih =>
    intro c hc
    rw [Nat.toDigits_eq_if (by decide)] at hc
    split at hc
    · next hsmall =>
      rw [List.mem_singleton.mp hc]
      exact digitChar_ne_brace n hsmall
    · next hlarge =>
      rcases List.mem_append.mp hc with hfront | hlast
      · exact ih (n / 16) (by omega) c hfront
      · rw [List.mem_singleton.mp hlast]
        exact digitChar_ne_brace (n % 16) (by omega)

end Hex

/-! ## One character -/

namespace Quoted

/-- The character that stands for itself or for a hidden one behind a backslash. -/
def letter (c : Char) : Char :=
  if c = '0' then '\x00'
  else if c = 't' then '\t'
  else if c = 'r' then '\r'
  else if c = 'n' then '\n'
  else c

/-- The character that a written form begins with, and what follows it. -/
def readChar? : List Char → Option (Char × List Char)
  | [] => none
  | '\\' :: 'u' :: '\x7b' :: rest =>
    (Hex.number? (rest.takeWhile (· ≠ '\x7d'))).map fun n =>
      (Char.ofNat n, (rest.dropWhile (· ≠ '\x7d')).drop 1)
  | '\\' :: c :: rest => some (letter c, rest)
  | c :: rest => some (c, rest)

theorem readChar?_cons_of_ne {c : Char} (h : c ≠ '\\') (rest : List Char) :
    readChar? (c :: rest) = some (c, rest) := by
  rw [readChar?]
  · intro rest' hc
    exact absurd hc h
  · intro c' rest' hc
    exact absurd hc h

theorem readChar?_code (n : Nat) (rest : List Char) :
    readChar? ('\\' :: 'u' :: '\x7b' :: (Hex.lowerDigits n ++ '\x7d' :: rest)) =
      some (Char.ofNat n, rest) := by
  have hdigits : ∀ c ∈ Hex.lowerDigits n, decide (c ≠ '\x7d') = true := fun c hc =>
    decide_eq_true (Hex.ne_brace_of_mem_lowerDigits n c hc)
  rw [readChar?, List.takeWhile_append_of_pos hdigits, List.dropWhile_append_of_pos hdigits]
  simp [Hex.number?_lowerDigits]

theorem readChar?_escape (c : Char) (rest : List Char) :
    readChar? (escape c ++ rest) = some (c, rest) := by
  unfold escape
  split_ifs with hnul htab hreturn hline hquote hslash hshown
  · rw [hnul]; rfl
  · rw [htab]; rfl
  · rw [hreturn]; rfl
  · rw [hline]; rfl
  · rw [hquote]; rfl
  · rw [hslash]; rfl
  · exact readChar?_cons_of_ne hslash rest
  · have hcode := readChar?_code c.toNat rest
    rw [Char.ofNat_toNat] at hcode
    simpa using hcode

/-- No written form begins with the quote that ends a text. -/
theorem escape_append_ne_quote (c : Char) (rest tail : List Char) :
    escape c ++ rest ≠ '"' :: tail := by
  intro h
  have hread := readChar?_escape c rest
  rw [h, readChar?_cons_of_ne (by decide)] at hread
  obtain ⟨rfl, -⟩ := Prod.mk.inj (Option.some.inj hread)
  exact absurd h (by simp [escape])

/-! ## A whole text -/

/-- By induction on the first text: the closing quote is met by both or by none. -/
theorem flatMap_escape_append_inj {cs ds x y : List Char}
    (h : cs.flatMap escape ++ '"' :: x = ds.flatMap escape ++ '"' :: y) : cs = ds ∧ x = y := by
  induction cs generalizing ds with
  | nil =>
    cases ds with
    | nil => exact ⟨rfl, List.tail_eq_of_cons_eq h⟩
    | cons d ds =>
      rw [List.flatMap_cons, List.append_assoc] at h
      exact absurd h.symm (escape_append_ne_quote d _ _)
  | cons c cs ih =>
    cases ds with
    | nil =>
      rw [List.flatMap_cons, List.append_assoc] at h
      exact absurd h (escape_append_ne_quote c _ _)
    | cons d ds =>
      rw [List.flatMap_cons, List.flatMap_cons, List.append_assoc, List.append_assoc] at h
      have hread := congrArg readChar? h
      rw [readChar?_escape, readChar?_escape] at hread
      obtain ⟨hchar, hrest⟩ := Prod.mk.inj (Option.some.inj hread)
      obtain ⟨htexts, hxy⟩ := ih hrest
      exact ⟨by rw [hchar, htexts], hxy⟩

theorem toList_quote_append (s x : String) :
    (quote s ++ x).toList = '"' :: (s.toList.flatMap escape ++ '"' :: x.toList) := by
  simp [quote, String.toList_append]

/-- A quoted text can be read off whatever follows it. -/
theorem quote_append_inj {a b x y : String} :
    quote a ++ x = quote b ++ y ↔ a = b ∧ x = y := by
  constructor
  · intro h
    have hchars := congrArg String.toList h
    rw [toList_quote_append, toList_quote_append] at hchars
    obtain ⟨hab, hxy⟩ := flatMap_escape_append_inj (List.tail_eq_of_cons_eq hchars)
    exact ⟨String.toList_inj.mp hab, String.toList_inj.mp hxy⟩
  · rintro ⟨rfl, rfl⟩
    rfl

end Quoted

end ClientWiring.Text
