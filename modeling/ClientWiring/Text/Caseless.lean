/-!
# Text compared without regard to ASCII case

Only the letters `A` to `Z` have a lower case here; every other character stands for itself.
-/

namespace ClientWiring.Text

/-- The text with `A` to `Z` in lower case. -/
def lower (s : String) : String := String.ofList (s.toList.map Char.toLower)

/-- Whether two texts differ at most in the case of ASCII letters. -/
def sameLetters (a b : String) : Bool := lower a == lower b

/-- Whether the text ends in the given letters. -/
def endsWith (s tail : String) : Bool := tail.toList.isSuffixOf s.toList

theorem toList_lower (s : String) : (lower s).toList = s.toList.map Char.toLower := by
  simp [lower]

theorem lower_eq_toLower (s : String) : lower s = s.toLower := by
  have hletters : s.toLower.toList = s.toList.map Char.toLower := String.toList_map
  rw [← String.toList_inj, toList_lower, hletters]

end ClientWiring.Text
