import ClientWiring.Redaction
import ClientWiring.Secret

/-!
# Entries up to their secrets

To blank entries is to empty the values of sensitive keys.  Two maps that are the same when blanked
have the same keys and, sensitive keys apart, the same values; and they look the same:

    blanked m = blanked n ↔ ∀ key, both have it or neither, with one value unless it is sensitive
                                                                          (blanked_eq_iff)
    inspectEntries (blanked m) = inspectEntries m                         (inspectEntries_blanked)
-/

namespace ClientWiring

/-- A secret without its content. -/
def Secret.blanked (_ : Secret) : Secret := ⟨""⟩

theorem inspect_secret_blanked (s : Option Secret) : inspect (s.map Secret.blanked) = inspect s := by
  cases s <;> rfl

namespace Redaction

/-- A value, emptied if it must not be shown. -/
def blank (key value : String) : String := if isSensitive key then "" else value

/-- Entries without the values that must not be shown. -/
def blanked (entries : SortedMap String) : SortedMap String := entries.mapValues blank

theorem blank_of_not_sensitive {key : String} (h : isSensitive key = false) (value : String) :
    blank key value = value := by
  rw [blank, h]
  rfl

theorem blank_of_sensitive {key : String} (h : isSensitive key = true) (value : String) :
    blank key value = "" := by
  rw [blank, if_pos h]

theorem blank_blank (key value : String) : blank key (blank key value) = blank key value := by
  cases h : isSensitive key with
  | true => rw [blank_of_sensitive h, blank_of_sensitive h]
  | false => rw [blank_of_not_sensitive h]

/-- What is shown for a key does not tell whether the value was blanked. -/
theorem shown_blank (key value : String) : shown key (blank key value) = shown key value := by
  cases h : isSensitive key with
  | true => rw [shown, shown, if_pos h, if_pos h]
  | false => rw [blank_of_not_sensitive h]

theorem map_blank_of_not_sensitive {key : String} (h : isSensitive key = false)
    (value : Option String) : value.map (blank key) = value := by
  cases value with
  | none => rfl
  | some v => rw [Option.map_some, blank_of_not_sensitive h]

theorem get?_blanked (m : SortedMap String) (key : String) :
    (blanked m).get? key = (m.get? key).map (blank key) :=
  SortedMap.get?_mapValues blank m key

theorem get?_blanked_of_not_sensitive (m : SortedMap String) {key : String}
    (h : isSensitive key = false) : (blanked m).get? key = m.get? key := by
  rw [get?_blanked, map_blank_of_not_sensitive h]

@[simp] theorem blanked_blanked (m : SortedMap String) : blanked (blanked m) = blanked m := by
  unfold blanked
  rw [SortedMap.mapValues_mapValues]
  simp only [blank_blank]

theorem map_blank_eq_iff (key : String) (v w : Option String) :
    v.map (blank key) = w.map (blank key) ↔
      v.isSome = w.isSome ∧ (isSensitive key = false → v = w) := by
  cases h : isSensitive key with
  | true =>
    cases v <;> cases w <;> simp [blank_of_sensitive h]
  | false =>
    rw [map_blank_of_not_sensitive h, map_blank_of_not_sensitive h]
    constructor
    · rintro rfl
      exact ⟨rfl, fun _ => rfl⟩
    · rintro ⟨-, hsame⟩
      exact hsame rfl

/-- Blanked maps are the same just when the maps differ at most in values of sensitive keys. -/
theorem blanked_eq_iff (m n : SortedMap String) :
    blanked m = blanked n ↔ ∀ key, (m.get? key).isSome = (n.get? key).isSome ∧
      (isSensitive key = false → m.get? key = n.get? key) := by
  constructor
  · intro h key
    rw [← map_blank_eq_iff, ← get?_blanked, ← get?_blanked, h]
  · intro h
    apply SortedMap.ext_get?
    intro key
    rw [get?_blanked, get?_blanked]
    exact (map_blank_eq_iff key _ _).mpr (h key)

/-- Entries look the same with and without the values that must not be shown. -/
theorem inspectEntries_blanked (m : SortedMap String) :
    inspectEntries (blanked m) = inspectEntries m := by
  apply inspectEntries_eq
  rw [blanked, SortedMap.mapValues_mapValues]
  simp only [shown_blank]

end Redaction

end ClientWiring
