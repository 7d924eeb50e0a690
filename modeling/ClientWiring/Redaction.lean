import ClientWiring.Inspect
import ClientWiring.Text.Caseless

/-!
# Entries that hold credentials

An entry is sensitive if its key ends in `password` or `secret`, or if its value is known to contain
credentials; the case of ASCII letters does not matter.  Where entries are shown, the value of a
sensitive one is replaced.  Main statement: maps that agree up to the values of sensitive keys look
the same (`inspectEntries_eq`).
-/

namespace ClientWiring.Redaction

/-- What is shown in the place of a sensitive value. -/
def mask : String := "[REDACTED]"

/-- Keys whose values contain credentials. -/
def credentialKeys : List String := ["sasl.jaas.config", "sasl.oauthbearer.config"]

/-- Whether the value of a key must not be shown. -/
def isSensitive (key : String) : Bool :=
  let key := Text.lower key
  Text.endsWith key "password" || Text.endsWith key "secret" || credentialKeys.contains key

/-- The value that is shown for a key. -/
def shown (key value : String) : String := if isSensitive key then mask else value

/-- The text of entries in which sensitive values are replaced. -/
def inspectEntries (entries : SortedMap String) : String := inspect (entries.mapValues shown)

/-- Entries that agree up to the values of sensitive keys look the same. -/
theorem inspectEntries_eq {m n : SortedMap String}
    (h : m.mapValues shown = n.mapValues shown) : inspectEntries m = inspectEntries n := by
  simp [inspectEntries, h]

end ClientWiring.Redaction
