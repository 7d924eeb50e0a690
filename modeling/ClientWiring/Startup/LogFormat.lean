import ClientWiring.Settings.App
import ClientWiring.Text.Caseless

/-!
# Format of the log

The log is written as text unless the settings ask for JSON; in production it is always JSON.
-/

namespace ClientWiring.Startup

/-- The formats of the log. -/
inductive LogFormat where
  | text
  | json
deriving DecidableEq, Repr

namespace LogFormat

/-- The name of a format. -/
def name : LogFormat → String
  | text => "Text"
  | json => "Json"

/-- The format of a name, whatever the case of its letters; an unknown name means text. -/
def parse (name : String) : LogFormat := if Text.sameLetters name "json" then .json else .text

/-- The format for an application. -/
def ofSettings (s : AppSettings) : LogFormat :=
  if s.isProduction then .json else parse s.telemetry.logFormat

end LogFormat

end ClientWiring.Startup
