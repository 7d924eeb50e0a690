import ClientWiring.Environment.DotEnv
import ClientWiring.FileSystem
import ClientWiring.Settings.App
import ClientWiring.Toml.Document

/-!
# Loading the configuration

The configuration is laid out of three layers: the file `default.toml`, the file of the profile, and
the environment.  A later layer wins; tables are merged name by name, anything else is replaced.  A
missing file is an empty layer, and a file that cannot be read makes the whole loading fail; only a
file of variables that cannot be read is passed over.  In a section that is given as a row, values
after the last field are ignored.
-/

namespace ClientWiring

/-- Where configuration is loaded from. -/
structure ConfigSource where
  files : FileSystem
  environment : Environment

namespace ConfigSource

/-- The layer of a file. -/
def fileLayer? (fs : FileSystem) (path : String) : Option Tree :=
  match fs.read path with
  | .missing => some (.table [])
  | .unreadable => none
  | .text content => Toml.parse content

/-- The file of the defaults in a directory. -/
def defaultFile (directory : String) : String := directory ++ "/default.toml"

/-- The file of a profile in a directory. -/
def profileFile (directory profile : String) : String := directory ++ "/" ++ profile ++ ".toml"

/-- The three layers, laid over one another. -/
def tree? (s : ConfigSource) (directory profile : String) : Option Tree := do
  let default ← fileLayer? s.files (defaultFile directory)
  let special ← fileLayer? s.files (profileFile directory profile)
  some ((default.merge special).merge s.environment.layer)

/-- The configuration with a given profile. -/
def loadProfile (s : ConfigSource) (directory profile : String) : Option AppSettings := do
  AppSettings.ofTree? .ignored (← s.tree? directory profile)

/-- The file with further variables. -/
def variablesFile : String := ".env"

/-- The variable that names the profile. -/
def profileVariable : String := "APP_ENV"

/-- The source after the variables of the file in the working directory were set. -/
def withVariablesFile (s : ConfigSource) : ConfigSource :=
  match s.files.read variablesFile with
  | .missing | .unreadable => s
  | .text content => { s with environment := s.environment.addFile content }

/-- The profile that the environment names. -/
def profile (s : ConfigSource) : String :=
  (s.environment.get? profileVariable).getD AppSettings.defaultEnv

/-- The configuration with the profile that the environment names, after the variables file. -/
def load (s : ConfigSource) (directory : String) : Option AppSettings :=
  let s := s.withVariablesFile
  s.loadProfile directory s.profile

end ConfigSource

end ClientWiring
