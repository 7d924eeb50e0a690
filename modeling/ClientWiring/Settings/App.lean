import ClientWiring.Settings.Kafka
import ClientWiring.Settings.Mongo
import ClientWiring.Settings.Tls

/-!
# Settings of the application

The whole configuration: a name, which is the only part that must be there, the environment the
application runs in, telemetry, TLS bundles, and the sections `kafka` and `mongo`, without which the
clients are not assembled.
-/

namespace ClientWiring

/-- Settings of the log. -/
structure TelemetrySettings where
  logLevel : String
  logFormat : String
deriving DecidableEq

/-- The whole configuration. -/
structure AppSettings where
  appName : String
  appEnv : String
  telemetry : TelemetrySettings
  tls : TlsSettings
  kafka : Option KafkaSettings
  mongo : Option MongoSettings
deriving DecidableEq

/-! ## Defaults -/

/-- Text from level `info` on. -/
def TelemetrySettings.default : TelemetrySettings := ⟨"info", "text"⟩

/-- The environment that is meant when none is named. -/
def AppSettings.defaultEnv : String := "development"

namespace AppSettings

/-- Whether the application runs in production. -/
def isProduction (s : AppSettings) : Bool := s.appEnv == "production"

/-- Whether the application runs at its developers'. -/
def isDevelopment (s : AppSettings) : Bool := s.appEnv == "development"

end AppSettings

/-! ## Readings -/

open ClientWiring.Tree

/-- The fields of the section `telemetry` in the order of a row. -/
def TelemetrySettings.fieldNames : List String := ["log_level", "log_format"]

/-- The reading of the section `telemetry`. -/
def TelemetrySettings.ofTree? (surplus : Surplus) (t : Tree) : Option TelemetrySettings := do
  let fields ← sectionOf? surplus TelemetrySettings.fieldNames t
  let logLevel ← withDefault fields "log_level" text? "info"
  let logFormat ← withDefault fields "log_format" text? "text"
  some { logLevel, logFormat }

/-- The fields of the whole configuration in the order of a row. -/
def AppSettings.fieldNames : List String :=
  ["app_name", "app_env", "telemetry", "ssl", "kafka", "mongo"]

/-- The reading of the whole configuration. -/
def AppSettings.ofTree? (surplus : Surplus) (t : Tree) : Option AppSettings := do
  let fields ← wholeSection? surplus AppSettings.fieldNames t
  let appName ← required fields "app_name" text?
  let appEnv ← withDefault fields "app_env" text? AppSettings.defaultEnv
  let telemetry ← withDefault fields "telemetry" (TelemetrySettings.ofTree? surplus) .default
  let tls ← withDefault fields "ssl" (TlsSettings.ofTree? surplus) .default
  let kafka ← optional fields "kafka" (KafkaSettings.ofTree? surplus)
  let mongo ← optional fields "mongo" (MongoSettings.ofTree? surplus)
  some { appName, appEnv, telemetry, tls, kafka, mongo }

/-! ## Texts for people -/

open Inspect

instance : Inspect TelemetrySettings := ⟨fun s => record "TelemetryConfig"
  [field "log_level" (inspect s.logLevel), field "log_format" (inspect s.logFormat)]⟩

instance : Inspect AppSettings := ⟨fun s => record "AppConfig"
  [field "app_name" (inspect s.appName), field "app_env" (inspect s.appEnv),
   field "telemetry" (inspect s.telemetry), field "ssl" (inspect s.tls),
   field "kafka" (inspect s.kafka), field "mongo" (inspect s.mongo)]⟩

end ClientWiring
