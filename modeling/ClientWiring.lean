import ClientWiring.Decimal.Layout
import ClientWiring.Decimal.Quick
import ClientWiring.Decimal.Read
import ClientWiring.Decimal.Shortest
import ClientWiring.Double
import ClientWiring.Duration
import ClientWiring.Environment.DotEnv
import ClientWiring.Environment.Layer
import ClientWiring.Environment.Lines
import ClientWiring.Environment.Value
import ClientWiring.Error
import ClientWiring.FileSystem
import ClientWiring.Inspect
import ClientWiring.Json.Ascii
import ClientWiring.Json.Printer
import ClientWiring.Json.Reader
import ClientWiring.Kafka.Amendment
import ClientWiring.Kafka.Assembly
import ClientWiring.Kafka.BackOff
import ClientWiring.Kafka.Client
import ClientWiring.Kafka.ConsumerFactory
import ClientWiring.Kafka.Customizer
import ClientWiring.Kafka.Endpoint
import ClientWiring.Kafka.Entries
import ClientWiring.Kafka.Library
import ClientWiring.Kafka.Listener
import ClientWiring.Kafka.Login
import ClientWiring.Kafka.ProducerFactory
import ClientWiring.Kafka.Report
import ClientWiring.Kafka.RetryTopics
import ClientWiring.Kafka.Template
import ClientWiring.Kafka.TopicAdmin
import ClientWiring.Kafka.TransactionManager
import ClientWiring.Log
import ClientWiring.Mongo.Address
import ClientWiring.Mongo.ClientFactory
import ClientWiring.Mongo.ClientSettings
import ClientWiring.Mongo.Customizer
import ClientWiring.Mongo.Details
import ClientWiring.Mongo.DriverOptions
import ClientWiring.Proofs.Kafka.Endpoints
import ClientWiring.Proofs.Kafka.RoleEntries
import ClientWiring.Proofs.Kafka.Steps
import ClientWiring.Proofs.Kafka.TransactionalIds
import ClientWiring.Proofs.Mongo.AddressParts
import ClientWiring.Proofs.Mongo.RoundTrip
import ClientWiring.Proofs.Text.Digits
import ClientWiring.Proofs.Text.Percent
import ClientWiring.Ranked
import ClientWiring.Redaction
import ClientWiring.Secret
import ClientWiring.Settings.App
import ClientWiring.Settings.Kafka
import ClientWiring.Settings.Load
import ClientWiring.Settings.Mongo
import ClientWiring.Settings.Summary
import ClientWiring.Settings.Tls
import ClientWiring.SortedMap
import ClientWiring.Startup.Bootstrap
import ClientWiring.Startup.Counters
import ClientWiring.Startup.Infrastructure
import ClientWiring.Startup.LogFormat
import ClientWiring.Text.Alphanumeric
import ClientWiring.Text.Blank
import ClientWiring.Text.Cased
import ClientWiring.Text.Caseless
import ClientWiring.Text.Hex
import ClientWiring.Text.Hidden
import ClientWiring.Text.Percent
import ClientWiring.Text.Quoted
import ClientWiring.Text.Ranges
import ClientWiring.Text.SmallLetters
import ClientWiring.Text.Utf8
import ClientWiring.Tls.Bundle
import ClientWiring.Tls.Registry
import ClientWiring.Toml.Document
import ClientWiring.Toml.Node
import ClientWiring.Toml.Number
import ClientWiring.Toml.Text
import ClientWiring.Toml.Value
import ClientWiring.Tree.Basic
import ClientWiring.Tree.Build
import ClientWiring.Tree.Section
import ClientWiring.Tree.Strict
import ClientWiring.Proofs.Kafka.RetryChain
import ClientWiring.Proofs.Text.Quoted
import ClientWiring.Proofs.Text.Shown
import ClientWiring.Proofs.Secrecy.Entries
import ClientWiring.Proofs.Secrecy.Settings
import ClientWiring.Proofs.Secrecy.Clients
import ClientWiring.Proofs.Secrecy.Assembly
import ClientWiring.Proofs.Kafka.Suppression
import ClientWiring.Proofs.Startup.Suppression
import ClientWiring.Proofs.Kafka.Wiring
import ClientWiring.Proofs.Kafka.Failure
import ClientWiring.Proofs.Startup.Counting
import ClientWiring.Proofs.Mongo.Grammar
import ClientWiring.Proofs.Mongo.Password
import ClientWiring.Proofs.Mongo.Sources
import ClientWiring.Proofs.Tree.Layers
import ClientWiring.Proofs.Settings.Profile
import ClientWiring.Proofs.Kafka.TemplateLife
import ClientWiring.Proofs.Kafka.Numbering
import ClientWiring.Proofs.Kafka.RetryNames
import ClientWiring.Proofs.Mongo.Unambiguous
import ClientWiring.Proofs.Tree.Paths
import ClientWiring.Proofs.Toml.Names
import ClientWiring.Proofs.Tree.Alike
import ClientWiring.Proofs.Environment.Names
import ClientWiring.Proofs.Settings.Content
import ClientWiring.Proofs.Settings.Layering
import ClientWiring.Proofs.Tls.Lookup
import ClientWiring.Proofs.Tls.Material
import ClientWiring.Proofs.Kafka.Expansion
import ClientWiring.Proofs.Mongo.Customization
import ClientWiring.Proofs.Mongo.Overlay
import ClientWiring.Proofs.Mongo.BundleSettings
import ClientWiring.Proofs.Kafka.Fallback
import ClientWiring.Proofs.Kafka.Connecting
import ClientWiring.Proofs.Customizers
import ClientWiring.Proofs.Settings.EmptySections
import ClientWiring.Proofs.Kafka.LoginEntries
import ClientWiring.Proofs.Kafka.LoginText
import ClientWiring.Proofs.Kafka.LoginUpdates
import ClientWiring.Proofs.Tls.Registration
import ClientWiring.Proofs.Double
import ClientWiring.Proofs.Kafka.Pauses
