import ClientWiring.Kafka.Client
import ClientWiring.Settings.Kafka

/-!
# Where the clients connect to

An endpoint is a list of servers with the security protocol and TLS bundle for them.  Every role has
one; what a role does not set is taken from the common endpoint, each field on its own.  All bundles
that are named have to be known, whether they are used or not.
-/

namespace ClientWiring.Kafka

/-- The roles of Kafka clients. -/
inductive Role where
  | consumer
  | producer
  | admin
  | streams
deriving DecidableEq, Repr

/-- The settings of a role. -/
def Role.settings (s : KafkaSettings) : Role → RoleSettings
  | .consumer => s.consumer.role
  | .producer => s.producer.role
  | .admin => s.admin.role
  | .streams => s.streams.role

/-- Servers, and how to talk to them. -/
structure Endpoint where
  servers : List String
  protocol : Option String
  bundle : Option Tls.Bundle
deriving DecidableEq

/-- The servers as one text. -/
def Endpoint.joined (e : Endpoint) : String := Client.joinServers e.servers

/-- The endpoints of all roles, and the one that is common to them. -/
structure Endpoints where
  common : Endpoint
  consumer : Endpoint
  producer : Endpoint
  admin : Endpoint
  streams : Endpoint
deriving DecidableEq

namespace Endpoints

/-- The endpoint of a role. -/
def of (e : Endpoints) : Role → Endpoint
  | .consumer => e.consumer
  | .producer => e.producer
  | .admin => e.admin
  | .streams => e.streams

/-- Every role connects to the common endpoint. -/
def uniform (common : Endpoint) : Endpoints := ⟨common, common, common, common, common⟩

/-- The endpoint of a role over the common one. -/
def ofRole (registry : Option Tls.Registry) (common : Endpoint) (s : RoleSettings) :
    Except AppError Endpoint :=
  match Tls.resolveOptional registry s.bundle with
  | .error e => .error e
  | .ok bundle =>
    .ok { servers := s.bootstrapServers.getD common.servers
          protocol := s.securityProtocol.or common.protocol
          bundle := bundle.or common.bundle }

/-- The common endpoint. -/
def commonOfSettings (registry : Option Tls.Registry) (s : KafkaSettings) :
    Except AppError Endpoint :=
  match Tls.resolveOptional registry s.bundle with
  | .error e => .error e
  | .ok bundle => .ok ⟨s.bootstrapServers, s.securityProtocol, bundle⟩

/-- The endpoints that settings describe.  Bundles are looked up for the common endpoint first and
then for consumer, producer, admin and streams. -/
def ofSettings (registry : Option Tls.Registry) (s : KafkaSettings) :
    Except AppError Endpoints := do
  let common ← commonOfSettings registry s
  let consumer ← ofRole registry common (Role.consumer.settings s)
  let producer ← ofRole registry common (Role.producer.settings s)
  let admin ← ofRole registry common (Role.admin.settings s)
  let streams ← ofRole registry common (Role.streams.settings s)
  .ok { common, consumer, producer, admin, streams }

end Endpoints

/-- Connects a client to an endpoint: the servers are always replaced, the protocol only by one that
is not empty, the bundle only if there is one. -/
def Client.connect (c : Client) (e : Endpoint) : Client :=
  ((c.set serversKey e.joined).setProtocol e.protocol).useBundle e.bundle

end ClientWiring.Kafka
