import ClientWiring.Settings.Load
import ClientWiring.Startup.Infrastructure
import ClientWiring.Startup.LogFormat

/-!
# Bootstrap of a process

A process loads its configuration, sets up log and counters, and assembles its clients.  The log may
be set up already; counters may not, and then bootstrap fails before anything is assembled.
-/

namespace ClientWiring.Startup

/-- How a process is to start. -/
structure Plan where
  directory : String
  installCounters : Bool
deriving DecidableEq, Repr

/-- Configuration from the directory `config`, and counters. -/
def Plan.default : Plan := ⟨"config", true⟩

/-- Why a process did not start. -/
inductive BootstrapError where
  | configuration
  | assembly (error : AppError)
deriving DecidableEq

/-- A process that is ready. -/
structure Process where
  infrastructure : Infrastructure
  logFormat : LogFormat
  hasCounters : Bool

/-- How bootstrap ended, and what customizers noted. -/
structure Started (ε : Type) where
  answer : Except BootstrapError Process
  notes : List ε

/-- The reason why counters cannot be set up a second time. -/
def countersReason : String := "failed to install exporter as global recorder"

/-- Starts a process in which counters may be set up already. -/
def bootstrap {ε : Type} (source : ConfigSource) (countersInUse : Bool) (plan : Plan)
    (overrides : Overrides ε) : Started ε :=
  match source.load plan.directory with
  | none => ⟨.error .configuration, []⟩
  | some settings =>
    if plan.installCounters && countersInUse then
      ⟨.error (.assembly (.recorderRefused countersReason)), []⟩
    else
      let stage := Infrastructure.assemble source.files settings overrides
      match stage.answer with
      | .error e => ⟨.error (.assembly e), stage.notes⟩
      | .ok infrastructure =>
        ⟨.ok ⟨infrastructure, .ofSettings settings, plan.installCounters⟩, stage.notes⟩

end ClientWiring.Startup
