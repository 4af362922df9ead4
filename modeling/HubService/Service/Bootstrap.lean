import HubService.Service.Health
import HubService.Config.Load
import HubService.Telemetry.Basic

/-!
# Bootstrap

Before a service runs, its configuration is loaded and its log output installed, and each step
is reported (`HubService.Service.bootstrap`):

1. `bootstrap_starting`;
2. the configuration is loaded, from a fixed configuration or from the command line, the
   environment and the files the program can see (`HubService.Service.Loader`); a failure is
   reported and ends the bootstrap;
3. log output is installed from the configuration; a failure is reported and ends it;
4. `bootstrap_succeeded`, naming the service.

The program itself (`HubService.Service.startup`) bootstraps from its command line and
environment, and on failure writes one line, `cryptic-service: ` and the reason, and stops with
status 1; a failure that halts (`HubService.Service.BootstrapError.halts`) stops it with status
101 instead.
-/

namespace HubService.Service

open HubService.Config HubService.Telemetry

/-- Where a configuration comes from. -/
inductive Loader where
  /-- A configuration given as it is. -/
  | fixed (c : Config)
  /-- The command line, environment and visible files of the program of this name. -/
  | system (program : String) (args : List String) (env : List (String × String))
      (files : FileView)
  deriving Repr

/-- Loads a configuration. -/
def Loader.load : Loader → Except (List LoadError) Config
  | .fixed c => .ok c
  | .system program args env files => Config.load program args env files

/-- Why a bootstrap failed. -/
inductive BootstrapError where
  | configuration (faults : List LoadError)
  | telemetry (e : TelemetryError)
  deriving Repr

/-- The words for a failed bootstrap. -/
def BootstrapError.message : BootstrapError → String
  | .configuration faults => "failed to load configuration: " ++ faultsMessage faults
  | .telemetry e => "failed to initialise telemetry: " ++ e.message

/-- Whether the failure stops the program at once, with nothing reported: a log filter whose
parts would be cut inside a character. -/
def BootstrapError.halts : BootstrapError → Bool
  | .configuration _ => false
  | .telemetry e => e.halts

/-- The name of the kind of a failed bootstrap. -/
def BootstrapError.kindName : BootstrapError → String
  | .configuration _ => "Configuration"
  | .telemetry _ => "Telemetry"

/-- A finished bootstrap: the configuration, the log format in effect, and the log output. -/
structure Bootstrapped where
  config : Config
  format : LogFormat
  telemetry : Telemetry
  deriving Repr

/-- Bootstraps a service with the process's log output as it stands; the events reported, in
order, and the result. -/
def bootstrap (loader : Loader) (t : Telemetry) :
    List HealthEvent × Except BootstrapError Bootstrapped :=
  match loader.load with
  | .error e =>
    let err := BootstrapError.configuration e
    ([.bootstrapStarting, .bootstrapFailed err.message], .error err)
  | .ok config =>
    match t.initialise config with
    | .error e =>
      let err := BootstrapError.telemetry e
      ([.bootstrapStarting, .bootstrapFailed err.message], .error err)
    | .ok (format, t) =>
      ([.bootstrapStarting, .bootstrapSucceeded config.serviceName], .ok ⟨config, format, t⟩)

/-- The program's name, as it signs what it writes. -/
def programName : String := "cryptic-service"

/-- The line the program writes when it cannot start. -/
def failureLine (e : BootstrapError) : String := programName ++ ": " ++ e.message

/-- What the program does at start: bootstraps from its command line, environment and visible
files, in a process with no log output yet. -/
def startup (args : List String) (env : List (String × String)) (files : FileView) :
    Except BootstrapError Bootstrapped :=
  (bootstrap (.system programName args env files) {}).2

/-- **A failed bootstrap is reported**: its events end with the failure, in the same words. -/
theorem bootstrap_failed_last (loader : Loader) (t : Telemetry) (e : BootstrapError)
    (h : (bootstrap loader t).2 = .error e) :
    (bootstrap loader t).1.getLast? = some (.bootstrapFailed e.message) := by
  unfold bootstrap at h ⊢
  split
  · next err heq => rw [heq] at h; simp at h; subst h; rfl
  · next config heq =>
    rw [heq] at h
    simp only at h ⊢
    split
    · next err2 heq2 => rw [heq2] at h; simp at h; subst h; rfl
    · next p heq2 => rw [heq2] at h; simp at h

end HubService.Service
