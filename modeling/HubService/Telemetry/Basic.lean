import HubService.Telemetry.Filter
import HubService.Config.Basic

/-!
# Log output

Log output is installed once per process. The first installation checks the configured filter
and fixes the format; every later one leaves things as they are and reports the format already
in effect, whatever configuration it is given (`HubService.Telemetry.initialise`).
A filter that does not check is refused before anything is installed, so a refused
installation can be tried again.
-/

namespace HubService.Telemetry

open HubService.Config

/-- Why log output could not be installed. -/
inductive TelemetryError where
  /-- The filter, as configured, and why it is refused. -/
  | filter (directives : String) (e : FilterError)
  deriving DecidableEq, Repr

/-- Whether the failure stops the program instead of being reported. -/
def TelemetryError.halts : TelemetryError → Bool
  | .filter _ e => e.halts

/-- The words for log output that could not be installed. -/
def TelemetryError.message : TelemetryError → String
  | .filter directives e => "invalid log filter `" ++ directives ++ "`: " ++ e.message

end HubService.Telemetry

namespace HubService

open HubService.Config in
/-- The log output of a process: the format in effect, once installed. -/
structure Telemetry where
  installed : Option LogFormat := none
  deriving DecidableEq, Repr

end HubService

namespace HubService.Telemetry

open HubService.Config

/-- Installs log output for a configuration, if none is installed yet; the format in effect. -/
def initialise (t : Telemetry) (c : Config) : Except TelemetryError (LogFormat × Telemetry) :=
  match t.installed with
  | some f => .ok (f, t)
  | none =>
    match checkFilter c.logFilter with
    | .error e => .error (.filter c.logFilter e)
    | .ok () => .ok (c.logFormat, { installed := some c.logFormat })

/-- **Installed once**: after a first installation, every later one reports the same format. -/
theorem initialise_installed (t : Telemetry) (f : LogFormat) (h : t.installed = some f)
    (c : Config) : t.initialise c = .ok (f, t) := by
  simp [initialise, h]

end HubService.Telemetry
