import HubService.Config.LogFormat
import HubService.Duration

/-!
# Service configuration

Eight settings, each with a default:

| setting | default | meaning |
|---|---|---|
| `hub_host` | `127.0.0.1` | the hub's address |
| `hub_port` | `1239` | the hub's port |
| `service_name` | `template` | the name announced when registering |
| `log_filter` | `warn` | which log events are written |
| `log_format` | `json` | how log lines are written |
| `reconnect_delay_secs` | `10` | the wait before reconnecting |
| `call_timeout_secs` | `30` | how long a call waits for its response |
| `dispatch_concurrency` | `64` | how many inbound frames are served at once |

A dispatch concurrency of zero is taken as one (`HubService.Config.concurrency`).

As JSON a configuration is an object of the eight settings in that order
(`HubService.Config.jsonText`); it is read back from an object that has all eight,
whatever else it has, or from an array of the eight in order (`HubService.Config.decode`).
-/

namespace HubService.Config

open HubService.Json

/-- The default hub address. -/
def defaultHubHost : String := "127.0.0.1"

/-- The default hub port. -/
def defaultHubPort : Nat := 1239

/-- The default service name. -/
def defaultServiceName : String := "template"

/-- The default log filter. -/
def defaultLogFilter : String := "warn"

/-- The default delay before reconnecting, in seconds. -/
def defaultReconnectDelaySecs : Nat := 10

/-- The default call timeout, in seconds. -/
def defaultCallTimeoutSecs : Nat := 30

/-- The default dispatch concurrency. -/
def defaultDispatchConcurrency : Nat := 64

end HubService.Config

namespace HubService

open Config in
/-- A service configuration. -/
structure Config where
  hubHost : String := defaultHubHost
  hubPort : Nat := defaultHubPort
  serviceName : String := defaultServiceName
  logFilter : String := defaultLogFilter
  logFormat : LogFormat := .json
  reconnectDelaySecs : Nat := defaultReconnectDelaySecs
  callTimeoutSecs : Nat := defaultCallTimeoutSecs
  dispatchConcurrency : Nat := defaultDispatchConcurrency
  deriving DecidableEq, Repr, Inhabited

end HubService

namespace HubService.Config

open HubService.Json

/-- The hub address as `host:port`. -/
def hubAddress (c : Config) : String := c.hubHost ++ ":" ++ toString c.hubPort

/-- The wait before reconnecting. -/
def reconnectDelay (c : Config) : Duration := Duration.ofSeconds c.reconnectDelaySecs

/-- How long a call waits for its response. -/
def callTimeout (c : Config) : Duration := Duration.ofSeconds c.callTimeoutSecs

/-- How many inbound frames are served at once: never less than one. -/
def concurrency (c : Config) : Nat := max c.dispatchConcurrency 1

/-- The names of the settings, in order. -/
def fieldNames : List String :=
  ["hub_host", "hub_port", "service_name", "log_filter", "log_format", "reconnect_delay_secs",
    "call_timeout_secs", "dispatch_concurrency"]

/-- The configuration as a compact JSON object, settings in order. -/
def jsonText (c : Config) : String :=
  let item (k v : String) := quote k ++ ":" ++ v
  "\x7b" ++ ",".intercalate [item "hub_host" (quote c.hubHost), item "hub_port" (toString c.hubPort),
    item "service_name" (quote c.serviceName), item "log_filter" (quote c.logFilter),
    item "log_format" (quote c.logFormat.text),
    item "reconnect_delay_secs" (toString c.reconnectDelaySecs),
    item "call_timeout_secs" (toString c.callTimeoutSecs),
    item "dispatch_concurrency" (toString c.dispatchConcurrency)] ++ "\x7d"

/-! ### Reading a configuration from JSON -/

/-- A configuration whose settings have been read one at a time. -/
structure Partial where
  hubHost : Option String := none
  hubPort : Option Nat := none
  serviceName : Option String := none
  logFilter : Option String := none
  logFormat : Option LogFormat := none
  reconnectDelaySecs : Option Nat := none
  callTimeoutSecs : Option Nat := none
  dispatchConcurrency : Option Nat := none

/-- Reads one setting by name into a partial configuration; other names are ignored. -/
def Partial.set (p : Partial) (name : String) (v : Value) : Except DecodeError Partial :=
  match name with
  | "hub_host" => return { p with hubHost := some (← decodeString v) }
  | "hub_port" => return { p with hubPort := some (← decodeUnsigned 16 "u16" v) }
  | "service_name" => return { p with serviceName := some (← decodeString v) }
  | "log_filter" => return { p with logFilter := some (← decodeString v) }
  | "log_format" => return { p with logFormat := some (← LogFormat.decode v) }
  | "reconnect_delay_secs" => return { p with reconnectDelaySecs := some (← decodeUnsigned 64 "u64" v) }
  | "call_timeout_secs" => return { p with callTimeoutSecs := some (← decodeUnsigned 64 "u64" v) }
  | "dispatch_concurrency" =>
    return { p with dispatchConcurrency := some (← decodeUnsigned 64 "usize" v) }
  | _ => return p

/-- The value of a setting, or a refusal naming it as missing. -/
def required {α : Type} (name : String) : Option α → Except DecodeError α
  | some a => .ok a
  | none => .error (.missingField name)

/-- A complete configuration from its settings; the first missing one, in order, is refused. -/
def Partial.finish (p : Partial) : Except DecodeError Config := do
  return {
    hubHost := ← required "hub_host" p.hubHost
    hubPort := ← required "hub_port" p.hubPort
    serviceName := ← required "service_name" p.serviceName
    logFilter := ← required "log_filter" p.logFilter
    logFormat := ← required "log_format" p.logFormat
    reconnectDelaySecs := ← required "reconnect_delay_secs" p.reconnectDelaySecs
    callTimeoutSecs := ← required "call_timeout_secs" p.callTimeoutSecs
    dispatchConcurrency := ← required "dispatch_concurrency" p.dispatchConcurrency }

/-- What a configuration is called when the wrong kind of value is found for it. -/
def expected : String := "struct Config"

/-- Reads a configuration from a JSON value: an object whose settings are read in key order,
or an array of the eight settings in order. -/
def decode : Value → Except DecodeError Config
  | .object fields => do
    let p ← fields.foldlM (fun p (k, v) => p.set k v) ({} : Partial)
    p.finish
  | .array items => do
    let mut p : Partial := {}
    for (name, i) in fieldNames.zipIdx do
      match items[i]? with
      | some v => p ← p.set name v
      | none => throw (.invalidLength i (expected ++ " with 8 elements"))
    if items.length > 8 then throw (.invalidLength items.length "fewer elements in array")
    p.finish
  | v => .error (.invalidType (Found.ofValue v) expected)

end HubService.Config
