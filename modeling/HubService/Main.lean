import HubService.Service.Bootstrap
import HubService.Service.Connection

/-!
# The command line

`cryptic-service [OPTIONS]` bootstraps a service from its options, its `CRYPTIC_*`
environment variables and the configuration file they name, if any
(`HubService.Service.startup`). When that fails it writes why, as
`cryptic-service: <reason>` on standard error, and exits with status 1; a failure that halts,
or a service that cannot start (`HubService.Service.ConnectionSettings.startable`), stops it with
status 101. Otherwise the service is ready, and the program holds it until its standard input
ends, then exits with status 0.
-/

namespace HubService.Cli

open HubService.Config HubService.Service

/-- The environment variables that give settings or name a configuration file, as they are
set. -/
def settingsEnv : IO (List (String × String)) := do
  let mut found := []
  for name in Config.fieldNames ++ ["config_path"] do
    let key := envPrefix ++ name.toUpper
    match ← IO.getEnv key with
    | some v => found := found ++ [(key, v)]
    | none => pure ()
  return found

/-- The system's code for reading a directory as a file. -/
def isDirectoryCode : UInt32 := 21

/-- What is at a path of the file system, by what reading it finds. -/
def probe (path : String) : IO PathKind := do
  try
    return .regular (← IO.FS.readFile path)
  catch e =>
    match e with
    | .noFileOrDirectory .. => return .missing
    | .inappropriateType _ code _ => return if code == isDirectoryCode then .directory else .device
    | _ => return .device

/-- The absolute paths that lead to a path, itself included. -/
def pathsTo (path : String) : List String :=
  let parts := (path.splitOn "/").filter fun part => part ≠ "" ∧ part ≠ "." ∧ part ≠ ".."
  (List.range parts.length).map fun n => "/" ++ "/".intercalate (parts.take (n + 1))

/-- The files the program can see: those on the way to the configuration file its arguments or
environment name, and the file itself. -/
def visibleFiles (args : List String) (env : List (String × String)) : IO FileView := do
  match configPathOf (readCommandLine args) env with
  | some (path, _) =>
    let mut view := []
    for p in pathsTo path do
      view := view ++ [(p, ← probe p)]
    return view
  | none => return []

/-- Waits for standard input to end. -/
partial def holdUntilEnd (stdin : IO.FS.Stream) : IO Unit := do
  let line ← stdin.getLine
  if line.isEmpty then return
  holdUntilEnd stdin

end HubService.Cli

open HubService.Cli HubService.Service in
/-- Bootstraps the service, reporting a failure, and holds it until the input ends. -/
def main (args : List String) : IO UInt32 := do
  let env ← settingsEnv
  match startup args env (← visibleFiles args env) with
  | .error e =>
    if e.halts then
      (← IO.getStderr).putStrLn ("the log filter cannot be cut: " ++ e.message)
      return 101
    (← IO.getStderr).putStrLn (failureLine e)
    return 1
  | .ok b =>
    if !(ConnectionSettings.ofConfig b.config).startable then
      (← IO.getStderr).putStrLn "the admission slots do not fit in a semaphore"
      return 101
    holdUntilEnd (← IO.getStdin)
    return 0
