import ShareAgent.Daemon.Start

/-! # The command line of the daemon

Reads the arguments and the environment, prepares the directory for mounts and reports. Serving
remote calls is not part of this library, so a daemon that is ready has nothing to serve with and
fails. -/
namespace ShareAgent.Main

/-- The calls that a start makes, on the real operating system. No other call is made. -/
def perform : (call : KernelCall) → IO call.Answer
  | .makeDirectories path => do
    match ← (IO.FS.createDirAll (String.ofList path.text)).toBaseIO with
    | .ok () => return .ok ()
    | .error e => return .error (.other (Text.ofString (toString e)))
  | .resolve _ => return .error .notPermitted
  | .mountTable => return .error .notPermitted
  | .readFile _ => return .error .notPermitted
  | .writeFile _ _ => return .error .notPermitted
  | .rename _ _ => return .error .notPermitted
  | .listDirectory _ => return .error .notPermitted
  | .fileStatus _ => return .error .notPermitted
  | .mount _ _ _ => return .error .notPermitted
  | .unmount _ => return .error .notPermitted
  | .hangUp _ => return .error .notPermitted
  | .run command => return .error (.unexpected command.line)
  | .pause _ => return ()

/-- Holds a dialogue with the real operating system. -/
def hold {α : Type} : OnKernel α → IO α
  | .done a => return a
  | .ask call next => do hold (next (← perform call))

/-- The variables of the environment that the daemon reads. -/
def variableNames : List Text :=
  Daemon.Opt.all.map Daemon.Opt.environmentName ++
    [Layout.deviceRootVariable, Layout.mapperRootVariable, Layout.exportRootVariable,
      Daemon.filterVariable]

/-- The environment, as far as the daemon reads it. -/
def environment : IO (List (Text × Bytes)) :=
  variableNames.filterMapM fun name => do
    let value ← IO.getEnv (String.ofList name)
    return value.map fun value => (name, Utf8.encode (Text.ofString value))

end ShareAgent.Main

open ShareAgent in
/-- Runs the daemon. -/
def main (arguments : List String) : IO UInt32 := do
  let settings ← Main.environment
  let (exit, records) ← Main.hold <|
    Daemon.run (fun name => settings.lookup name)
      (arguments.map fun word => Utf8.encode (Text.ofString word))
  for r in records do
    IO.print (String.ofList r.line)
  return exit.code.toUInt32
