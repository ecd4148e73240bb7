import ShareAgent.Daemon.Address
import ShareAgent.HostError
import ShareAgent.Settings
import ShareAgent.Text.Numeral
import ShareAgent.Text.Utf8

/-! # Options of the daemon

An option is given on the command line or by a variable of the environment; the command line wins.
Arguments are octets, because not all of them have to be text. -/
namespace ShareAgent.Daemon

/-- The options of the daemon. -/
inductive Opt
  | volumeName
  | dataEngine
  | encrypted
  | passphrase
  | listen
  | exportConfig
  | exportServer
  | unmountRetries
  | unmountRetryInterval
  | commandTimeout
  | logJson
  deriving DecidableEq, Repr

namespace Opt

/-- All options. -/
def all : List Opt :=
  [volumeName, dataEngine, encrypted, passphrase, listen, exportConfig, exportServer,
    unmountRetries, unmountRetryInterval, commandTimeout, logJson]

/-- The name of an option on the command line, after two hyphens. -/
def name : Opt → Text
  | volumeName => "volume-name"
  | dataEngine => "data-engine"
  | encrypted => "encrypted"
  | passphrase => "passphrase"
  | listen => "listen"
  | exportConfig => "export-config"
  | exportServer => "export-server"
  | unmountRetries => "unmount-retries"
  | unmountRetryInterval => "unmount-retry-interval-ms"
  | commandTimeout => "command-timeout"
  | logJson => "log-json"

/-- The variable of the environment that sets an option. -/
def environmentName : Opt → Text
  | volumeName => "VOLSHARE_VOLUME_NAME"
  | dataEngine => "VOLSHARE_DATA_ENGINE"
  | encrypted => "VOLSHARE_ENCRYPTED"
  | passphrase => "VOLSHARE_PASSPHRASE"
  | listen => "VOLSHARE_LISTEN"
  | exportConfig => "VOLSHARE_EXPORT_CONFIG"
  | exportServer => "VOLSHARE_EXPORT_SERVER"
  | unmountRetries => "VOLSHARE_UNMOUNT_RETRIES"
  | unmountRetryInterval => "VOLSHARE_UNMOUNT_RETRY_INTERVAL_MS"
  | commandTimeout => "VOLSHARE_COMMAND_TIMEOUT"
  | logJson => "VOLSHARE_LOG_JSON"

/-- The option takes no value on the command line. -/
def isFlag : Opt → Bool
  | encrypted => true
  | logJson => true
  | _ => false

end Opt

/-- What the options come to. -/
structure Options where
  volumeName : Text := []
  dataEngine : DataEngine := .v1
  encrypted : Bool := false
  passphrase : Option Text := none
  listen : Address := .four [0, 0, 0, 0] 9600
  exportConfig : Path := defaultExportConfig
  exportServer : Text := defaultServer
  unmountRetries : Nat := 30
  unmountRetryInterval : Nat := 1000
  commandTimeout : Nat := 60
  logJson : Bool := false

namespace Options

/-- A truth value, as the environment spells it. -/
def readFlag? (t : Text) : Option Bool :=
  if t = "true" then some true else if t = "false" then some false else none

/-- A number of 32 bits. It is read as a signed one first, so zero may have a minus sign. -/
def readCount? (t : Text) : Option Nat :=
  match Numeral.readInt 64 t with
  | .ok (.ofNat n) => if n < UInt32.size then some n else none
  | _ => none

/-- Sets an option to a value, if the value makes sense for it. A file name is the only value that
may be no text, but it must not be empty. -/
def set? (o : Options) (opt : Opt) (value : Bytes) : Option Options :=
  match opt with
  | .exportConfig =>
    if value = [] then none else some { o with exportConfig := ⟨Utf8.decodeLossy value⟩ }
  | _ =>
    (Utf8.decode? value).bind fun t =>
      match opt with
      | .volumeName => some { o with volumeName := t }
      | .dataEngine => (DataEngine.ofSetting t).toOption.map fun engine =>
        { o with dataEngine := engine }
      | .encrypted => (readFlag? t).map fun flag => { o with encrypted := flag }
      | .passphrase => some { o with passphrase := some t }
      | .listen => (Address.read? t).map fun address => { o with listen := address }
      | .exportConfig => some o
      | .exportServer => some { o with exportServer := t }
      | .unmountRetries => (readCount? t).map fun n => { o with unmountRetries := n }
      | .unmountRetryInterval =>
        (Numeral.readWord 64 t).toOption.map fun n => { o with unmountRetryInterval := n }
      | .commandTimeout =>
        (Numeral.readWord 64 t).toOption.map fun n => { o with commandTimeout := n }
      | .logJson => (readFlag? t).map fun flag => { o with logJson := flag }

/-- What a command line asks for. -/
inductive Request
  | serve (options : Options)
  | help
  | version
  | refuse

/-- The option with a name. -/
def named? (name : Bytes) : Option Opt :=
  Opt.all.find? fun opt => Utf8.encode opt.name == name

/-- The octets in front of the name of an option. -/
def hyphens : Bytes := Utf8.encode "--"

/-- The option that asks how the daemon is used. -/
def helpWord : Bytes := Utf8.encode "help"

/-- The option that asks which version the daemon is. -/
def versionWord : Bytes := Utf8.encode "version"

/-- The part before an equals sign, and the part after it if there is one. -/
def splitValue (word : Bytes) : Bytes × Option Bytes :=
  let name := word.takeWhile (· != 0x3D)
  match word.drop name.length with
  | [] => (name, none)
  | _ :: value => (name, some value)

/-- The word can be the value of an option before it. -/
def isValue (word : Bytes) : Bool := word.head? != some 0x2D || word == [0x2D]

/-- Sets the options that the command line left to the environment. -/
def fromEnvironment (environment : Opt → Option Bytes) (given : List Opt) (o : Options) : Request :=
  let left := Opt.all.filter (! given.contains ·)
  let step (o : Option Options) (opt : Opt) : Option Options :=
    match o, environment opt with
    | some o, some value => o.set? opt value
    | o, none => o
    | none, _ => none
  match left.foldl step (some o) with
  | some o => .serve o
  | none => .refuse

/-- Reads the arguments of a command line, then the environment. `given` are the options so far. -/
def readArguments (environment : Opt → Option Bytes) (given : List Opt) (o : Options) :
    List Bytes → Request
  | [] => fromEnvironment environment given o
  | word :: rest =>
    if word = hyphens then
      if rest = [] then fromEnvironment environment given o else .refuse
    else if word.take 2 = hyphens then
      match splitValue (word.drop 2) with
      | (name, value?) =>
        if name = helpWord then if value?.isNone then .help else .refuse
        else if name = versionWord then if value?.isNone then .version else .refuse
        else match named? name, value? with
          | none, _ => .refuse
          | some opt, value? =>
            if given.contains opt then .refuse
            else if opt.isFlag then
              match value?, o.set? opt (Utf8.encode "true") with
              | none, some o => readArguments environment (opt :: given) o rest
              | _, _ => .refuse
            else match value?, rest with
              | some value, rest =>
                match o.set? opt value with
                | some o => readArguments environment (opt :: given) o rest
                | none => .refuse
              | none, value :: rest =>
                if ! isValue value then .refuse
                else match o.set? opt value with
                  | some o => readArguments environment (opt :: given) o rest
                  | none => .refuse
              | none, [] => .refuse
    else match word with
      | [] => .refuse
      | 0x2D :: 0x68 :: _ => .help
      | 0x2D :: 0x56 :: _ => .version
      | _ => .refuse

/-- Reads a command line. -/
def read (environment : Opt → Option Bytes) (arguments : List Bytes) : Request :=
  readArguments environment [] {} arguments

/-- The volume to be served. A passphrase makes it an encrypted one. -/
def volume (o : Options) : Volume :=
  let volume := { Volume.named o.volumeName o.dataEngine with encrypted := o.encrypted }
  match o.passphrase with
  | none => volume
  | some passphrase => volume.withPassphrase passphrase

/-- The settings of the agent. -/
def settings (o : Options) (layout : Layout) : Settings :=
  { Settings.standard layout with
    exportConfig := o.exportConfig
    exportServer := o.exportServer
    unmountRetries := o.unmountRetries
    unmountRetryInterval := .ofMilliseconds o.unmountRetryInterval
    commandTimeout := .ofSeconds o.commandTimeout }

end Options
end ShareAgent.Daemon
